import ControlPlane.Report.Basic

/-!
# Reports on policies

A report on a policy document shows what is in it and how large it is; a report on an edit shows the
edited document, or that there was nothing to change.
-/
namespace ControlPlane.Report

/-- The name of a kind of policy. -/
def policyKind : PolicyKind → String
  | .managed => "Managed"
  | .glue => "Glue"
  | .bucket => "Bucket"
  | .key => "Kms"
  | .topic => "Sns"

/-- A policy error. -/
def policyError (error : PolicyError) : Json :=
  match error with
  | .unreadable fault => readFault "Json" PolicyError.unreadableText fault
  | .statementNotFound _ => failure "StatementNotFound" error.message []
  | .tooLarge size limit =>
    failure "SizeExceeded" error.message [("size", count size), ("limit", count limit)]
  | .invalidStatement defect _ =>
    failure "InvalidStatement" error.message [("reason", .string defect.text)]
  | .malformed _ => failure "Malformed" error.message []

/-- A policy document. -/
def policy (document : PolicyDocument) : Json :=
  .object [("version", .string document.version),
    ("type", optionalText (document.kind.map policyKind)),
    ("limit", optional (document.kind.map fun kind => count kind.limit)),
    ("hash", optionalText document.storeHash),
    ("has_statements", .bool (!document.statements.isEmpty)),
    ("sids", .array (document.statements.map fun statement => optional (statement.find? "Sid"))),
    ("size", count document.size), ("encoded", .string document.encode)]

/-- An edit of a document with its events: the document afterwards, and a report. -/
def policyEdit (document : PolicyDocument) (events : List Event) :
    Except PolicyError (Option PolicyDocument) → PolicyDocument × Json
  | .ok none => (document, .object [("unchanged", .bool true)])
  | .ok (some edited) => (edited, extend (policy edited) (logs events))
  | .error error => (document, extend (policyError error) (logs events))

/-- Principals by their types. -/
def principals (gathered : Dictionary (List String)) : Json :=
  .object (gathered.entries.map fun entry => (entry.1, texts entry.2))

end ControlPlane.Report
