import ControlPlane.Event
import ControlPlane.Json.Reader
import ControlPlane.Policy.Statement

/-!
# Policy documents

A policy document has a version and statements. It may have a kind, which limits the size of its
written form; notification topics also want every statement well-formed.

An edit first makes a candidate, the edited document whatever its size (`put`, `without`), and the
candidate is then checked (`check`). A candidate close to its limit is reported (`warnings`).
-/
namespace ControlPlane

/-- What a policy is attached to. -/
inductive PolicyKind where
  | managed
  | glue
  | bucket
  | key
  | topic
deriving DecidableEq, Repr

namespace PolicyKind

/-- The largest size of the written form in bytes. -/
def limit : PolicyKind → Nat
  | managed => 6144
  | glue => 10240
  | bucket => 20480
  | key => 32768
  | topic => 30720

end PolicyKind

/-- Why there is no policy document. -/
inductive PolicyError where
  /-- There is no statement of the identifier. -/
  | statementNotFound (sid : String)
  /-- The written form is over the limit of its kind. -/
  | tooLarge (size limit : Nat)
  /-- A statement is not one that the policy of a topic may have. -/
  | invalidStatement (defect : StatementDefect) (statement : Statement)
  /-- The text is a JSON value, but not a policy. -/
  | malformed (reason : String)
  /-- The text is no JSON value. -/
  | unreadable (fault : ReadFault)

namespace PolicyError

/-- What an unreadable policy is reported with, before the reason. -/
def unreadableText : String := "Failed to parse policy JSON: "

/-- The wording of an error. -/
def message : PolicyError → String
  | statementNotFound sid => "Statement with Sid '" ++ sid ++ "' not found"
  | tooLarge size limit =>
    "Policy size " ++ toString size ++ " exceeds the " ++ toString limit ++ " byte limit"
  | invalidStatement defect statement =>
    "Invalid statement in resource policy (" ++ defect.text ++ "): " ++ statement.compact
  | malformed reason => "Malformed policy document: " ++ reason
  | unreadable fault => unreadableText ++ fault.message

end PolicyError

/-- An access policy. -/
structure PolicyDocument where
  /-- The version of the policy language. -/
  version : String
  /-- The statements in their order. -/
  statements : List Statement
  /-- What the policy is attached to, if its limits matter. -/
  kind : Option PolicyKind
  /-- The hash that the store keeps with the policy. -/
  storeHash : Option String

namespace PolicyDocument

/-- The version of a policy that names none. -/
def defaultVersion : String := "2012-10-17"

/-- A candidate without a hash. -/
def ofStatements (version : String) (statements : List Statement) (kind : Option PolicyKind) :
    PolicyDocument := ⟨version, statements, kind, none⟩

/-- The document as a value. -/
def toJson (document : PolicyDocument) : Json :=
  .object [("Statement", .array (document.statements.map JsonObject.toJson)),
    ("Version", .string document.version)]

/-- The written form of a document. -/
def encode (document : PolicyDocument) : String := document.toJson.compact

/-- The size of the written form in bytes. -/
def size (document : PolicyDocument) : Nat := document.encode.utf8ByteSize

/-- The written form with its kind of value, for logs. -/
def debugText (document : PolicyDocument) : String := "PolicyDocument(" ++ document.encode ++ ")"

/-- The first statement with an identifier. -/
def statement? (document : PolicyDocument) (sid : String) : Option Statement :=
  document.statements.find? fun statement => statement.sid? = some sid

/-- Whether a statement has an identifier. -/
def hasSid (document : PolicyDocument) (sid : String) : Bool := (document.statement? sid).isSome

/-- The statement with an identifier. -/
def statement (document : PolicyDocument) (sid : String) : Except PolicyError Statement :=
  match document.statement? sid with
  | some statement => .ok statement
  | none => .error (.statementNotFound sid)

/-- Put a statement in the place of the first one with the given identifier, or at the end. -/
def replaceFirst (sid : String) (statement : Statement) : List Statement → List Statement
  | [] => [statement]
  | first :: rest =>
    if first.sid? = some sid then statement :: rest
    else first :: replaceFirst sid statement rest

/-- The candidate with a statement added, in the place of the first one with the same identifier
if there is one. -/
def put (document : PolicyDocument) (statement : Statement) : PolicyDocument :=
  { document with
    statements := match statement.sid? with
      | some sid => replaceFirst sid statement document.statements
      | none => document.statements ++ [statement] }

/-- The candidate without any statement of an identifier. -/
def without (document : PolicyDocument) (sid : String) : PolicyDocument :=
  { document with
    statements := document.statements.filter fun statement => statement.sid? ≠ some sid }

/-- The first statement that no resource policy may have. -/
def checkStatements : List Statement → Except PolicyError Unit
  | [] => .ok ()
  | statement :: rest => match StatementDefect.of? statement with
    | some defect => .error (.invalidStatement defect statement)
    | none => checkStatements rest

/-- A candidate, if it keeps to the rules of its kind. -/
def check (candidate : PolicyDocument) : Except PolicyError PolicyDocument :=
  match candidate.kind with
  | none => .ok candidate
  | some kind =>
    if kind.limit < candidate.size then .error (.tooLarge candidate.size kind.limit)
    else if kind = .topic then
      match checkStatements candidate.statements with
      | .ok () => .ok candidate
      | .error error => .error error
    else .ok candidate

/-- Whether a size is within a limit but above nineteen twentieths of it. -/
def isClose (size limit : Nat) : Bool := size ≤ limit && 95 * limit < 100 * size

/-- The events of checking a candidate: one if its size is close to the limit. -/
def warnings (candidate : PolicyDocument) : List Event :=
  match candidate.kind with
  | none => []
  | some kind =>
    if isClose candidate.size kind.limit then
      [⟨.warning, "Close to policy size limit",
        [("size", .count candidate.size), ("limit", .count kind.limit)]⟩]
    else []

/-- Add a statement, or replace the one with the same identifier. -/
def addOrUpdate (document : PolicyDocument) (statement : Statement) :
    Except PolicyError PolicyDocument := (document.put statement).check

/-- Delete every statement with an identifier. -/
def delete (document : PolicyDocument) (sid : String) : Except PolicyError PolicyDocument :=
  (document.without sid).check

/-- The statements of a list of values. -/
def statementsOfItems : List Json → Except PolicyError (List Statement)
  | [] => .ok []
  | .object members :: rest => do
    let statements ← statementsOfItems rest
    return JsonObject.ofMembers members :: statements
  | other :: _ => .error (.malformed ("statement is not an object: " ++ other.compact))

/-- The candidate of a value. A missing version is the default one, a single statement need not
stand in a list, and other members are ignored. -/
def ofJson (value : Json) (kind : Option PolicyKind) (storeHash : Option String) :
    Except PolicyError PolicyDocument := do
  let .object members := value | .error (.malformed "document is not an object")
  let version ← match Entries.find? members "Version" with
    | some (.string version) => .ok version
    | none => .ok defaultVersion
    | some _ => .error (.malformed "Version is not a string")
  let statements ← match Entries.find? members "Statement" with
    | none => .ok []
    | some (.object statement) => .ok [JsonObject.ofMembers statement]
    | some (.array items) => statementsOfItems items
    | some _ => .error (.malformed "Statement is neither an object nor a list")
  return ⟨version, statements, kind, storeHash⟩

/-- The candidate of a text. -/
def ofText (text : String) (kind : Option PolicyKind) (storeHash : Option String) :
    Except PolicyError PolicyDocument :=
  match Json.parse text with
  | .ok value => ofJson value kind storeHash
  | .error fault => .error (.unreadable fault)

/-- Read a policy document. -/
def read (text : String) (kind : Option PolicyKind) (storeHash : Option String) :
    Except PolicyError PolicyDocument := do
  let candidate ← ofText text kind storeHash
  candidate.check

/-- Add the principals of one type to those gathered so far. -/
def gatherPrincipal (gathered : Dictionary (List String)) (member : String × Json) :
    Dictionary (List String) :=
  gathered.insert member.1 ((gathered.find? member.1).getD [] ++ member.2.stringOrList)

/-- Add the principals of a statement that names an action. -/
def gatherPrincipals (action : String) (gathered : Dictionary (List String))
    (statement : Statement) : Dictionary (List String) :=
  if statement.names action then statement.principalMembers.foldl gatherPrincipal gathered
  else gathered

/-- The principals of the statements that name an action, by type. The effect of a statement plays
no part. -/
def principalsNaming (document : PolicyDocument) (action : String) : Dictionary (List String) :=
  document.statements.foldl (gatherPrincipals action) Dictionary.empty

/-- Two lists of statements are equal one by one. -/
def sameStatements : List Statement → List Statement → Bool
  | [], [] => true
  | first :: firsts, second :: seconds => first.same second && sameStatements firsts seconds
  | _, _ => false

/-- Two documents say the same: kinds and hashes play no part. -/
def same (first second : PolicyDocument) : Bool :=
  first.version = second.version && sameStatements first.statements second.statements

end PolicyDocument

end ControlPlane
