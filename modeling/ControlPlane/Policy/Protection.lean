import ControlPlane.Policy.Document

/-!
# Delete protection

One statement of a policy, known by its identifier, denies the deletion of a set of databases. The
set is read from the statement's resources and kept nowhere else.

An edit that would not change the set leaves the policy alone, so that nothing is written.
-/
namespace ControlPlane.Protection

/-- The identifier of the guard statement. -/
def sid : String := "ResourceLinkDeleteDenyManagedByLakehub"

/-- The action that the guard statement denies. -/
def action : String := "glue:DeleteDatabase"

/-- The resources that a policy guards. -/
def resources (document : PolicyDocument) : NameSet :=
  match document.statement? sid with
  | some statement => statement.resources
  | none => NameSet.empty

/-- The guard statement for a set of resources. -/
def statement (principal : String) (resources : NameSet) : Statement :=
  .ofMembers [("Sid", .string sid), ("Effect", .string "Deny"),
    ("Action", .array [.string action]),
    ("Principal", .object [("AWS", .array [.string principal])]),
    ("Resource", .array (resources.names.map .string))]

/-- A change of the guarded set. -/
inductive Edit where
  /-- Guard resources. -/
  | protect (resources : NameSet)
  /-- Guard resources no more. -/
  | unprotect (resources : NameSet)

/-- The candidate that guards more resources, if there is anything to add. -/
def protected? (document : PolicyDocument) (principal : String) (added : NameSet) :
    Option PolicyDocument :=
  if added.isEmpty || added.subset (resources document) then none
  else some (document.put (statement principal ((resources document).union added)))

/-- The candidate that guards fewer resources, if there is anything to take away. The guard
statement goes with the last resource. -/
def unprotected? (document : PolicyDocument) (principal : String) (removed : NameSet) :
    Option PolicyDocument :=
  if removed.isEmpty || !document.hasSid sid || (resources document).disjoint removed then none
  else
    let remaining := (resources document).difference removed
    if remaining.isEmpty then some (document.without sid)
    else some (document.put (statement principal remaining))

/-- The candidate of an edit, if it changes the guarded set. -/
def Edit.candidate? (edit : Edit) (document : PolicyDocument) (principal : String) :
    Option PolicyDocument :=
  match edit with
  | .protect added => protected? document principal added
  | .unprotect removed => unprotected? document principal removed

/-- The edited document, `none` if the edit is in effect already. -/
def Edit.apply (edit : Edit) (document : PolicyDocument) (principal : String) :
    Except PolicyError (Option PolicyDocument) :=
  match edit.candidate? document principal with
  | none => .ok none
  | some candidate => candidate.check.map some

/-- The events of an edit. -/
def Edit.warnings (edit : Edit) (document : PolicyDocument) (principal : String) : List Event :=
  match edit.candidate? document principal with
  | none => []
  | some candidate => candidate.warnings

/-- What a store without a policy holds: an empty catalog policy. -/
def blank : PolicyDocument := .ofStatements PolicyDocument.defaultVersion [] (some .glue)

/-- The edited document of a store, `none` if the edit is in effect already. -/
def Edit.applyToStored (edit : Edit) (stored : Option PolicyDocument) (principal : String) :
    Except PolicyError (Option PolicyDocument) :=
  match edit, stored with
  | edit, some document => edit.apply document principal
  | .protect _, none => edit.apply blank principal
  | .unprotect _, none => .ok none

/-- The events of an edit of what a store holds. -/
def Edit.storedWarnings (edit : Edit) (stored : Option PolicyDocument) (principal : String) :
    List Event :=
  match edit, stored with
  | edit, some document => edit.warnings document principal
  | .protect _, none => edit.warnings blank principal
  | .unprotect _, none => []

end ControlPlane.Protection
