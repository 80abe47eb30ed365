import ControlPlane.Json.Printer
import ControlPlane.NameSet

/-!
# Policy statements

A statement of an access policy is a JSON object. Statements are told apart by their `Sid`, if it
is a string; a statement without one can be added but not found again.

`StatementDefect.of?` finds what is wrong with a statement of a resource policy, which needs five
keys, admits one more, and names its principals by type.
-/
namespace ControlPlane

/-- A statement of an access policy. -/
abbrev Statement := JsonObject

namespace Statement

/-- The identifier of a statement. -/
def sid? (statement : Statement) : Option String := (statement.find? "Sid").bind Json.asString?

/-- The strings of a field that holds a string or a list. -/
def strings (statement : Statement) (key : String) : List String :=
  match statement.find? key with
  | some value => value.stringOrList
  | none => []

/-- The resources that a statement is about. -/
def resources (statement : Statement) : NameSet := .ofList (statement.strings "Resource")

/-- The principals of a statement with their types, as they stand in it. -/
def principalMembers (statement : Statement) : List (String × Json) :=
  match statement.find? "Principal" with
  | some (.object members) => members
  | _ => []

/-- Whether a statement names an action, whatever its effect. -/
def names (statement : Statement) (action : String) : Bool :=
  (statement.strings "Action").contains action

end Statement

/-- What is wrong with a statement of a resource policy. -/
inductive StatementDefect where
  /-- A required key is not there. -/
  | missingKey
  /-- There is a key that is not allowed. -/
  | unsupportedKey
  /-- The effect is neither of the two. -/
  | invalidEffect
  /-- The principals are not of the allowed types. -/
  | invalidPrincipal
deriving DecidableEq, Repr

namespace StatementDefect

/-- The wording of a defect. -/
def text : StatementDefect → String
  | missingKey => "missing required key"
  | unsupportedKey => "unsupported keys"
  | invalidEffect => "invalid effect"
  | invalidPrincipal => "invalid principal"

/-- The keys that a statement needs. -/
def requiredKeys : List String := ["Sid", "Effect", "Principal", "Action", "Resource"]

/-- The keys that a statement may have besides. -/
def optionalKeys : List String := ["Condition"]

/-- The types of principals. -/
def principalTypes : List String := ["AWS", "Federated"]

/-- The effects of a statement. -/
def effects : List String := ["Allow", "Deny"]

/-- Whether the effect of a statement is one of the two. -/
def effectIsValid (statement : Statement) : Bool :=
  match statement.find? "Effect" with
  | some (.string effect) => effects.contains effect
  | _ => false

/-- Whether the principals of a statement are an object of known types. -/
def principalIsValid (statement : Statement) : Bool :=
  match statement.find? "Principal" with
  | some (.object members) => members.all fun member => principalTypes.contains member.1
  | _ => false

/-- The first defect of a statement, if it has any. -/
def of? (statement : Statement) : Option StatementDefect :=
  if ¬ requiredKeys.all fun key => (statement.find? key).isSome then some missingKey
  else if ¬ statement.keys.all fun key => requiredKeys.contains key || optionalKeys.contains key then
    some unsupportedKey
  else if ¬ effectIsValid statement then some invalidEffect
  else if ¬ principalIsValid statement then some invalidPrincipal
  else none

end StatementDefect

end ControlPlane
