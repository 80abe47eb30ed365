/-!
# Events

Operations report warnings and errors as events: a message with named fields. An event is part of
what an operation does, so it stands in the operation's program where it is reported.
-/
namespace ControlPlane

/-- How serious an event is. -/
inductive Severity where
  | warning
  | error
deriving DecidableEq, Repr

/-- The value of a field of an event. -/
inductive EventValue where
  | count (value : Int)
  | text (value : String)
deriving DecidableEq, Repr

/-- Something worth the attention of an operator. -/
structure Event where
  /-- How bad it is. -/
  severity : Severity
  /-- The wording of the event. -/
  message : String
  /-- What else is known, by name. -/
  fields : List (String × EventValue)
deriving DecidableEq, Repr

end ControlPlane
