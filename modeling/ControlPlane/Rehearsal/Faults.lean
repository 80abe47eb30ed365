import ControlPlane.Dictionary

/-!
# Faults written down beforehand

A rehearsal runs operations against surroundings whose failures are written down beforehand: for
each kind of call a list of what happens to the next ones. A call without an entry, or with an empty
one, goes through.
-/
namespace ControlPlane.Rehearsal

/-- A call that fails. -/
structure Fault (ε : Type) where
  /-- The failure that is answered. -/
  failure : ε
  /-- Whether the call takes effect all the same. -/
  takesEffect : Bool

/-- What happens to the next calls, by the names of the calls. -/
abbrev Faults (ε : Type) := Dictionary (List (Option (Fault ε)))

namespace Faults

variable {ε : Type}

/-- What happens to the next call of a name, and what is left for later ones. -/
def take (faults : Faults ε) (call : String) : Option (Fault ε) × Faults ε :=
  match faults.find? call with
  | some (next :: rest) => (next, faults.insert call rest)
  | _ => (none, faults)

end Faults

end ControlPlane.Rehearsal
