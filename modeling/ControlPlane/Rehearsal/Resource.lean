import ControlPlane.Compensation
import ControlPlane.Rehearsal.Faults

/-!
# Rehearsing compensation

One resource in memory with a state, whose reads and writes may be written down to fail; a write
that fails leaves the state as it was. Accesses and events are recorded. What the steps of a
rehearsal note down is theirs.
-/
namespace ControlPlane.Rehearsal

/-- What steps on a resource ask for. -/
inductive ResourceRequest (σ Step : Type) where
  | read
  | write (state : σ)
  | step (step : Step)

/-- The type of the answer to a request. -/
abbrev ResourceRequest.Answer {σ Step : Type} (Reply : Type) : ResourceRequest σ Step → Type
  | read => Except String σ
  | write _ => Except String Unit
  | step _ => Reply

/-- The requests, answers and marks of steps on a resource. -/
abbrev resourceInterface (σ Step Reply : Type) : Interface :=
  ⟨ResourceRequest σ Step, ResourceRequest.Answer Reply, Event⟩

/-- An access of a resource. -/
inductive Access (σ : Type) where
  | read
  | write (state : σ)

/-- A resource. -/
structure Resource (σ ν : Type) where
  /-- The name of the resource. -/
  name : String
  /-- The state that the resource is in. -/
  state : σ
  /-- What happens to the next calls of `read` and `write`. -/
  faults : Faults String
  /-- The accesses so far. -/
  accesses : List (Access σ)
  /-- The events so far. -/
  events : List Event
  /-- What the steps have noted down. -/
  notes : ν

namespace Resource

variable {σ ν Step Reply : Type}

/-- The accessor of a resource. -/
def accessor (name : String) : Compensation.Accessor (resourceInterface σ Step Reply) σ String where
  name := name
  read := @Program.request (resourceInterface σ Step Reply) .read
  write state := @Program.request (resourceInterface σ Step Reply) (.write state)

/-- Read the state. -/
def read (resource : Resource σ ν) : Except String σ × Resource σ ν :=
  let (fault, faults) := resource.faults.take "read"
  (match fault with
    | some fault => .error fault.failure
    | none => .ok resource.state,
    { resource with faults, accesses := resource.accesses ++ [.read] })

/-- Write a state. -/
def write (state : σ) (resource : Resource σ ν) : Except String Unit × Resource σ ν :=
  let (fault, faults) := resource.faults.take "write"
  let after := { resource with faults, accesses := resource.accesses ++ [.write state] }
  match fault with
  | some fault => (.error fault.failure, after)
  | none => (.ok (), { after with state })

/-- Answer a request. -/
def answer (run : Step → Resource σ ν → Reply × Resource σ ν) :
    (request : ResourceRequest σ Step) → Resource σ ν → request.Answer Reply × Resource σ ν
  | .read, resource => resource.read
  | .write state, resource => resource.write state
  | .step step, resource => run step resource

/-- Keep an event. -/
def keep (event : Event) (resource : Resource σ ν) : Resource σ ν :=
  { resource with events := resource.events ++ [event] }

/-- A resource as the surroundings of steps. -/
def surroundings (run : Step → Resource σ ν → Reply × Resource σ ν) :
    Surroundings (resourceInterface σ Step Reply) (Resource σ ν) := ⟨answer run, keep⟩

end Resource

end ControlPlane.Rehearsal
