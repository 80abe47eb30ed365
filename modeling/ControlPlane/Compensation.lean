import ControlPlane.Event
import ControlPlane.Program

/-!
# Compensation

A new state is applied before a body runs and is seen by everybody from then on. If the body fails,
the prior state is put back as well as possible, and the body's error is the result.
-/
namespace ControlPlane.Compensation

variable {interface : Interface} {τ α ε υ σ φ : Type}

/-- The event of a failed body. -/
def rollbackWarning (resource error : String) : Event :=
  ⟨.warning, "Operation failed, rolling back",
    [("resource", .text resource), ("error", .text error)]⟩

/-- The event of a failed rollback. -/
def rollbackReport (resource error : String) : Event :=
  ⟨.error, "Rollback failed; resource left in its new state",
    [("resource", .text resource), ("error", .text error)]⟩

/-- Undo what was applied because of an error, and give the error. -/
def rollBack (note : Event → interface.Mark) (resource : String) (undo : Program interface (Except υ Unit))
    (describe : ε → String) (describeUndo : υ → String) (error : ε) :
    Program interface (Except ε α) := do
  Program.mark (note (rollbackWarning resource (describe error)))
  match ← undo with
  | .ok () => return .error error
  | .error undoError =>
    Program.mark (note (rollbackReport resource (describeUndo undoError)))
    return .error error

/-- Apply a new state, run a body, and undo the first if the second fails. What was applied gives a
token for undoing it. -/
def run (note : Event → interface.Mark) (resource : String) (describe : ε → String)
    (describeUndo : υ → String) (apply : Program interface (Except ε τ))
    (undo : τ → Program interface (Except υ Unit)) (body : Program interface (Except ε α)) :
    Program interface (Except ε α) := do
  match ← apply with
  | .error error => return .error error
  | .ok token =>
    match ← body with
    | .ok value => return .ok value
    | .error error => rollBack note resource (undo token) describe describeUndo error

/-- Reads and writes the state of a resource. -/
structure Accessor (interface : Interface) (σ φ : Type) where
  /-- The name of the resource. -/
  name : String
  /-- Read the state. -/
  read : Program interface (Except φ σ)
  /-- Write a state. -/
  write : σ → Program interface (Except φ Unit)

/-- Write a state, and remember another one. -/
def Accessor.replace (accessor : Accessor interface σ φ) (lift : φ → ε) (prior state : σ) :
    Program interface (Except ε σ) := do
  match ← accessor.write state with
  | .ok () => return .ok prior
  | .error error => return .error (lift error)

/-- Run a body under a new state of a resource, and write the prior state back if the body
fails. -/
def withState (note : Event → interface.Mark) (accessor : Accessor interface σ φ) (lift : φ → ε)
    (describe : ε → String) (describeAccess : φ → String) (state : σ)
    (body : Program interface (Except ε α)) : Program interface (Except ε α) := do
  match ← accessor.read with
  | .error error => return .error (lift error)
  | .ok prior =>
    run note accessor.name describe describeAccess (accessor.replace lift prior state)
      accessor.write body

end ControlPlane.Compensation
