import ControlPlane.Compensation
import ControlPlane.Lock.Service

/-!
# Updating a protection

An update takes a lock, fetches the policy, edits it and puts it back, unless the edit is in effect
already. Then its body runs; if the body fails, the fetched policy is put back. A policy without
statements is removed from its store.
-/
namespace ControlPlane.Protection

/-- Why a protection was not updated. -/
inductive UpdateError where
  /-- The lock was not acquired, or not released. -/
  | lock (error : LockError)
  /-- The policy cannot be edited. -/
  | policy (error : PolicyError)
  /-- The store of a resource's policy failed. -/
  | store (resource : String) (failure : ServiceFailure)

namespace UpdateError

/-- The wording of an error. -/
def message : UpdateError → String
  | lock error => error.message
  | policy error => error.message
  | store resource _ => "Policy store failure for " ++ resource

end UpdateError

variable {Step Reply α ε : Type}

/-- What a store is to hold for an edited document. -/
def storable (edited : PolicyDocument) : Option PolicyDocument :=
  if edited.statements.isEmpty then none else some edited

/-- Put a policy into a store, and remember another one. -/
def replace (store : String) (lift : UpdateError → ε) (prior policy : Option PolicyDocument) :
    Guarded Step Reply (Except ε (Option PolicyDocument)) := do
  match ← Guarded.request (.put store policy) with
  | .ok () => return .ok prior
  | .error failure => return .error (lift (.store store failure))

/-- Fetch, edit and put back a policy around a body. -/
def editStored (store principal : String) (edit : Edit) (lift : UpdateError → ε)
    (describe : ε → String) (body : Guarded Step Reply (Except ε α)) :
    Guarded Step Reply (Except ε α) := do
  match ← Guarded.request (.fetch store) with
  | .error failure => return .error (lift (.store store failure))
  | .ok stored =>
    Program.marks ((edit.storedWarnings stored principal).map .event)
    match edit.applyToStored stored principal with
    | .error error => return .error (lift (.policy error))
    | .ok none => body
    | .ok (some edited) =>
      Compensation.run .event store describe ServiceFailure.message
        (replace store lift stored (storable edited))
        (fun prior => Guarded.request (.put store prior)) body

/-- Update the protection in a store under a lock. -/
def update (service : LockService) (store : String) (key : LockKey) (principal : String)
    (edit : Edit) (lift : UpdateError → ε) (describe : ε → String)
    (body : Guarded Step Reply (Except ε α)) : Guarded Step Reply (Except ε α) :=
  service.withLock key (fun error => lift (.lock error))
    (editStored store principal edit lift describe body)

end ControlPlane.Protection
