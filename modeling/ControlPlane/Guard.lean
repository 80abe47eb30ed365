import ControlPlane.Lock.Table
import ControlPlane.Policy.Protection
import ControlPlane.Program

/-!
# Guarded operations

Operations on shared resources hold a lock meanwhile. They are programs whose requests go to a lock
table, a clock, the services that take the locks, and policy stores. What the guarded body does
besides is a request too (`step`), of whatever kind the surroundings understand.
-/
namespace ControlPlane

/-- What guarded operations ask for. Services and stores are known by their names. -/
inductive GuardRequest (Step : Type) where
  /-- Create a lock. -/
  | create (lock : Lock)
  /-- The lock of an id. -/
  | get (lockId : String)
  /-- Delete the lock of an id. -/
  | delete (lockId : String)
  /-- All locks. -/
  | list
  /-- The present. -/
  | clock
  /-- The request that a service works for. -/
  | requestId (service : String)
  /-- The number of locks that a service has acquired for the request and not released. -/
  | lockCount (service : String)
  /-- The policy in a store. -/
  | fetch (store : String)
  /-- Put a policy into a store, or remove it. -/
  | put (store : String) (policy : Option PolicyDocument)
  /-- Something else. -/
  | step (step : Step)

namespace GuardRequest

/-- The type of the answer to a request. -/
abbrev Answer {Step : Type} (Reply : Type) : GuardRequest Step → Type
  | create _ => Except LockTableError Unit
  | get _ => Except LockTableError Lock
  | delete _ => Except LockTableError Unit
  | list => Except LockTableError (List Lock)
  | clock => Instant
  | requestId _ => String
  | lockCount _ => Int
  | fetch _ => Except ServiceFailure (Option PolicyDocument)
  | put _ _ => Except ServiceFailure Unit
  | step _ => Reply

end GuardRequest

/-- What guarded operations leave behind. -/
inductive GuardMark where
  /-- Report something. -/
  | event (event : Event)
  /-- A service has acquired a lock. -/
  | acquired (service : String)
  /-- A service has released a lock. -/
  | released (service : String)
  /-- A service works for a new request from now on, with no locks acquired. -/
  | bound (service requestId : String)

/-- The requests, answers and marks of guarded operations. -/
abbrev guardInterface (Step Reply : Type) : Interface where
  Request := GuardRequest Step
  Answer := GuardRequest.Answer Reply
  Mark := GuardMark

/-- A guarded operation. -/
abbrev Guarded (Step Reply α : Type) : Type := Program (guardInterface Step Reply) α

namespace Guarded

/-- Make a request. -/
abbrev request {Step Reply : Type} (request : GuardRequest Step) :
    Guarded Step Reply (request.Answer Reply) :=
  @Program.request (guardInterface Step Reply) request

/-- Leave a mark. -/
abbrev mark {Step Reply : Type} (mark : GuardMark) : Guarded Step Reply Unit :=
  @Program.mark (guardInterface Step Reply) mark

/-- Report an event. -/
abbrev report {Step Reply : Type} (event : Event) : Guarded Step Reply Unit :=
  Guarded.mark (.event event)

end Guarded

end ControlPlane
