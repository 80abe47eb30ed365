import ControlPlane.Json.Basic
import ControlPlane.Retry

/-!
# Rehearsing retries

The outcomes of the calls of an operation are written down beforehand; after the last of them a call
gives a fixed result. Calls are counted, waits and events are recorded.
-/
namespace ControlPlane.Rehearsal

/-- What an operation under a retry policy asks for. -/
inductive AttemptRequest where
  | call
  | sleep (wait : Duration)

/-- The type of the answer to a request. -/
abbrev AttemptRequest.Answer (α : Type) : AttemptRequest → Type
  | call => Except ServiceFailure α
  | sleep _ => Unit

/-- The requests, answers and marks of an operation under a retry policy. -/
abbrev attemptInterface (α : Type) : Interface := ⟨AttemptRequest, AttemptRequest.Answer α, Event⟩

/-- The calls of an operation. -/
structure Attempts (α : Type) where
  /-- The outcomes of the next calls. -/
  script : List (Except ServiceFailure α)
  /-- The result of the calls after them. -/
  last : α
  /-- The number of calls so far. -/
  calls : Nat
  /-- The pauses so far. -/
  waits : List Duration
  /-- The events so far. -/
  events : List Event

namespace Attempts

variable {α : Type}

/-- Answer a request. -/
def answer : (request : AttemptRequest) → Attempts α → request.Answer α × Attempts α
  | .call, attempts =>
    (attempts.script.headD (.ok attempts.last),
      { attempts with script := attempts.script.tail, calls := attempts.calls + 1 })
  | .sleep wait, attempts => ((), { attempts with waits := attempts.waits ++ [wait] })

/-- Keep an event. -/
def keep (event : Event) (attempts : Attempts α) : Attempts α :=
  { attempts with events := attempts.events ++ [event] }

/-- Run an operation whose outcomes are written down under a retry policy. -/
def run (policy : RetryPolicy) (operation : String) (attempts : Attempts α) :
    Except ServiceFailure α × Attempts α :=
  let program : Program (attemptInterface α) (Except ServiceFailure α) :=
    policy.run operation id (fun wait => @Program.request (attemptInterface α) (.sleep wait))
      (@Program.request (attemptInterface α) .call)
  program.run ⟨answer, keep⟩ attempts

end Attempts

end ControlPlane.Rehearsal
