import ControlPlane.Proofs.Session.Course
import Mathlib.Data.List.Induction

/-!
# Histories of a broker

The calls of a broker one after another, each with what it did (`Broker.turns`). Whatever keeps the
sessions may lose any of them at any time. It is only assumed that a session that it finds is the
last one that it was told to keep under the key, and was not told to drop since: `FindsLast` for
sessions of targets, `FindsLastControl` for those of control-plane accounts.
-/
namespace ControlPlane

/-- A call of a broker. -/
inductive BrokerCall where
  /-- The session of a target in a region. -/
  | assumeIn (target : AssumptionTarget) (region : String)
  /-- The session of a target in the usual region. -/
  | assume (target : AssumptionTarget)
  /-- The session of a target, which may have none. -/
  | assumeLenient (target : AssumptionTarget)
  /-- Drop the kept session of an account in a region. -/
  | invalidate (account : AccountId) (region : String)
  /-- Drop all kept sessions. -/
  | invalidateAll

/-- The type of the result of a call. -/
abbrev BrokerCall.Result : BrokerCall → Type
  | assumeIn .. => Except AssumeError Session
  | assume _ => Except AssumeError Session
  | assumeLenient _ => Except AssumeError (Option Session)
  | invalidate .. => Unit
  | invalidateAll => Unit

/-- A call with what it did: its deeds, its result, and the surroundings before and after it. -/
structure Turn (σ : Type) where
  /-- The call. -/
  call : BrokerCall
  /-- The surroundings before the call. -/
  before : σ
  /-- What was done, in order. -/
  deeds : List BrokerDeed
  /-- The result of the call. -/
  result : call.Result
  /-- The surroundings after the call. -/
  after : σ

namespace Broker

variable {σ : Type}

/-- The operation of a call. -/
def perform (broker : Broker) : (call : BrokerCall) → Brokered call.Result
  | .assumeIn target region => broker.assumeIn target region
  | .assume target => broker.assume target
  | .assumeLenient target => broker.assumeLenient target
  | .invalidate account region => invalidate account region
  | .invalidateAll => invalidateAll

/-- What a call does in a state of the surroundings. -/
def turn (broker : Broker) (surroundings : Surroundings brokerInterface σ) (call : BrokerCall)
    (state : σ) : Turn σ where
  call := call
  before := state
  deeds := (broker.perform call).log surroundings state
  result := ((broker.perform call).run surroundings state).1
  after := ((broker.perform call).run surroundings state).2

/-- What calls do one after another. -/
def turns (broker : Broker) (surroundings : Surroundings brokerInterface σ) :
    List BrokerCall → σ → List (Turn σ)
  | [], _ => []
  | call :: rest, state =>
    let turn := broker.turn surroundings call state
    turn :: turns broker surroundings rest turn.after

/-- The deeds of calls one after another. -/
def deeds (turns : List (Turn σ)) : List BrokerDeed := turns.flatMap (·.deeds)

/-- Each turn is that of a call in some state. -/
theorem exists_of_mem_turns {broker : Broker} {surroundings : Surroundings brokerInterface σ}
    {calls : List BrokerCall} {state : σ} {turn : Turn σ}
    (member : turn ∈ broker.turns surroundings calls state) :
    ∃ call before, turn = broker.turn surroundings call before := by
  induction calls generalizing state with
  | nil => cases member
  | cons call rest ih =>
    cases member with
    | head => exact ⟨call, state, rfl⟩
    | tail _ later => exact ih later

/-- What every deed keeps up holds after calls in a row, of some state and the deeds so far. -/
theorem turns_induction {broker : Broker} {surroundings : Surroundings brokerInterface σ}
    (holds : σ → List BrokerDeed → Prop)
    (asked : ∀ request state deeds, holds state deeds →
      holds (surroundings.answer request state).2
        (deeds ++ [.asked request (surroundings.answer request state).1]))
    (left : ∀ mark state deeds, holds state deeds →
      holds (surroundings.keep mark state) (deeds ++ [.left mark]))
    (calls : List BrokerCall) {state : σ} {past : List BrokerDeed} (start : holds state past) :
    ∃ after, holds after (past ++ deeds (broker.turns surroundings calls state)) := by
  induction calls generalizing state past with
  | nil => exact ⟨state, by simpa [turns, deeds] using start⟩
  | cons call rest ih =>
    obtain ⟨after, later⟩ := ih (Program.log_induction asked left (broker.perform call) start)
    rw [List.append_assoc] at later
    exact ⟨after, later⟩

end Broker

/-- The session that is to be found under a key after a deed, from the one before it. -/
def SessionKey.keptAfter (key : SessionKey) (kept : Option Session) : BrokerDeed → Option Session
  -- The mark names no key: a session is filed under its own account and region.
  | .left (.keep session) => if session.key = key then some session else kept
  | .left (.drop dropped) => if dropped = key then none else kept
  | .left .dropAll => none
  | _ => kept

/-- The session that was last kept under a key, unless it was dropped since. -/
def SessionKey.lastKept (key : SessionKey) (deeds : List BrokerDeed) : Option Session :=
  deeds.foldl key.keptAfter none

/-- If a session is found, it is the last one that was kept under the key and not dropped since. -/
def FindsLast (deeds : List BrokerDeed) : Prop :=
  ∀ front key session rest, deeds = front ++ .asked (.session key) (some session) :: rest →
    key.lastKept front = some session

/-- One more deed. -/
@[simp] theorem SessionKey.lastKept_concat (key : SessionKey) (deeds : List BrokerDeed)
    (deed : BrokerDeed) :
    key.lastKept (deeds ++ [deed]) = key.keptAfter (key.lastKept deeds) deed := by
  simp [lastKept]

/-- A session is kept under its own key. -/
theorem SessionKey.key_of_lastKept {key : SessionKey} {deeds : List BrokerDeed} {session : Session}
    (kept : key.lastKept deeds = some session) : session.key = key := by
  -- The last deed decides, so the deeds are taken from the end.
  induction deeds using List.reverseRecOn with
  | nil => cases kept
  | append_singleton deeds deed ih =>
    rw [lastKept_concat] at kept
    unfold SessionKey.keptAfter at kept
    split at kept
    · split at kept
      next same =>
        cases kept
        exact same
      next => exact ih kept
    · split at kept
      · cases kept
      · exact ih kept
    · cases kept
    · exact ih kept

/-- A session that is found belongs to the account and the region that it is looked for by. -/
theorem FindsLast.key_eq {deeds : List BrokerDeed} (finds : FindsLast deeds) {key : SessionKey}
    {session : Session} (found : .asked (.session key) (some session) ∈ deeds) :
    session.key = key := by
  obtain ⟨front, rest, split⟩ := List.append_of_mem found
  exact SessionKey.key_of_lastKept (finds front key session rest split)

/-- The session that is to be found for a control-plane account after a deed, from the one before
it. -/
def ControlPlaneKey.keptAfter (key : ControlPlaneKey) (kept : Option Session) :
    BrokerDeed → Option Session
  | .left (.keepControl other session) => if other = key then some session else kept
  | .left (.dropControl dropped) => if dropped = key then none else kept
  | .left .dropAll => none
  | _ => kept

/-- The session that was last kept for a control-plane account, unless it was dropped since. -/
def ControlPlaneKey.lastKept (key : ControlPlaneKey) (deeds : List BrokerDeed) : Option Session :=
  deeds.foldl key.keptAfter none

/-- If a session is found for a control-plane account, it is the last one that was kept for it and
not dropped since. -/
def FindsLastControl (deeds : List BrokerDeed) : Prop :=
  ∀ front key session rest, deeds = front ++ .asked (.controlSession key) (some session) :: rest →
    key.lastKept front = some session

/-- One more deed. -/
@[simp] theorem ControlPlaneKey.lastKept_concat (key : ControlPlaneKey) (deeds : List BrokerDeed)
    (deed : BrokerDeed) :
    key.lastKept (deeds ++ [deed]) = key.keptAfter (key.lastKept deeds) deed := by
  simp [lastKept]

end ControlPlane
