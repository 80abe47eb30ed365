import ControlPlane.Proofs.Session.History
import ControlPlane.Rehearsal.Broker

/-!
# Kept sessions on a stage

The exact stores of a stage find the session that was last kept under a key, unless it was dropped
since (`findsLast_turns`). Requests leave the stores as they are and every mark changes them as it
says, so each session in them is the last one by the deeds so far (`Reflects`). Surroundings that
answer other requests in their own way find the same sessions (`Stores`).
-/
namespace ControlPlane

variable {deeds : List BrokerDeed} {deed : BrokerDeed}

/-- One more deed of a broker whose sessions are found as they were kept. -/
theorem FindsLast.concat (finds : FindsLast deeds)
    (last : ∀ key session, deed = .asked (.session key) (some session) →
      key.lastKept deeds = some session) : FindsLast (deeds ++ [deed]) := by
  intro front key session rest split
  rcases Deed.cases_of_concat split with ⟨rfl, same⟩ | ⟨between, same⟩
  · exact last key session same
  · exact finds front key session between same

/-- One more deed of a broker whose control-plane sessions are found as they were kept. -/
theorem FindsLastControl.concat (finds : FindsLastControl deeds)
    (last : ∀ key session, deed = .asked (.controlSession key) (some session) →
      key.lastKept deeds = some session) : FindsLastControl (deeds ++ [deed]) := by
  intro front key session rest split
  rcases Deed.cases_of_concat split with ⟨rfl, same⟩ | ⟨between, same⟩
  · exact last key session same
  · exact finds front key session between same

namespace Rehearsal.BrokerStage

/-- Surroundings with the stores of a stage. -/
structure Stores (surroundings : Surroundings brokerInterface BrokerStage) : Prop where
  /-- The stage keeps the marks. -/
  keep : surroundings.keep = BrokerStage.keep
  /-- A session that is looked for is found in the store of the stage. -/
  session : ∀ key stage,
    (surroundings.answer (.session key) stage).1 = stage.cache.sessions.find? key
  /-- So is the session of a control-plane account. -/
  controlSession : ∀ key stage,
    (surroundings.answer (.controlSession key) stage).1 = stage.controlSessions.find? key
  /-- Requests leave the stores as they are. -/
  still : ∀ request stage, (surroundings.answer request stage).2.cache = stage.cache ∧
    (surroundings.answer request stage).2.controlSessions = stage.controlSessions

/-- The stage has stores itself. -/
theorem stores : Stores surroundings where
  keep := rfl
  session _ _ := rfl
  controlSession _ _ := rfl
  still request stage := by
    cases request with
    | session key => exact ⟨rfl, rfl⟩
    | controlSession key => exact ⟨rfl, rfl⟩
    | clock => exact ⟨rfl, rfl⟩
    | sleep wait => exact ⟨rfl, rfl⟩
    | account query =>
      simp only [surroundings, answer, account]
      split <;> exact ⟨rfl, rfl⟩
    | assume assumption =>
      simp only [surroundings, answer, assume, callService]
      repeat' split
      all_goals exact ⟨rfl, rfl⟩

section Targets

variable {stage other : BrokerStage} {surroundings : Surroundings brokerInterface BrokerStage}

/-- The sessions in the store of a stage were kept by some deeds and not dropped since. -/
structure Reflects (stage : BrokerStage) (deeds : List BrokerDeed) : Prop where
  /-- A session in the store was kept last. -/
  kept : ∀ {key session}, stage.cache.sessions.find? key = some session →
    key.lastKept deeds = some session
  /-- A store that keeps no sessions has none. -/
  empty : stage.cache.keepsSessions = false → ∀ key, stage.cache.sessions.find? key = none

/-- A deed that says nothing about kept sessions leaves the store as it is. -/
theorem Reflects.idle (reflects : stage.Reflects deeds) (same : other.cache = stage.cache)
    (deed : BrokerDeed) (idle : ∀ key kept, SessionKey.keptAfter key kept deed = kept) :
    other.Reflects (deeds ++ [deed]) where
  kept {key session} found := by
    rw [same] at found
    rw [SessionKey.lastKept_concat, idle]
    exact reflects.kept found
  empty := by
    rw [same]
    exact reflects.empty

/-- The store reflects the deeds after a session is dropped. -/
theorem Reflects.drop (reflects : stage.Reflects deeds) (key : SessionKey) :
    (keep (.drop key) stage).Reflects (deeds ++ [.left (.drop key)]) where
  kept {wanted session} found := by
    simp only [keep, SessionCache.invalidate, SessionStore.find?_drop] at found
    rw [SessionKey.lastKept_concat, SessionKey.keptAfter]
    by_cases same : wanted = key
    · rw [if_pos same] at found
      cases found
    · rw [if_neg same] at found
      rw [if_neg (Ne.symm same)]
      exact reflects.kept found
  empty full wanted := by
    simp only [keep, SessionCache.invalidate, SessionStore.find?_drop, reflects.empty full,
      ite_self]

/-- The store reflects the deeds after a session is kept. -/
theorem Reflects.keep (reflects : stage.Reflects deeds) (session : Session) :
    (BrokerStage.keep (.keep session) stage).Reflects (deeds ++ [.left (.keep session)]) := by
  cases room : stage.cache.keepsSessions with
  | false =>
    have same : (BrokerStage.keep (.keep session) stage).cache = stage.cache := by
      simp [BrokerStage.keep, SessionCache.insert, room]
    constructor
    · intro wanted found inside
      rw [same, reflects.empty room] at inside
      cases inside
    · rw [same]
      exact reflects.empty
  | true =>
    have stored : (BrokerStage.keep (.keep session) stage).cache =
        { stage.cache with sessions := stage.cache.sessions.keep session.key session } := by
      simp [BrokerStage.keep, SessionCache.insert, room]
    constructor
    · intro wanted found inside
      rw [stored, SessionStore.find?_keep] at inside
      rw [SessionKey.lastKept_concat, SessionKey.keptAfter]
      by_cases same : wanted = session.key
      · rw [if_pos same] at inside
        rwa [if_pos same.symm]
      · rw [if_neg same] at inside
        rw [if_neg (Ne.symm same)]
        exact reflects.kept inside
    · rw [stored]
      intro full
      exact absurd room (Bool.eq_false_iff.mp full)

/-- The store reflects the deeds after a mark. -/
theorem Reflects.left (reflects : stage.Reflects deeds) (mark : BrokerMark) :
    (BrokerStage.keep mark stage).Reflects (deeds ++ [.left mark]) := by
  cases mark with
  | event event =>
    refine reflects.idle ?_ (.left (.event event)) fun _ _ => rfl
    rfl
  | keep session => exact reflects.keep session
  | drop key => exact reflects.drop key
  | keepControl key session =>
    refine reflects.idle ?_ (.left (.keepControl key session)) fun _ _ => rfl
    simp only [BrokerStage.keep]
    split <;> rfl
  | dropControl key =>
    refine reflects.idle ?_ (.left (.dropControl key)) fun _ _ => rfl
    rfl
  | dropAll => exact ⟨nofun, fun _ _ => rfl⟩

/-- The calls of a broker find the sessions that were last kept, and not dropped since. -/
theorem Stores.findsLast (stores : Stores surroundings) (broker : Broker)
    (empty : stage.cache.sessions = .empty) (calls : List BrokerCall) :
    FindsLast (Broker.deeds (broker.turns surroundings calls stage)) := by
  have start : stage.Reflects [] ∧ FindsLast [] := by
    refine ⟨⟨?_, ?_⟩, fun front _ _ _ split => by simp at split⟩
    · intro key session found
      rw [empty] at found
      cases found
    · rw [empty]
      exact fun _ _ => rfl
  refine (Broker.turns_induction
    (fun (stage : BrokerStage) deeds => stage.Reflects deeds ∧ FindsLast deeds)
    ?asked ?left calls start).elim fun _ both => both.2
  case asked =>
    rintro request stage deeds ⟨reflects, finds⟩
    refine ⟨reflects.idle (stores.still request stage).1 (.asked request _) fun _ _ => rfl,
      finds.concat fun key session same => ?_⟩
    obtain ⟨rfl, found⟩ := Deed.asked.inj same
    exact reflects.kept ((stores.session key stage).symm.trans (eq_of_heq found))
  case left =>
    rintro mark stage deeds ⟨reflects, finds⟩
    rw [stores.keep]
    exact ⟨reflects.left mark, finds.concat fun key session same => by cases same⟩

end Targets

section ControlPlane

variable {stage other : BrokerStage} {surroundings : Surroundings brokerInterface BrokerStage}

/-- The control-plane sessions in the store of a stage were kept by some deeds and not dropped
since. -/
structure ReflectsControl (stage : BrokerStage) (deeds : List BrokerDeed) : Prop where
  /-- A session in the store was kept last. -/
  kept : ∀ {key session}, stage.controlSessions.find? key = some session →
    key.lastKept deeds = some session
  /-- A store that keeps no sessions has none. -/
  empty : stage.cache.keepsSessions = false → ∀ key, stage.controlSessions.find? key = none

/-- A deed that says nothing about control-plane sessions leaves the store as it is. -/
theorem ReflectsControl.idle (reflects : stage.ReflectsControl deeds)
    (room : other.cache.keepsSessions = stage.cache.keepsSessions)
    (same : other.controlSessions = stage.controlSessions) (deed : BrokerDeed)
    (idle : ∀ key kept, ControlPlaneKey.keptAfter key kept deed = kept) :
    other.ReflectsControl (deeds ++ [deed]) where
  kept {key session} found := by
    rw [same] at found
    rw [ControlPlaneKey.lastKept_concat, idle]
    exact reflects.kept found
  empty := by
    rw [room, same]
    exact reflects.empty

/-- The store reflects the deeds after a control-plane session is dropped. -/
theorem ReflectsControl.drop (reflects : stage.ReflectsControl deeds) (key : ControlPlaneKey) :
    (keep (.dropControl key) stage).ReflectsControl (deeds ++ [.left (.dropControl key)]) where
  kept {wanted session} found := by
    simp only [keep, SessionStore.find?_drop] at found
    rw [ControlPlaneKey.lastKept_concat, ControlPlaneKey.keptAfter]
    by_cases same : wanted = key
    · rw [if_pos same] at found
      cases found
    · rw [if_neg same] at found
      rw [if_neg (Ne.symm same)]
      exact reflects.kept found
  empty full wanted := by
    simp only [keep, SessionStore.find?_drop, reflects.empty full, ite_self]

/-- The store reflects the deeds after a control-plane session is kept. -/
theorem ReflectsControl.keep (reflects : stage.ReflectsControl deeds) (key : ControlPlaneKey)
    (session : Session) : (BrokerStage.keep (.keepControl key session) stage).ReflectsControl
      (deeds ++ [.left (.keepControl key session)]) := by
  cases room : stage.cache.keepsSessions with
  | true =>
    have stored : BrokerStage.keep (.keepControl key session) stage =
        { stage with controlSessions := stage.controlSessions.keep key session } := if_pos room
    rw [stored]
    constructor
    · intro wanted found inside
      rw [SessionStore.find?_keep] at inside
      rw [ControlPlaneKey.lastKept_concat, ControlPlaneKey.keptAfter]
      by_cases same : wanted = key
      · rw [if_pos same] at inside
        rwa [if_pos same.symm]
      · rw [if_neg same] at inside
        rw [if_neg (Ne.symm same)]
        exact reflects.kept inside
    · exact fun full => absurd room (Bool.eq_false_iff.mp full)
  | false =>
    have same : BrokerStage.keep (.keepControl key session) stage = stage := by
      simp [BrokerStage.keep, room]
    rw [same]
    refine ⟨fun {wanted found} inside => ?_, reflects.empty⟩
    rw [reflects.empty room] at inside
    cases inside

/-- The store reflects the deeds after a mark. -/
theorem ReflectsControl.left (reflects : stage.ReflectsControl deeds) (mark : BrokerMark) :
    (BrokerStage.keep mark stage).ReflectsControl (deeds ++ [.left mark]) := by
  cases mark with
  | event event =>
    refine reflects.idle ?_ ?_ (.left (.event event)) fun _ _ => rfl
    · rfl
    · rfl
  | keep session =>
    refine reflects.idle ?_ ?_ (.left (.keep session)) fun _ _ => rfl
    · simp only [BrokerStage.keep, SessionCache.insert]
      split <;> rfl
    · rfl
  | drop key =>
    refine reflects.idle ?_ ?_ (.left (.drop key)) fun _ _ => rfl
    · rfl
    · rfl
  | keepControl key session => exact reflects.keep key session
  | dropControl key => exact reflects.drop key
  | dropAll => exact ⟨nofun, fun _ _ => rfl⟩

/-- The calls of a broker find the control-plane sessions that were last kept, and not dropped
since. -/
theorem Stores.findsLastControl (stores : Stores surroundings) (broker : Broker)
    (empty : stage.controlSessions = .empty) (calls : List BrokerCall) :
    FindsLastControl (Broker.deeds (broker.turns surroundings calls stage)) := by
  have start : stage.ReflectsControl [] ∧ FindsLastControl [] := by
    refine ⟨⟨?_, ?_⟩, fun front _ _ _ split => by simp at split⟩
    · intro key session found
      rw [empty] at found
      cases found
    · rw [empty]
      exact fun _ _ => rfl
  refine (Broker.turns_induction
    (fun (stage : BrokerStage) deeds => stage.ReflectsControl deeds ∧ FindsLastControl deeds)
    ?asked ?left calls start).elim fun _ both => both.2
  case asked =>
    rintro request stage deeds ⟨reflects, finds⟩
    obtain ⟨cache, controlSessions⟩ := stores.still request stage
    refine ⟨reflects.idle (by rw [cache]) controlSessions (.asked request _) fun _ _ => rfl,
      finds.concat fun key session same => ?_⟩
    obtain ⟨rfl, found⟩ := Deed.asked.inj same
    exact reflects.kept ((stores.controlSession key stage).symm.trans (eq_of_heq found))
  case left =>
    rintro mark stage deeds ⟨reflects, finds⟩
    rw [stores.keep]
    exact ⟨reflects.left mark, finds.concat fun key session same => by cases same⟩

end ControlPlane

/-- A stage without kept sessions finds only those that are kept on it. -/
theorem findsLast_turns (broker : Broker) {stage : BrokerStage}
    (empty : stage.cache.sessions = .empty) (calls : List BrokerCall) :
    FindsLast (Broker.deeds (broker.turns surroundings calls stage)) :=
  stores.findsLast broker empty calls

end Rehearsal.BrokerStage
end ControlPlane
