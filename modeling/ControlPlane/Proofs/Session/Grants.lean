import ControlPlane.Proofs.Session.Keeping

/-!
# How often a role is granted

A call for the session of a target has a part in the middle that is about one control-plane account,
and what is around it is about the target alone (`Assumes.parts`). The session of the account is kept
as soon as its role is granted, and the role is not asked for while a session is kept. So with caches
that are exact maps there is no second grant, unless a session is about to expire or is dropped.

One inequality keeps the books (`Economical`): the grants among some deeds and the sessions kept
before are no more than the sessions kept after, which is one at most. It holds of deeds after one
another if it holds of each, and so of calls after one another (`turns_economical`).
-/
namespace ControlPlane

namespace Broker

variable {broker : Broker} {target : AssumptionTarget} {region : String} {key : ControlPlaneKey}
  {deeds : List BrokerDeed} {deed : BrokerDeed} {result : Except AssumeError Session}

/-- Something that is done for the session of a control-plane account. -/
inductive ControlDeed (broker : Broker) (key : ControlPlaneKey) : BrokerDeed → Prop where
  | looked (answer : Option Session) : ControlDeed broker key (.asked (.controlSession key) answer)
  | clock (now : Instant) : ControlDeed broker key (.asked .clock now)
  | dropped : ControlDeed broker key (.left (.dropControl key))
  | tried (source : Session) (role : RoleArn) (answer : Except ServiceFailure Credentials) :
      ControlDeed broker key (broker.tried source role answer)
  | reported (event : Event) : ControlDeed broker key (.left (.event event))
  | slept (wait : Duration) : ControlDeed broker key (.asked (.sleep wait) ())
  | kept (session : Session) : ControlDeed broker key (.left (.keepControl key session))

/-- Something that is done for the session of a target, and for no other one. -/
inductive TargetDeed (broker : Broker) (target : AssumptionTarget) (region : String) :
    BrokerDeed → Prop where
  | looked (answer : Option Session) :
      TargetDeed broker target region (.asked (.session ⟨target.accountId, region⟩) answer)
  | clock (now : Instant) : TargetDeed broker target region (.asked .clock now)
  | dropped : TargetDeed broker target region (.left (.drop ⟨target.accountId, region⟩))
  | queried (answer : Except DirectoryError Account) :
      TargetDeed broker target region (.asked (.account (broker.sourceQuery target)) answer)
  | tried (source : Session) (role : RoleArn) (answer : Except ServiceFailure Credentials) :
      TargetDeed broker target region (broker.tried source role answer)
  | reported (event : Event) : TargetDeed broker target region (.left (.event event))
  | slept (wait : Duration) : TargetDeed broker target region (.asked (.sleep wait) ())
  | kept (credentials : Credentials) : TargetDeed broker target region
      (.left (.keep (.ofCredentials target.accountId credentials region)))

/-- Trying to assume the role of a control-plane account is done for it. -/
theorem Tries.controlDeed {source : Session} {role : RoleArn} {remaining : Nat}
    {answer : Except ServiceFailure Credentials}
    (tries : Tries broker source role remaining deeds answer) (member : deed ∈ deeds) :
    ControlDeed broker key deed := by
  rcases tries.cases_of_mem member with ⟨given, rfl⟩ | ⟨event, rfl⟩ | ⟨wait, rfl⟩
  · exact .tried source role given
  · exact .reported event
  · exact .slept wait

/-- Trying to assume the role of a target is done for it. -/
theorem Tries.targetDeed {source : Session} {role : RoleArn} {remaining : Nat}
    {answer : Except ServiceFailure Credentials}
    (tries : Tries broker source role remaining deeds answer) (member : deed ∈ deeds) :
    TargetDeed broker target region deed := by
  rcases tries.cases_of_mem member with ⟨given, rfl⟩ | ⟨event, rfl⟩ | ⟨wait, rfl⟩
  · exact .tried source role given
  · exact .reported event
  · exact .slept wait

/-- All that is done for the session of a control-plane account is done for it. -/
theorem ControlCourse.controlDeed (course : ControlCourse broker key deeds result)
    (member : deed ∈ deeds) : ControlDeed broker key deed := by
  cases course with
  | beyond | kept =>
    rcases List.mem_cons.mp member with rfl | later
    · exact .looked _
    · obtain rfl := List.mem_singleton.mp later
      exact .clock _
  | made look make =>
    rcases List.mem_append.mp member with early | late
    · rcases List.mem_cons.mp early with rfl | looked
      · exact .looked _
      · rcases look.cases_of_mem looked with ⟨now, rfl⟩ | rfl
        · exact .clock now
        · exact .dropped
    · cases make with
      | unknown => cases late
      | ambient =>
        obtain rfl := List.mem_singleton.mp late
        exact .kept _
      | refused _ _ tried => exact tried.controlDeed late
      | granted _ _ tried =>
        rcases List.mem_append.mp late with tries | note
        · exact tried.controlDeed tries
        · obtain rfl := List.mem_singleton.mp note
          exact .kept _

/-- What a call does for a control-plane account, if it comes to that. If there is no session of the
account, the call fails for that reason; otherwise it can only fail for want of the target's role. -/
def Through (broker : Broker) (control : List BrokerDeed) (result : Except AssumeError Session) :
    Prop :=
  ∃ key acted, ControlCourse broker key control acted ∧
    (∀ error, acted = .error error → result = .error error) ∧
    ∀ session error, acted = .ok session → result = .error error →
      ∃ role failure, error = .metadataRole role failure

/-- A call for the session of a target: in the middle, if at all, it is about a control-plane
account. -/
structure Parts (broker : Broker) (target : AssumptionTarget) (region : String)
    (deeds : List BrokerDeed) (result : Except AssumeError Session)
    (before control after : List BrokerDeed) : Prop where
  /-- The parts of the call in their order. -/
  course : deeds = before ++ control ++ after
  /-- What comes first is about the target. -/
  before : ∀ deed ∈ before, TargetDeed broker target region deed
  /-- The middle, if there is one, goes through a control-plane account. -/
  control : control = [] ∨ Through broker control result
  /-- What comes last is about the target. -/
  after : ∀ deed ∈ after, TargetDeed broker target region deed

/-- A call that never comes to a control-plane account has one part. -/
theorem parts_of_target (only : ∀ deed ∈ deeds, TargetDeed broker target region deed) :
    Parts broker target region deeds result deeds [] [] where
  course := by simp
  before := only
  control := .inl rfl
  after := List.forall_mem_nil _

/-- Making the session of a target has three parts. -/
theorem Makes.parts (makes : Makes broker target region deeds result) :
    ∃ before control after, Parts broker target region deeds result before control after := by
  have queried (answer : Except DirectoryError Account) :
      ∀ deed ∈ [BrokerDeed.asked (.account (broker.sourceQuery target)) answer],
        TargetDeed broker target region deed :=
    List.forall_mem_singleton.mpr (.queried answer)
  cases makes with
  | unlisted error => exact ⟨_, [], [], parts_of_target (queried (.error error))⟩
  | @sourceless account control error source =>
    refine ⟨_, control, [], ?_, queried (.ok account), .inr ⟨_, _, source, ?_, ?_⟩,
      List.forall_mem_nil _⟩
    · rw [List.append_nil]
      rfl
    · exact fun other same => same
    · exact fun session other same => nomatch same
  | @refused account control tries session failure source tried =>
    let report := failureReport target (broker.metadataRole target) failure
    refine ⟨_, control, tries ++ [.left (.event report)], ?_, queried (.ok account),
      .inr ⟨_, _, source, ?_, ?_⟩, ?_⟩
    · rw [← List.append_assoc]
      rfl
    · exact fun error same => nomatch same
    · intro acting error _ same
      cases same
      exact ⟨_, _, rfl⟩
    · exact List.forall_mem_append.mpr
        ⟨fun deed => tried.targetDeed, List.forall_mem_singleton.mpr (.reported _)⟩
  | @granted account control tries session credentials source tried =>
    let made := Session.ofCredentials target.accountId credentials region
    refine ⟨_, control, tries ++ [.left (.keep made)], ?_, queried (.ok account),
      .inr ⟨_, _, source, ?_, ?_⟩, ?_⟩
    · rw [← List.append_assoc]
      rfl
    · exact fun error same => nomatch same
    · exact fun acting error _ same => nomatch same
    · exact List.forall_mem_append.mpr
        ⟨fun deed => tried.targetDeed, List.forall_mem_singleton.mpr (.kept credentials)⟩

/-- A call for the session of a target has three parts. -/
theorem Assumes.parts (assumes : Assumes broker target region deeds result) :
    ∃ before control after, Parts broker target region deeds result before control after := by
  have looked (answer : Option Session) :
      TargetDeed broker target region (.asked (.session ⟨target.accountId, region⟩) answer) :=
    .looked answer
  have timed (answer : Option Session) (now : Instant) :
      ∀ deed ∈ [BrokerDeed.asked (.session ⟨target.accountId, region⟩) answer, .asked .clock now],
        TargetDeed broker target region deed :=
    List.forall_mem_cons.mpr ⟨looked answer, List.forall_mem_singleton.mpr (.clock now)⟩
  cases assumes with
  | unsupported => exact ⟨[], [], [], parts_of_target (List.forall_mem_nil _)⟩
  | @beyond session now => exact ⟨_, [], [], parts_of_target (timed (some session) now)⟩
  | @kept session now => exact ⟨_, [], [], parts_of_target (timed (some session) now)⟩
  | @made kept looks makes result supported look make =>
    obtain ⟨before, control, after, parts⟩ := make.parts
    refine ⟨.asked (.session ⟨target.accountId, region⟩) kept :: looks ++ before, control, after,
      by simp [parts.course], ?_, parts.control, parts.after⟩
    refine List.forall_mem_append.mpr ⟨List.forall_mem_cons.mpr ⟨looked kept, ?_⟩, parts.before⟩
    intro deed member
    rcases look.cases_of_mem member with ⟨now, rfl⟩ | rfl
    · exact .clock now
    · exact .dropped

end Broker

namespace ControlPlaneKey

variable {key other : ControlPlaneKey} {kept : Option Session} {deeds : List BrokerDeed}
  {deed : BrokerDeed}

/-- A session is kept for a control-plane account that was made with credentials of its role. -/
def isGrant (key : ControlPlaneKey) : BrokerDeed → Bool
  | .left (.keepControl other session) => other = key && session.credentials.isSome
  | _ => false

/-- How often the role of a control-plane account was granted, and a session kept of it. -/
def grants (key : ControlPlaneKey) (deeds : List BrokerDeed) : Nat := deeds.countP key.isGrant

/-- A deed has nothing to do with the session of a control-plane account. -/
def Idle (key : ControlPlaneKey) (deed : BrokerDeed) : Prop :=
  key.isGrant deed = false ∧ ∀ kept, key.keptAfter kept deed = kept

/-- The grants among some deeds and the sessions kept before are no more than the sessions kept
after. -/
def Economical (key : ControlPlaneKey) (kept : Option Session) (deeds : List BrokerDeed) : Prop :=
  key.grants deeds + kept.toList.length ≤ (deeds.foldl key.keptAfter kept).toList.length

/-- Deeds after one another are economical if each are. -/
theorem Economical.append {front back : List BrokerDeed} (first : key.Economical kept front)
    (second : key.Economical (front.foldl key.keptAfter kept) back) :
    key.Economical kept (front ++ back) := by
  unfold Economical grants at *
  rw [List.countP_append, List.foldl_append]
  omega

/-- Among economical deeds there is one grant at most. -/
theorem Economical.grants_le_one (economical : key.Economical kept deeds) :
    key.grants deeds ≤ 1 := by
  unfold Economical at economical
  have one : (deeds.foldl key.keptAfter kept).toList.length ≤ 1 := Option.length_toList_le
  omega

/-- Idle deeds change nothing. -/
theorem foldl_of_idle (idle : ∀ deed ∈ deeds, key.Idle deed) :
    deeds.foldl key.keptAfter kept = kept :=
  foldl_eq_self (fun deed member => (idle deed member).2) kept

/-- Idle deeds are economical. -/
theorem economical_of_idle (idle : ∀ deed ∈ deeds, key.Idle deed) :
    key.Economical kept deeds := by
  have none : key.grants deeds = 0 :=
    List.countP_eq_zero.mpr fun deed member => by rw [(idle deed member).1]; decide
  unfold Economical
  rw [foldl_of_idle idle, none]
  omega

/-- What is done for a target has nothing to do with control-plane accounts. -/
theorem idle_of_targetDeed {broker : Broker} {target : AssumptionTarget} {region : String}
    (does : broker.TargetDeed target region deed) : key.Idle deed := by
  cases does <;> exact ⟨rfl, fun _ => rfl⟩

/-- What is done for a control-plane account has nothing to do with others. -/
theorem idle_of_controlDeed {broker : Broker} (does : broker.ControlDeed other deed)
    (different : other ≠ key) : key.Idle deed := by
  cases does with
  | kept session => simp [Idle, isGrant, keptAfter, different]
  | dropped => simp [Idle, isGrant, keptAfter, different]
  | _ => exact ⟨rfl, fun _ => rfl⟩

end ControlPlaneKey

namespace Broker

open ControlPlaneKey

variable {broker : Broker} {target : AssumptionTarget} {region : String} {key : ControlPlaneKey}
  {deeds : List BrokerDeed} {kept : Option Session} {result : Except AssumeError Session}

/-- A session is found for a control-plane account that expires within the margin by the clock. -/
def ComesWithinMargin (broker : Broker) (key : ControlPlaneKey) (deeds : List BrokerDeed) : Prop :=
  ∃ front session now rest,
    deeds = front ++ .asked (.controlSession key) (some session) :: .asked .clock now :: rest ∧
      session.expiresWithin? broker.settings.expiryMargin now = some true

/-- What comes within the margin among some deeds does so among more of them. -/
theorem ComesWithinMargin.within (comes : broker.ComesWithinMargin key deeds)
    (front back : List BrokerDeed) :
    broker.ComesWithinMargin key (front ++ deeds ++ back) := by
  obtain ⟨before, session, now, rest, rfl, ends⟩ := comes
  exact ⟨front ++ before, session, now, rest ++ back, by simp, ends⟩

/-- Trying to assume a role has nothing to do with sessions that are kept. -/
theorem Tries.idle {source : Session} {role : RoleArn} {remaining : Nat}
    {answer : Except ServiceFailure Credentials}
    (tries : Tries broker source role remaining deeds answer) : ∀ deed ∈ deeds, key.Idle deed := by
  intro deed member
  rcases tries.cases_of_mem member with ⟨given, rfl⟩ | ⟨event, rfl⟩ | ⟨wait, rfl⟩ <;>
    exact ⟨rfl, fun _ => rfl⟩

/-- Where no session is kept one may be made. -/
theorem ControlMakes.economical (makes : ControlMakes broker key deeds result) :
    key.Economical none deeds := by
  cases makes with
  | unknown => exact economical_of_idle (List.forall_mem_nil _)
  | ambient => simp [Economical, grants, isGrant, keptAfter, Session.ambient]
  | refused _ _ tried => exact economical_of_idle tried.idle
  | granted _ _ tried =>
    refine (economical_of_idle tried.idle).append ?_
    rw [foldl_of_idle tried.idle]
    simp [Economical, grants, isGrant, keptAfter, Session.ofCredentials]

/-- A session of a control-plane account is made only if none is kept. -/
theorem ControlCourse.economical (course : ControlCourse broker key deeds result)
    (found : AnswersBy (.controlSession key) (fun front => front.foldl key.keptAfter kept) deeds)
    (lasts : ¬ broker.ComesWithinMargin key deeds) : key.Economical kept deeds := by
  have idle {deed : BrokerDeed} : (∃ answer, deed = .asked (.controlSession key) answer) ∨
      (∃ now, deed = .asked .clock now) → key.Idle deed := by
    rintro (⟨answer, rfl⟩ | ⟨now, rfl⟩) <;> exact ⟨rfl, fun _ => rfl⟩
  cases course with
  | beyond | kept =>
    refine economical_of_idle (List.forall_mem_cons.mpr ⟨idle (.inl ⟨_, rfl⟩), ?_⟩)
    exact List.forall_mem_singleton.mpr (idle (.inr ⟨_, rfl⟩))
  | @made answer looks makes _ look make =>
    obtain rfl : answer = kept := found [] answer _ rfl
    cases look with
    | missing =>
      have asked : ∀ deed ∈ [BrokerDeed.asked (.controlSession key) none], key.Idle deed :=
        List.forall_mem_singleton.mpr (idle (.inl ⟨_, rfl⟩))
      exact (economical_of_idle asked).append make.economical
    | ending ends => exact absurd ⟨[], _, _, _, rfl, ends⟩ lasts

/-- A call for the session of a target is economical with the roles of control-plane accounts. -/
theorem Assumes.economical (assumes : Assumes broker target region deeds result)
    (found : AnswersBy (.controlSession key) (fun front => front.foldl key.keptAfter kept) deeds)
    (lasts : ¬ broker.ComesWithinMargin key deeds) : key.Economical kept deeds := by
  obtain ⟨before, control, after, parts⟩ := assumes.parts
  have start : ∀ deed ∈ before, key.Idle deed :=
    fun deed member => idle_of_targetDeed (parts.before deed member)
  have rest : ∀ deed ∈ after, key.Idle deed :=
    fun deed member => idle_of_targetDeed (parts.after deed member)
  have middle : key.Economical kept control := by
    rcases parts.control with rfl | ⟨other, acted, course, -, -⟩
    · exact economical_of_idle (List.forall_mem_nil _)
    · by_cases same : other = key
      · subst same
        refine course.economical ?_ fun comes => lasts (parts.course ▸ comes.within before after)
        intro front answer later split
        have given := found (before ++ front) answer (later ++ after) (by simp [parts.course, split])
        dsimp only at given
        rwa [List.foldl_append, foldl_of_idle start] at given
      · exact economical_of_idle fun deed member =>
          idle_of_controlDeed (course.controlDeed member) same
  rw [parts.course]
  refine ((economical_of_idle start).append ?_).append (economical_of_idle rest)
  rw [foldl_of_idle start]
  exact middle

variable {τ : Type} {outside : Surroundings brokerInterface τ} {calls : List BrokerCall}
  {state : Keeping τ}

/-- A call is economical with the roles of control-plane accounts, unless it drops all sessions. -/
theorem turn_economical {turn : Turn (Keeping τ)}
    (member : turn ∈ broker.turns (Keeping.exactly outside) calls state)
    (keeps : turn.call ≠ .invalidateAll) (lasts : ¬ broker.ComesWithinMargin key turn.deeds) :
    key.Economical (turn.before.controlSessions.find? key) turn.deeds := by
  have exact := exact_of_mem_turns member
  obtain ⟨call, before, rfl⟩ := exists_of_mem_turns member
  cases wanted : call.wanted? broker.settings.region with
  | some want =>
    obtain ⟨strict, assumes, -⟩ := exists_assumes_turn (Keeping.exactly outside) before wanted
    exact assumes.economical (exact.foundControl key) lasts
  | none =>
    cases call with
    | assumeIn | assume | assumeLenient => cases wanted
    | invalidateAll => exact absurd rfl keeps
    | invalidate account region =>
      refine economical_of_idle (List.forall_mem_singleton.mpr ?_)
      exact ⟨rfl, fun _ => rfl⟩

/-- As long as sessions are not all dropped, and no session of a control-plane account comes within
the margin, calls after one another are economical with its role. -/
theorem turns_economical
    (keeps : ∀ turn ∈ broker.turns (Keeping.exactly outside) calls state,
      turn.call ≠ .invalidateAll)
    (lasts : ¬ broker.ComesWithinMargin key
      (Broker.deeds (broker.turns (Keeping.exactly outside) calls state))) :
    key.Economical (state.controlSessions.find? key)
      (Broker.deeds (broker.turns (Keeping.exactly outside) calls state)) := by
  induction calls generalizing state with
  | nil => exact economical_of_idle (List.forall_mem_nil _)
  | cons call rest ih =>
    let turn := broker.turn (Keeping.exactly outside) call state
    let later := Broker.deeds (broker.turns (Keeping.exactly outside) rest turn.after)
    have member : turn ∈ broker.turns (Keeping.exactly outside) (call :: rest) state :=
      List.mem_cons_self
    have split : Broker.deeds (broker.turns (Keeping.exactly outside) (call :: rest) state) =
        turn.deeds ++ later := rfl
    rw [split] at lasts ⊢
    have first : key.Economical (state.controlSessions.find? key) turn.deeds :=
      turn_economical member (keeps turn member) fun comes => lasts (comes.within [] later)
    have others : key.Economical (turn.after.controlSessions.find? key) later := by
      refine ih (fun other after => keeps other (List.mem_cons_of_mem _ after)) fun comes => ?_
      refine lasts ?_
      rw [← List.append_nil (turn.deeds ++ later)]
      exact comes.within turn.deeds []
    rw [(exact_of_mem_turns member).controlSessions key] at others
    exact first.append others

end Broker
end ControlPlane
