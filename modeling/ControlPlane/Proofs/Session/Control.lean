import ControlPlane.Proofs.Session.Provenance

/-!
# Control-plane sessions

The roles of targets are assumed from sessions of control-plane accounts, which are kept by account
and purpose, apart from those of targets. A session that is kept is the one that the settings ask
for (`turns_keepsActing`): the ambient one, or one with credentials that were given out to it for the
role of the last entry of the account. So whatever is found acts for its account
(`KeepsActing.of_lastKept`), as long as sessions are found again as they were kept
(`FindsLastControl`).
-/
namespace ControlPlane

/-- The session that was last kept under a key was kept at some time. -/
theorem ControlPlaneKey.mem_of_lastKept {key : ControlPlaneKey} {deeds : List BrokerDeed}
    {session : Session} (kept : key.lastKept deeds = some session) :
    .left (.keepControl key session) ∈ deeds := by
  refine mem_of_foldl_eq_some (fun session => .left (.keepControl key session)) ?_ kept
  intro held deed found after
  unfold ControlPlaneKey.keptAfter at after
  split at after
  · split at after
    next same =>
      cases after
      subst same
      exact .inl rfl
    next => exact .inr after
  · split at after
    · cases after
    · exact .inr after
  · cases after
  · exact .inr after

namespace Broker

variable {broker : Broker} {target : AssumptionTarget} {region : String} {key : ControlPlaneKey}
  {deeds : List BrokerDeed} {result : Except AssumeError Session} {session : Session}

/-- An entry of the settings is about a control-plane account. -/
def Concerns (entry : ControlPlaneRole) (key : ControlPlaneKey) : Prop :=
  entry.accountId = key.account ∧ entry.purpose = key.purpose

/-- An entry is the last one of the settings that is about a control-plane account. -/
def LastEntry (broker : Broker) (key : ControlPlaneKey) (entry : ControlPlaneRole) : Prop :=
  ∃ front back, broker.settings.controlPlaneRoles = front ++ entry :: back ∧ Concerns entry key ∧
    ∀ other ∈ back, ¬ Concerns other key

/-- The last entry about an account is what is configured for it. -/
theorem lastEntry_of_controlPlaneRole? {entry : ControlPlaneRole}
    (listed : broker.controlPlaneRole? key = some entry) : broker.LastEntry key entry := by
  obtain ⟨concerns, front, back, split, earlier⟩ := List.find?_eq_some_iff_append.mp listed
  refine ⟨back.reverse, front.reverse, ?_, by simpa [Concerns] using concerns, ?_⟩
  · rw [← List.reverse_reverse broker.settings.controlPlaneRoles, split]
    simp
  · intro other member concerns
    simpa [concerns.1, concerns.2] using earlier other (List.mem_reverse.mp member)

/-- Nothing is configured for an account that no entry is about. -/
theorem controlPlaneRole?_eq_none
    (unlisted : ∀ entry ∈ broker.settings.controlPlaneRoles, ¬ Concerns entry key) :
    broker.controlPlaneRole? key = none := by
  refine List.find?_eq_none.mpr fun entry member => ?_
  simpa [Concerns] using unlisted entry (List.mem_reverse.mp member)

/-- A session acts for a control-plane account as the last entry about it says: it is the ambient
one, or it has credentials that were given out to the ambient one for the role of the entry. -/
inductive ActsFor (broker : Broker) (key : ControlPlaneKey) (past : List BrokerDeed) :
    Session → Prop where
  /-- The entry names no role, so the ambient session acts for the account. -/
  | ambient {entry : ControlPlaneRole} (last : broker.LastEntry key entry)
      (roleless : entry.role = none) :
      ActsFor broker key past (.ambient key.account broker.ambientRegion)
  /-- The entry names a role, which was granted to the ambient session. -/
  | granted {entry : ControlPlaneRole} {role : RoleArn} {credentials : Credentials}
      (last : broker.LastEntry key entry) (named : entry.role = some role)
      (given : broker.tried (.ambient key.account broker.ambientRegion) role (.ok credentials) ∈
        past) :
      ActsFor broker key past (.ofCredentials key.account credentials broker.ambientRegion)

/-- A session that acts for an account is one of that account. -/
theorem ActsFor.account_eq {past : List BrokerDeed} (acts : ActsFor broker key past session) :
    session.account = key.account := by
  cases acts <;> rfl

/-- What was given out stays given out. -/
theorem ActsFor.mono {past more : List BrokerDeed} (acts : ActsFor broker key past session)
    (within : past ⊆ more) : ActsFor broker key more session := by
  cases acts with
  | ambient last roleless => exact .ambient last roleless
  | granted last named given => exact .granted last named (within given)

/-- A session of a control-plane account is made as the settings say. -/
theorem ControlMakes.actsFor (makes : ControlMakes broker key deeds (.ok session)) :
    ActsFor broker key deeds session := by
  cases makes with
  | ambient listed roleless => exact .ambient (lastEntry_of_controlPlaneRole? listed) roleless
  | granted listed named tried =>
    exact .granted (lastEntry_of_controlPlaneRole? listed) named
      (List.mem_append_left _ tried.answered)

/-- Each session that is kept for a control-plane account acts for it by the deeds before. -/
def KeepsActing (broker : Broker) (deeds : List BrokerDeed) : Prop :=
  ∀ front key session rest, deeds = front ++ .left (.keepControl key session) :: rest →
    ActsFor broker key front session

/-- Among deeds that keep no such session there is none that does not act. -/
theorem keepsActing_of_not_mem (idle : ∀ key session, .left (.keepControl key session) ∉ deeds) :
    KeepsActing broker deeds := by
  rintro front key session rest rfl
  exact absurd (List.mem_append_right _ (List.mem_cons_self ..)) (idle key session)

/-- A session that acts for an account is kept for it. -/
theorem KeepsActing.concat (earlier : KeepsActing broker deeds)
    (acts : ActsFor broker key deeds session) :
    KeepsActing broker (deeds ++ [.left (.keepControl key session)]) := by
  intro front other kept rest split
  rcases Deed.cases_of_concat split with ⟨rfl, same⟩ | ⟨between, same⟩
  · cases same
    exact acts
  · exact earlier front other kept between same

/-- What is kept by some deeds or by others after them acts. -/
theorem KeepsActing.append {front back : List BrokerDeed} (first : KeepsActing broker front)
    (second : KeepsActing broker back) : KeepsActing broker (front ++ back) := by
  intro before key session rest split
  rcases List.append_eq_append_iff.mp split with ⟨between, rfl, same⟩ | ⟨between, same, later⟩
  · exact (second between key session rest same).mono (List.subset_append_right _ _)
  · cases between with
    | nil =>
      rw [List.append_nil] at same
      subst same
      exact (second [] key session rest later.symm).mono (List.nil_subset _)
    | cons deed between =>
      obtain ⟨rfl, -⟩ := List.cons.inj later
      exact first before key session between same

/-- Trying keeps nothing. -/
theorem Tries.keepsActing {source : Session} {role : RoleArn} {remaining : Nat}
    {answer : Except ServiceFailure Credentials}
    (tries : Tries broker source role remaining deeds answer) : KeepsActing broker deeds := by
  refine keepsActing_of_not_mem fun key session member => ?_
  rcases tries.cases_of_mem member with ⟨_, same⟩ | ⟨_, same⟩ | ⟨_, same⟩ <;> cases same

/-- Looking at a kept session keeps nothing. -/
theorem Looks.keepsActing {drop : BrokerMark} {kept : Option Session}
    {found : Except AssumeError (Option Session)} (looks : Looks broker drop kept deeds found)
    (drops : ∀ key session, drop ≠ .keepControl key session) : KeepsActing broker deeds := by
  refine keepsActing_of_not_mem fun key session member => ?_
  rcases looks.cases_of_mem member with ⟨_, same⟩ | same
  · cases same
  · exact drops key session (Deed.left.inj same).symm

/-- A session that is made for a control-plane account acts for it when it is kept. -/
theorem ControlMakes.keepsActing (makes : ControlMakes broker key deeds result) :
    KeepsActing broker deeds := by
  cases makes with
  | unknown => exact keepsActing_of_not_mem fun _ _ => nofun
  | ambient listed roleless =>
    have idle : KeepsActing broker [] := keepsActing_of_not_mem fun _ _ => nofun
    exact idle.concat (.ambient (lastEntry_of_controlPlaneRole? listed) roleless)
  | refused _ _ tried => exact tried.keepsActing
  | granted listed named tried =>
    exact tried.keepsActing.concat
      (.granted (lastEntry_of_controlPlaneRole? listed) named tried.answered)

/-- What is kept for a control-plane account acts for it. -/
theorem ControlCourse.keepsActing (course : ControlCourse broker key deeds result) :
    KeepsActing broker deeds := by
  cases course with
  | beyond | kept => exact keepsActing_of_not_mem fun _ _ member => by simp at member
  | @made kept looks makes _ look make =>
    have asked : KeepsActing broker [.asked (.controlSession key) kept] :=
      keepsActing_of_not_mem fun _ _ member => by simp at member
    have looked := look.keepsActing fun _ _ same => by cases same
    exact (asked.append looked).append make.keepsActing

/-- What is kept on the way to a new session of a target acts. -/
theorem Makes.keepsActing (makes : Makes broker target region deeds result) :
    KeepsActing broker deeds := by
  have listed (answer : Except DirectoryError Account) :
      KeepsActing broker [.asked (.account (broker.sourceQuery target)) answer] :=
    keepsActing_of_not_mem fun _ _ member => by simp at member
  cases makes with
  | unlisted error => exact listed (.error error)
  | sourceless source => exact (listed _).append source.keepsActing
  | refused source tried =>
    refine (((listed _).append source.keepsActing).append tried.keepsActing).append ?_
    exact keepsActing_of_not_mem fun _ _ member => by simp at member
  | granted source tried =>
    refine (((listed _).append source.keepsActing).append tried.keepsActing).append ?_
    exact keepsActing_of_not_mem fun _ _ member => by simp at member

/-- What is kept for the session of a target acts. -/
theorem Assumes.keepsActing (assumes : Assumes broker target region deeds result) :
    KeepsActing broker deeds := by
  cases assumes with
  | unsupported => exact keepsActing_of_not_mem fun _ _ => nofun
  | beyond | kept => exact keepsActing_of_not_mem fun _ _ member => by simp at member
  | @made kept looks makes _ supported look make =>
    have asked : KeepsActing broker [.asked (.session ⟨target.accountId, region⟩) kept] :=
      keepsActing_of_not_mem fun _ _ member => by simp at member
    have looked := look.keepsActing fun _ _ same => by cases same
    exact (asked.append looked).append make.keepsActing

variable {σ : Type} {surroundings : Surroundings brokerInterface σ}

/-- What a call keeps acts. -/
theorem turn_keepsActing (call : BrokerCall) (state : σ) :
    KeepsActing broker (broker.turn surroundings call state).deeds := by
  cases wanted : call.wanted? broker.settings.region with
  | some want =>
    obtain ⟨strict, assumes, -⟩ := exists_assumes_turn surroundings state wanted
    exact assumes.keepsActing
  | none =>
    refine keepsActing_of_not_mem fun _ _ member => ?_
    cases call with
    | assumeIn | assume | assumeLenient => cases wanted
    | invalidate account region => cases List.mem_singleton.mp member
    | invalidateAll => cases List.mem_singleton.mp member

/-- Whatever is kept for control-plane accounts acts for them, over all calls. -/
theorem turns_keepsActing (calls : List BrokerCall) (state : σ) :
    KeepsActing broker (Broker.deeds (broker.turns surroundings calls state)) := by
  induction calls generalizing state with
  | nil => exact keepsActing_of_not_mem fun _ _ member => by cases member
  | cons call rest ih => exact (turn_keepsActing call state).append (ih _)

/-- The session that was last kept for a control-plane account acts for it. -/
theorem KeepsActing.of_lastKept {front rest : List BrokerDeed}
    (keeps : KeepsActing broker (front ++ rest)) (kept : key.lastKept front = some session) :
    ActsFor broker key front session := by
  obtain ⟨early, late, rfl⟩ := List.append_of_mem (ControlPlaneKey.mem_of_lastKept kept)
  exact (keeps early key session (late ++ rest) (by simp)).mono (List.subset_append_left _ _)

end Broker

end ControlPlane
