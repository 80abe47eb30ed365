import ControlPlane.Proofs.Session.Grants

/-!
# What calls find, keep and drop

What is kept under a key is a fold over the deeds. A call that wants the session of the key looks for
it first of all, hands it out if it is not about to expire, and makes it anew if there is none. A
session that is handed out is kept afterwards, and after a call that failed there is none
(`Assumes.keeps`, `Assumes.forgets`). A call that has nothing to do with the key leaves its session as
it is (`after_eq_before`), and would do the same without it (`spares_of_unwanted`).
-/
namespace ControlPlane

/-- The key of the session that a call wants. -/
def BrokerCall.key? (configured : String) (call : BrokerCall) : Option SessionKey :=
  (call.wanted? configured).map fun want => ⟨want.1.accountId, want.2⟩

/-- A call has to do with the session of a key: it wants it or drops it. -/
def BrokerCall.Touches (configured : String) (call : BrokerCall) (key : SessionKey) : Prop :=
  call.key? configured = some key ∨ call = .invalidate key.account key.region ∨
    call = .invalidateAll

namespace Broker

variable {broker : Broker} {target : AssumptionTarget} {region : String} {key : SessionKey}
  {deed : BrokerDeed} {deeds : List BrokerDeed} {result : Except AssumeError Session}
  {session : Session}

/-- What is done for a target leaves the sessions of other keys as they are. -/
theorem TargetDeed.keptAfter_eq (does : broker.TargetDeed target region deed)
    (other : (⟨target.accountId, region⟩ : SessionKey) ≠ key) (kept : Option Session) :
    key.keptAfter kept deed = kept := by
  cases does with
  | dropped => exact if_neg other
  | kept credentials => exact if_neg other
  | _ => rfl

/-- What is done for a control-plane account leaves the sessions of targets as they are. -/
theorem ControlDeed.keptAfter_eq {account : ControlPlaneKey}
    (does : broker.ControlDeed account deed) (kept : Option Session) :
    key.keptAfter kept deed = kept := by
  cases does <;> rfl

/-- What is done for a target spares the sessions of other keys. -/
theorem TargetDeed.spares (does : broker.TargetDeed target region deed)
    (other : (⟨target.accountId, region⟩ : SessionKey) ≠ key) : Keeping.Spares key deed := by
  constructor
  · rintro answer rfl
    cases does
    exact other rfl
  · rintro session rfl
    cases does
    exact other

/-- What is done for a control-plane account spares the sessions of targets. -/
theorem ControlDeed.spares {account : ControlPlaneKey} (does : broker.ControlDeed account deed) :
    Keeping.Spares key deed := by
  constructor
  · rintro answer rfl
    cases does
  · rintro session rfl
    cases does

/-- Everything that is done for the session of a target is done for it or for a control-plane
account. -/
theorem Assumes.cases_of_mem (assumes : Assumes broker target region deeds result)
    (member : deed ∈ deeds) :
    broker.TargetDeed target region deed ∨ ∃ account, broker.ControlDeed account deed := by
  obtain ⟨before, control, after, parts⟩ := assumes.parts
  rw [parts.course] at member
  rcases List.mem_append.mp member with member | late
  · rcases List.mem_append.mp member with early | middle
    · exact .inl (parts.before deed early)
    · rcases parts.control with rfl | ⟨account, acted, course, -, -⟩
      · cases middle
      · exact .inr ⟨account, course.controlDeed middle⟩
  · exact .inl (parts.after deed late)

/-- Where no session is kept there is none later, unless one is kept. -/
theorem foldl_keptAfter_none (unkept : ∀ session, .left (.keep session) ∉ deeds) :
    deeds.foldl key.keptAfter none = none := by
  induction deeds with
  | nil => rfl
  | cons deed rest ih =>
    have first : key.keptAfter none deed = none := by
      unfold SessionKey.keptAfter
      split
      · next session => exact absurd List.mem_cons_self (unkept session)
      · exact ite_self none
      · rfl
      · rfl
    rw [List.foldl_cons, first]
    exact ih fun session member => unkept session (List.mem_cons_of_mem _ member)

section Courses

variable {kept : Option Session}

/-- The look at the cache that a call for the session of a target begins with finds what is kept. -/
abbrev FindsKept (target : AssumptionTarget) (region : String) (kept : Option Session)
    (deeds : List BrokerDeed) : Prop :=
  AnswersBy (.session ⟨target.accountId, region⟩)
    (fun front => front.foldl (SessionKey.keptAfter ⟨target.accountId, region⟩) kept) deeds

/-- Nothing is done for a target without a metadata role. -/
theorem Assumes.eq_nil (assumes : Assumes broker target region deeds result)
    (unsupported : target.supportsMetadataRole = false) : deeds = [] := by
  cases assumes with
  | unsupported => rfl
  | beyond supported | kept supported | made supported =>
    rw [unsupported] at supported
    cases supported

/-- A session that is kept is looked at first, and handed out if it is not about to expire. -/
theorem Assumes.reuses (assumes : Assumes broker target region deeds result)
    (supported : target.supportsMetadataRole = true)
    (found : FindsKept target region (some session) deeds) :
    ∃ now rest, deeds = [.asked (.session ⟨target.accountId, region⟩) (some session),
        .asked .clock now] ++ rest ∧
      (session.expiresWithin? broker.settings.expiryMargin now = some false →
        rest = [] ∧ result = .ok session) := by
  cases assumes with
  | unsupported technical =>
    rw [technical] at supported
    cases supported
  | @beyond other now _ unknown =>
    obtain rfl : other = session := Option.some.inj (found [] _ _ rfl)
    refine ⟨now, [], rfl, fun lasts => ?_⟩
    rw [unknown] at lasts
    cases lasts
  | @kept other now _ lasts =>
    obtain rfl : other = session := Option.some.inj (found [] _ _ rfl)
    exact ⟨now, [], rfl, fun _ => ⟨rfl, rfl⟩⟩
  | @made answer looks makes _ _ look make =>
    obtain rfl : answer = some session := found [] _ _ rfl
    cases look with
    | @ending _ now ends =>
      refine ⟨now, .left (.drop ⟨target.accountId, region⟩) :: makes, rfl, fun lasts => ?_⟩
      rw [ends] at lasts
      cases lasts

/-- Without a session that is kept the directory is queried, and a session that is handed out was
obtained with the role of the target. -/
theorem Assumes.anew (assumes : Assumes broker target region deeds result)
    (supported : target.supportsMetadataRole = true)
    (found : FindsKept target region none deeds) :
    (∃ answer rest, deeds = .asked (.session ⟨target.accountId, region⟩) none ::
        .asked (.account (broker.sourceQuery target)) answer :: rest) ∧
      ∀ session, result = .ok session → broker.Obtained target region deeds session := by
  cases assumes with
  | unsupported technical =>
    rw [technical] at supported
    cases supported
  | beyond => cases found [] _ _ rfl
  | kept => cases found [] _ _ rfl
  | @made answer looks makes _ _ look make =>
    obtain rfl : answer = none := found [] _ _ rfl
    cases look with
    | missing =>
      constructor
      · cases make with
        | unlisted | sourceless | refused | granted => exact ⟨_, _, rfl⟩
      · rintro session rfl
        obtain ⟨source, credentials, tried, own⟩ := make.obtained
        exact ⟨source, credentials, List.mem_cons_of_mem _ tried, own⟩

/-- A session that is handed out is kept. -/
theorem Assumes.keeps (assumes : Assumes broker target region deeds (.ok session))
    (found : FindsKept target region kept deeds) :
    deeds.foldl (SessionKey.keptAfter ⟨target.accountId, region⟩) kept = some session := by
  cases assumes with
  | kept =>
    obtain rfl : some session = kept := found [] _ _ rfl
    rfl
  | made _ look make =>
    cases make with
    | granted source tried =>
      rw [List.foldl_append, List.foldl_append]
      exact if_pos rfl

/-- After a call for a target with a role that failed, no session of the target is kept. Where the
calendar ends nothing is said. -/
theorem Assumes.forgets {error : AssumeError}
    (assumes : Assumes broker target region deeds (.error error))
    (supported : target.supportsMetadataRole = true) (known : error ≠ .beyondCalendar)
    (found : FindsKept target region kept deeds) :
    deeds.foldl (SessionKey.keptAfter ⟨target.accountId, region⟩) kept = none := by
  cases assumes with
  | unsupported technical =>
    rw [technical] at supported
    cases supported
  | beyond => exact absurd rfl known
  | @made answer looks makes _ _ look make =>
    obtain rfl : answer = kept := found [] _ _ rfl
    have looked : (BrokerDeed.asked (.session ⟨target.accountId, region⟩) answer :: looks).foldl
        (SessionKey.keptAfter ⟨target.accountId, region⟩) answer = none := by
      cases look with
      | missing => rfl
      | ending => exact if_pos rfl
    rw [List.foldl_append, looked]
    exact foldl_keptAfter_none fun session member => nomatch make.result_of_keep member

/-- A call that fails keeps no session of its target. -/
theorem Assumes.not_mem_keep {error : AssumeError}
    (assumes : Assumes broker target region deeds (.error error)) (session : Session) :
    .left (.keep session) ∉ deeds := by
  intro member
  cases assumes with
  | unsupported => cases member
  | beyond => simp at member
  | made _ look make =>
    rcases List.mem_append.mp member with early | late
    · rcases List.mem_cons.mp early with same | looked
      · cases same
      · rcases look.cases_of_mem looked with ⟨_, same⟩ | same <;> cases same
    · cases make.result_of_keep late

/-- If there is no session of a control-plane account in the end, none was kept. -/
theorem ControlCourse.not_mem_keepControl {key other : ControlPlaneKey} {error : AssumeError}
    (course : ControlCourse broker key deeds (.error error)) (session : Session) :
    .left (.keepControl other session) ∉ deeds := by
  intro member
  cases course with
  | beyond => simp at member
  | made look make =>
    rcases List.mem_append.mp member with early | late
    · rcases List.mem_cons.mp early with same | looked
      · cases same
      · rcases look.cases_of_mem looked with ⟨_, same⟩ | same <;> cases same
    · cases make with
      | unknown => cases late
      | refused _ _ tried =>
        rcases tried.cases_of_mem late with ⟨_, same⟩ | ⟨_, same⟩ | ⟨_, same⟩ <;> cases same

/-- A call that fails keeps a session of a control-plane account only if it fails afterwards, for want
of the target's role. -/
theorem Assumes.exists_metadataRole {key : ControlPlaneKey} {error : AssumeError}
    (assumes : Assumes broker target region deeds (.error error))
    (member : .left (.keepControl key session) ∈ deeds) :
    ∃ role failure, error = .metadataRole role failure := by
  obtain ⟨before, control, after, parts⟩ := assumes.parts
  rw [parts.course] at member
  rcases List.mem_append.mp member with member | late
  · rcases List.mem_append.mp member with early | middle
    · cases parts.before _ early
    · rcases parts.control with rfl | ⟨account, acted, course, -, failing⟩
      · cases middle
      · cases acted with
        | ok acting => exact failing acting error rfl rfl
        | error reason => exact absurd middle (course.not_mem_keepControl session)
  · cases parts.after _ late

end Courses

section Turns

variable {σ τ : Type} {surroundings : Surroundings brokerInterface σ}
  {outside : Surroundings brokerInterface τ} {call : BrokerCall} {calls : List BrokerCall}
  {state : Keeping τ} {turn : Turn (Keeping τ)} {configured : String}

/-- A call that fails wants a session. -/
theorem exists_wanted_of_failure {error : AssumeError}
    {turn : Turn σ} (failed : turn.failure? = some error) :
    ∃ target region, turn.call.wanted? configured = some (target, region) := by
  obtain ⟨call, before, deeds, result, after⟩ := turn
  cases call with
  | assumeIn target region => exact ⟨target, region, rfl⟩
  | assume target => exact ⟨target, configured, rfl⟩
  | assumeLenient target => exact ⟨target, configured, rfl⟩
  | invalidate | invalidateAll => cases failed

/-- A call that has nothing to do with a key spares its session. -/
theorem spares_of_unwanted {turn : Turn σ} {start : σ}
    (member : turn ∈ broker.turns surroundings calls start)
    (unwanted : turn.call.key? broker.settings.region ≠ some key) :
    ∀ deed ∈ turn.deeds, Keeping.Spares key deed := by
  obtain ⟨call, before, rfl⟩ := exists_of_mem_turns member
  intro deed done
  cases wanted : call.wanted? broker.settings.region with
  | some want =>
    obtain ⟨target, region⟩ := want
    have other : (⟨target.accountId, region⟩ : SessionKey) ≠ key := fun same => unwanted (by
      subst same
      exact congrArg (Option.map _) wanted)
    obtain ⟨strict, assumes, -⟩ := exists_assumes member wanted
    rcases assumes.cases_of_mem done with does | ⟨account, does⟩
    · exact does.spares other
    · exact does.spares
  | none =>
    cases call with
    | assumeIn | assume | assumeLenient => cases wanted
    | invalidate | invalidateAll =>
      obtain rfl := List.mem_singleton.mp done
      exact ⟨fun _ same => (nomatch same), fun _ same => (nomatch same)⟩

/-- A call that has nothing to do with a key leaves its session as it is. -/
theorem after_eq_before (member : turn ∈ broker.turns (Keeping.exactly outside) calls state)
    (apart : ¬ turn.call.Touches broker.settings.region key) :
    turn.after.sessions.find? key = turn.before.sessions.find? key := by
  rw [(exact_of_mem_turns member).sessions key]
  refine foldl_eq_self ?_ _
  obtain ⟨call, before, rfl⟩ := exists_of_mem_turns member
  intro deed done kept
  cases wanted : call.wanted? broker.settings.region with
  | some want =>
    obtain ⟨target, region⟩ := want
    have other : (⟨target.accountId, region⟩ : SessionKey) ≠ key := fun same => apart (.inl (by
      subst same
      exact congrArg (Option.map _) wanted))
    obtain ⟨strict, assumes, -⟩ := exists_assumes member wanted
    rcases assumes.cases_of_mem done with does | ⟨account, does⟩
    · exact does.keptAfter_eq other kept
    · exact does.keptAfter_eq kept
  | none =>
    cases call with
    | assumeIn | assume | assumeLenient => cases wanted
    | invalidate account region =>
      obtain rfl := List.mem_singleton.mp done
      refine if_neg fun same => apart (.inr (.inl ?_))
      subst same
      rfl
    | invalidateAll => exact absurd (.inr (.inr rfl)) apart

/-- Calls that drop the session of a key leave none. -/
theorem after_eq_none_of_dropped
    (member : turn ∈ broker.turns (Keeping.exactly outside) calls state)
    (drops : turn.call = .invalidate key.account key.region ∨ turn.call = .invalidateAll) :
    turn.after.sessions.find? key = none := by
  rw [(exact_of_mem_turns member).sessions key]
  obtain ⟨call, before, rfl⟩ := exists_of_mem_turns member
  rcases drops with rfl | rfl
  · exact if_pos rfl
  · rfl

/-- Where no session is kept under a key there is none after a call that does not want it. -/
theorem after_eq_none (member : turn ∈ broker.turns (Keeping.exactly outside) calls state)
    (unwanted : turn.call.key? broker.settings.region ≠ some key)
    (absent : turn.before.sessions.find? key = none) : turn.after.sessions.find? key = none := by
  by_cases touches : turn.call.Touches broker.settings.region key
  · rcases touches with wanted | drops
    · exact absurd wanted unwanted
    · exact after_eq_none_of_dropped member drops
  · rw [after_eq_before member touches, absent]

end Turns

end Broker
end ControlPlane
