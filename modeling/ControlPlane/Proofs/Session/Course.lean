import ControlPlane.Broker
import ControlPlane.Proofs.Deeds

/-!
# Courses of the broker

What each operation of the broker can do, whoever answers: one inductive for an operation, with a
constructor for each way that it can take, and one lemma that there is no other. The operations that
call others refer to what those do, so each is taken apart once.
-/
namespace ControlPlane

/-- Something that the broker does. -/
abbrev BrokerDeed : Type := Deed brokerInterface

namespace BrokerDeed

/-- The broker gets an answer. -/
abbrev asked (request : BrokerRequest) (answer : request.Answer) : BrokerDeed :=
  @Deed.asked brokerInterface request answer

/-- The broker leaves a mark. -/
abbrev left (mark : BrokerMark) : BrokerDeed := @Deed.left brokerInterface mark

end BrokerDeed

namespace Brokered

/-- An operation can come to a result through some deeds. -/
abbrev Does {α : Type} (operation : Brokered α) (deeds : List BrokerDeed) (result : α) : Prop :=
  Program.Does operation deeds result

end Brokered

namespace Broker

variable {broker : Broker}

/-- The assumption of a role with the settings of a broker. -/
def assumption (broker : Broker) (source : Session) (role : RoleArn) : Assumption :=
  ⟨source, role, broker.settings.sessionName, broker.settings.assumeDuration⟩

/-- The deed of trying to assume a role. -/
abbrev tried (broker : Broker) (source : Session) (role : RoleArn)
    (answer : Except ServiceFailure Credentials) : BrokerDeed :=
  .asked (.assume (broker.assumption source role)) answer

/-- What trying up to a number of further times does: a try that is the last one, or one that fails,
a warning, a wait and what is done then. -/
inductive Tries (broker : Broker) (source : Session) (role : RoleArn) :
    Nat → List BrokerDeed → Except ServiceFailure Credentials → Prop where
  /-- The try succeeds, or fails and is not repeated. -/
  | last {remaining : Nat} (result : Except ServiceFailure Credentials)
      (final : ∀ failure, result = .error failure → remaining ≠ 0 →
        broker.policy.retries failure = false) :
      Tries broker source role remaining [broker.tried source role result] result
  /-- The try fails, and there is another one after a wait. -/
  | again {remaining : Nat} {failure : ServiceFailure} {later : List BrokerDeed}
      {result : Except ServiceFailure Credentials}
      (transient : broker.policy.retries failure = true)
      (tries : Tries broker source role remaining later result) :
      Tries broker source role (remaining + 1)
        (broker.tried source role (.error failure) ::
          .left (.event (broker.policy.warning "assume_role" failure)) ::
          .asked (.sleep broker.policy.wait) () :: later) result

/-- Assuming a role does nothing else than trying. -/
theorem does_assumeRole {source : Session} {role : RoleArn} {deeds : List BrokerDeed}
    {result : Except ServiceFailure Credentials}
    (does : (broker.assumeRole source role).Does deeds result) :
    Tries broker source role (broker.policy.attempts - 1) deeds result := by
  unfold assumeRole RetryPolicy.run at does
  generalize broker.policy.attempts - 1 = remaining at does ⊢
  induction remaining generalizing deeds with
  | zero =>
    obtain rfl := Program.does_request.mp does
    exact .last result fun _ _ nonzero => absurd rfl nonzero
  | succ remaining ih =>
    obtain ⟨answer, front, back, call, rest, rfl⟩ := Program.does_bind.mp does
    obtain rfl := Program.does_request.mp call
    cases answer with
    | ok credentials =>
      obtain ⟨rfl, rfl⟩ := Program.does_done.mp rest
      exact .last _ nofun
    | error failure =>
      dsimp only at rest
      split at rest
      next transient =>
        obtain ⟨later, rfl, wait⟩ := Program.does_leave.mp rest
        obtain ⟨awake, nap, later, slept, more, rfl⟩ := Program.does_bind.mp wait
        obtain rfl := Program.does_request.mp slept
        exact .again transient (ih more)
      next final =>
        obtain ⟨rfl, rfl⟩ := Program.does_done.mp rest
        refine .last _ fun other same _ => ?_
        cases same
        simpa using final

/-- What is come to is the answer to a try. -/
theorem Tries.answered {source : Session} {role : RoleArn} {remaining : Nat}
    {deeds : List BrokerDeed} {result : Except ServiceFailure Credentials}
    (tries : Tries broker source role remaining deeds result) :
    broker.tried source role result ∈ deeds := by
  induction tries with
  | last => exact List.mem_singleton_self _
  | again _ _ ih =>
    exact List.mem_cons_of_mem _ (List.mem_cons_of_mem _ (List.mem_cons_of_mem _ ih))

/-- All that trying does is to try, to warn and to wait. -/
theorem Tries.cases_of_mem {source : Session} {role : RoleArn} {remaining : Nat}
    {deeds : List BrokerDeed} {result : Except ServiceFailure Credentials} {deed : BrokerDeed}
    (tries : Tries broker source role remaining deeds result) (member : deed ∈ deeds) :
    (∃ answer, deed = broker.tried source role answer) ∨ (∃ event, deed = .left (.event event)) ∨
      ∃ wait, deed = .asked (.sleep wait) () := by
  induction tries with
  | last answer => exact .inl ⟨answer, List.mem_singleton.mp member⟩
  | again _ _ ih =>
    rcases List.mem_cons.mp member with rfl | member
    · exact .inl ⟨_, rfl⟩
    · rcases List.mem_cons.mp member with rfl | member
      · exact .inr (.inl ⟨_, rfl⟩)
      · rcases List.mem_cons.mp member with rfl | member
        · exact .inr (.inr ⟨_, rfl⟩)
        · exact ih member

/-- What looking at a kept session does. -/
inductive Looks (broker : Broker) (drop : BrokerMark) :
    Option Session → List BrokerDeed → Except AssumeError (Option Session) → Prop where
  /-- There is no kept session. -/
  | missing : Looks broker drop none [] (.ok none)
  /-- The kept session lasts long enough. -/
  | lasting {session : Session} {now : Instant}
      (lasts : session.expiresWithin? broker.settings.expiryMargin now = some false) :
      Looks broker drop (some session) [.asked .clock now] (.ok (some session))
  /-- The kept session is about to expire, and dropped. -/
  | ending {session : Session} {now : Instant}
      (ends : session.expiresWithin? broker.settings.expiryMargin now = some true) :
      Looks broker drop (some session) [.asked .clock now, .left drop] (.ok none)
  /-- The margin leads beyond the calendar. -/
  | beyond {session : Session} {now : Instant}
      (unknown : session.expiresWithin? broker.settings.expiryMargin now = none) :
      Looks broker drop (some session) [.asked .clock now] (.error .beyondCalendar)

/-- All that looking at a kept session does is to look at the clock and to drop the session. -/
theorem Looks.cases_of_mem {drop : BrokerMark} {kept : Option Session} {deeds : List BrokerDeed}
    {result : Except AssumeError (Option Session)} {deed : BrokerDeed}
    (looks : Looks broker drop kept deeds result) (member : deed ∈ deeds) :
    (∃ now, deed = .asked .clock now) ∨ deed = .left drop := by
  cases looks with
  | missing => cases member
  | lasting | beyond => exact .inl ⟨_, List.mem_singleton.mp member⟩
  | ending =>
    rcases List.mem_cons.mp member with rfl | member
    · exact .inl ⟨_, rfl⟩
    · exact .inr (List.mem_singleton.mp member)

/-- Nothing else is done for a kept session. -/
theorem does_fresh {kept : Option Session} {drop : BrokerMark} {deeds : List BrokerDeed}
    {result : Except AssumeError (Option Session)}
    (does : (broker.fresh kept drop).Does deeds result) : Looks broker drop kept deeds result := by
  unfold fresh at does
  cases kept with
  | none =>
    obtain ⟨rfl, rfl⟩ := Program.does_done.mp does
    exact .missing
  | some session =>
    obtain ⟨now, later, rfl, rest⟩ := Program.does_request_bind.mp does
    cases known : session.expiresWithin? broker.settings.expiryMargin now with
    | none =>
      simp only [known] at rest
      obtain ⟨rfl, rfl⟩ := Program.does_done.mp rest
      exact .beyond known
    | some ends =>
      cases ends with
      | false =>
        simp only [known] at rest
        obtain ⟨rfl, rfl⟩ := Program.does_done.mp rest
        exact .lasting known
      | true =>
        simp only [known] at rest
        obtain ⟨final, rfl, finish⟩ := Program.does_mark_bind.mp rest
        obtain ⟨rfl, rfl⟩ := Program.does_done.mp finish
        exact .ending known

/-- What is done for a session that may be kept, and is made otherwise. -/
inductive Gets (broker : Broker) (drop : BrokerMark)
    (make : Brokered (Except AssumeError Session)) :
    Option Session → List BrokerDeed → Except AssumeError Session → Prop where
  /-- The margin leads beyond the calendar. -/
  | beyond {session : Session} {now : Instant}
      (unknown : session.expiresWithin? broker.settings.expiryMargin now = none) :
      Gets broker drop make (some session) [.asked .clock now] (.error .beyondCalendar)
  /-- The kept session lasts long enough. -/
  | kept {session : Session} {now : Instant}
      (lasts : session.expiresWithin? broker.settings.expiryMargin now = some false) :
      Gets broker drop make (some session) [.asked .clock now] (.ok session)
  /-- There is none that lasts, and one is made. -/
  | made {kept : Option Session} {looks makes : List BrokerDeed}
      {result : Except AssumeError Session} (look : Looks broker drop kept looks (.ok none))
      (made : make.Does makes result) : Gets broker drop make kept (looks ++ makes) result

/-- A session is kept or made, and nothing else is done for it. -/
theorem does_fresh_bind {kept : Option Session} {drop : BrokerMark}
    {make : Brokered (Except AssumeError Session)} {deeds : List BrokerDeed}
    {result : Except AssumeError Session}
    (does : Brokered.Does (do
      match ← broker.fresh kept drop with
      | .error error => return .error error
      | .ok (some session) => return .ok session
      | .ok none => make) deeds result) : Gets broker drop make kept deeds result := by
  obtain ⟨found, looks, back, look, finish, rfl⟩ := Program.does_bind.mp does
  have looked := does_fresh look
  cases found with
  | error error =>
    obtain ⟨rfl, rfl⟩ := Program.does_done.mp finish
    rw [List.append_nil]
    cases looked with
    | beyond unknown => exact .beyond unknown
  | ok found =>
    cases found with
    | some session =>
      obtain ⟨rfl, rfl⟩ := Program.does_done.mp finish
      rw [List.append_nil]
      cases looked with
      | lasting lasts => exact .kept lasts
    | none => exact .made looked finish

/-- What making a session of a control-plane account does. -/
inductive ControlMakes (broker : Broker) (key : ControlPlaneKey) :
    List BrokerDeed → Except AssumeError Session → Prop where
  /-- The settings have no entry for the account. -/
  | unknown (unlisted : broker.controlPlaneRole? key = none) :
      ControlMakes broker key [] (.error (.unknownAccount key))
  /-- The entry names no role: the ambient session is kept for the account. -/
  | ambient {entry : ControlPlaneRole} (listed : broker.controlPlaneRole? key = some entry)
      (roleless : entry.role = none) :
      ControlMakes broker key
        [.left (.keepControl key (.ambient key.account broker.ambientRegion))]
        (.ok (.ambient key.account broker.ambientRegion))
  /-- The role of the entry is not granted. -/
  | refused {entry : ControlPlaneRole} {role : RoleArn} {tries : List BrokerDeed}
      {failure : ServiceFailure} (listed : broker.controlPlaneRole? key = some entry)
      (named : entry.role = some role)
      (tried : Tries broker (.ambient key.account broker.ambientRegion) role
        (broker.policy.attempts - 1) tries (.error failure)) :
      ControlMakes broker key tries (.error (.controlPlaneRole role failure))
  /-- The role of the entry is granted, and its session is kept. -/
  | granted {entry : ControlPlaneRole} {role : RoleArn} {tries : List BrokerDeed}
      {credentials : Credentials} (listed : broker.controlPlaneRole? key = some entry)
      (named : entry.role = some role)
      (tried : Tries broker (.ambient key.account broker.ambientRegion) role
        (broker.policy.attempts - 1) tries (.ok credentials)) :
      ControlMakes broker key
        (tries ++ [.left (.keepControl key
          (.ofCredentials key.account credentials broker.ambientRegion))])
        (.ok (.ofCredentials key.account credentials broker.ambientRegion))

/-- A session of a control-plane account is made in no other way. -/
theorem does_makeControlSession {key : ControlPlaneKey} {deeds : List BrokerDeed}
    {result : Except AssumeError Session}
    (does : (broker.makeControlSession key).Does deeds result) :
    ControlMakes broker key deeds result := by
  unfold makeControlSession at does
  cases listed : broker.controlPlaneRole? key with
  | none =>
    simp only [listed] at does
    obtain ⟨rfl, rfl⟩ := Program.does_done.mp does
    exact .unknown listed
  | some entry =>
    cases named : entry.role with
    | none =>
      simp only [listed, named] at does
      obtain ⟨later, rfl, finish⟩ := Program.does_mark_bind.mp does
      obtain ⟨rfl, rfl⟩ := Program.does_done.mp finish
      exact .ambient listed named
    | some role =>
      simp only [listed, named] at does
      obtain ⟨answer, tries, back, assumed, rest, rfl⟩ := Program.does_bind.mp does
      have tried := does_assumeRole assumed
      cases answer with
      | error failure =>
        obtain ⟨rfl, rfl⟩ := Program.does_done.mp rest
        rw [List.append_nil]
        exact .refused listed named tried
      | ok credentials =>
        obtain ⟨later, rfl, finish⟩ := Program.does_mark_bind.mp rest
        obtain ⟨rfl, rfl⟩ := Program.does_done.mp finish
        exact .granted listed named tried

/-- What the session of a control-plane account takes. -/
inductive ControlCourse (broker : Broker) (key : ControlPlaneKey) :
    List BrokerDeed → Except AssumeError Session → Prop where
  /-- The margin leads beyond the calendar. -/
  | beyond {session : Session} {now : Instant}
      (unknown : session.expiresWithin? broker.settings.expiryMargin now = none) :
      ControlCourse broker key [.asked (.controlSession key) (some session), .asked .clock now]
        (.error .beyondCalendar)
  /-- The kept session lasts long enough. -/
  | kept {session : Session} {now : Instant}
      (lasts : session.expiresWithin? broker.settings.expiryMargin now = some false) :
      ControlCourse broker key [.asked (.controlSession key) (some session), .asked .clock now]
        (.ok session)
  /-- There is none that lasts, and one is made. -/
  | made {kept : Option Session} {looks makes : List BrokerDeed}
      {result : Except AssumeError Session}
      (look : Looks broker (.dropControl key) kept looks (.ok none))
      (make : ControlMakes broker key makes result) :
      ControlCourse broker key (.asked (.controlSession key) kept :: looks ++ makes) result

/-- The session of a control-plane account is come to in no other way. -/
theorem does_controlSession {account : Account} {deeds : List BrokerDeed}
    {result : Except AssumeError Session}
    (does : (broker.controlSession account).Does deeds result) :
    ControlCourse broker ⟨account.id, account.purpose⟩ deeds result := by
  unfold controlSession at does
  obtain ⟨kept, later, rfl, rest⟩ := Program.does_request_bind.mp does
  cases does_fresh_bind rest with
  | beyond unknown => exact .beyond unknown
  | kept lasts => exact .kept lasts
  | made look make => exact .made look (does_makeControlSession make)

/-- What the account is queried by that the role of a target is assumed from. -/
def sourceQuery (broker : Broker) (target : AssumptionTarget) : AccountQuery :=
  ⟨broker.settings.environment, .api, target.hub.partition⟩

/-- What making the session of a target in a region does. -/
inductive Makes (broker : Broker) (target : AssumptionTarget) (region : String) :
    List BrokerDeed → Except AssumeError Session → Prop where
  /-- The directory does not tell whom to assume the role from. -/
  | unlisted (error : DirectoryError) :
      Makes broker target region
        [.asked (.account (broker.sourceQuery target)) (.error error)]
        (.error (.directory error))
  /-- There is no session to assume the role from. -/
  | sourceless {account : Account} {control : List BrokerDeed} {error : AssumeError}
      (source : ControlCourse broker ⟨account.id, account.purpose⟩ control (.error error)) :
      Makes broker target region
        (.asked (.account (broker.sourceQuery target)) (.ok account) :: control)
        (.error error)
  /-- The role is not granted, which is reported. -/
  | refused {account : Account} {control tries : List BrokerDeed} {session : Session}
      {failure : ServiceFailure}
      (source : ControlCourse broker ⟨account.id, account.purpose⟩ control (.ok session))
      (tried : Tries broker session (broker.metadataRole target) (broker.policy.attempts - 1) tries
        (.error failure)) :
      Makes broker target region
        (.asked (.account (broker.sourceQuery target)) (.ok account) :: control ++ tries ++
          [.left (.event (failureReport target (broker.metadataRole target) failure))])
        (.error (.metadataRole (broker.metadataRole target) failure))
  /-- The role is granted, and its session is kept. -/
  | granted {account : Account} {control tries : List BrokerDeed} {session : Session}
      {credentials : Credentials}
      (source : ControlCourse broker ⟨account.id, account.purpose⟩ control (.ok session))
      (tried : Tries broker session (broker.metadataRole target) (broker.policy.attempts - 1) tries
        (.ok credentials)) :
      Makes broker target region
        (.asked (.account (broker.sourceQuery target)) (.ok account) :: control ++ tries ++
          [.left (.keep (.ofCredentials target.accountId credentials region))])
        (.ok (.ofCredentials target.accountId credentials region))

/-- The session of a target is made in no other way. -/
theorem does_makeSession {target : AssumptionTarget} {region : String} {deeds : List BrokerDeed}
    {result : Except AssumeError Session}
    (does : (broker.makeSession target region).Does deeds result) :
    Makes broker target region deeds result := by
  unfold makeSession at does
  obtain ⟨listed, later, rfl, rest⟩ := Program.does_request_bind.mp does
  cases listed with
  | error error =>
    obtain ⟨rfl, rfl⟩ := Program.does_done.mp rest
    exact .unlisted error
  | ok account =>
    obtain ⟨acted, control, back, act, finish, rfl⟩ := Program.does_bind.mp rest
    have source := does_controlSession act
    cases acted with
    | error error =>
      obtain ⟨rfl, rfl⟩ := Program.does_done.mp finish
      rw [List.append_nil]
      exact .sourceless source
    | ok session =>
      obtain ⟨answer, tries, last, assumed, report, rfl⟩ := Program.does_bind.mp finish
      have tried := does_assumeRole assumed
      rw [← List.append_assoc, ← List.cons_append, ← List.cons_append]
      cases answer with
      | error failure =>
        obtain ⟨final, rfl, ended⟩ := Program.does_mark_bind.mp report
        obtain ⟨rfl, rfl⟩ := Program.does_done.mp ended
        exact .refused source tried
      | ok credentials =>
        obtain ⟨final, rfl, ended⟩ := Program.does_mark_bind.mp report
        obtain ⟨rfl, rfl⟩ := Program.does_done.mp ended
        exact .granted source tried

/-- What the session of a target in a region takes. -/
inductive Assumes (broker : Broker) (target : AssumptionTarget) (region : String) :
    List BrokerDeed → Except AssumeError Session → Prop where
  /-- The target has no metadata role. -/
  | unsupported (technical : target.supportsMetadataRole = false) :
      Assumes broker target region [] (.error (.unsupported target))
  /-- The margin leads beyond the calendar. -/
  | beyond {session : Session} {now : Instant} (supported : target.supportsMetadataRole = true)
      (unknown : session.expiresWithin? broker.settings.expiryMargin now = none) :
      Assumes broker target region
        [.asked (.session ⟨target.accountId, region⟩) (some session), .asked .clock now]
        (.error .beyondCalendar)
  /-- The kept session lasts long enough. -/
  | kept {session : Session} {now : Instant} (supported : target.supportsMetadataRole = true)
      (lasts : session.expiresWithin? broker.settings.expiryMargin now = some false) :
      Assumes broker target region
        [.asked (.session ⟨target.accountId, region⟩) (some session), .asked .clock now]
        (.ok session)
  /-- There is none that lasts, and one is made. -/
  | made {kept : Option Session} {looks makes : List BrokerDeed}
      {result : Except AssumeError Session} (supported : target.supportsMetadataRole = true)
      (look : Looks broker (.drop ⟨target.accountId, region⟩) kept looks (.ok none))
      (make : Makes broker target region makes result) :
      Assumes broker target region
        (.asked (.session ⟨target.accountId, region⟩) kept :: looks ++ makes) result

/-- The session of a target is come to in no other way. -/
theorem does_assumeIn {target : AssumptionTarget} {region : String} {deeds : List BrokerDeed}
    {result : Except AssumeError Session}
    (does : (broker.assumeIn target region).Does deeds result) :
    Assumes broker target region deeds result := by
  unfold assumeIn at does
  cases supported : target.supportsMetadataRole with
  | false =>
    rw [supported, if_pos nofun] at does
    obtain ⟨rfl, rfl⟩ := Program.does_done.mp does
    exact .unsupported supported
  | true =>
    rw [supported, if_neg (by simp)] at does
    obtain ⟨kept, later, rfl, rest⟩ := Program.does_request_bind.mp does
    cases does_fresh_bind rest with
    | beyond unknown => exact .beyond supported unknown
    | kept lasts => exact .kept supported lasts
    | made look make => exact .made supported look (does_makeSession make)

/-- A result in which a target without a metadata role is no error. -/
def lenient : Except AssumeError Session → Except AssumeError (Option Session)
  | .ok session => .ok (some session)
  | .error (.unsupported _) => .ok none
  | .error error => .error error

/-- A lenient call does what a strict one does in the configured region. -/
theorem does_assumeLenient {target : AssumptionTarget} {deeds : List BrokerDeed}
    {result : Except AssumeError (Option Session)}
    (does : (broker.assumeLenient target).Does deeds result) :
    ∃ strict, Assumes broker target broker.settings.region deeds strict ∧
      result = lenient strict := by
  unfold assumeLenient at does
  obtain ⟨strict, front, back, assumed, rest, rfl⟩ := Program.does_bind.mp does
  refine ⟨strict, ?_⟩
  cases strict with
  | ok session =>
    obtain ⟨rfl, rfl⟩ := Program.does_done.mp rest
    exact ⟨by simpa using does_assumeIn assumed, rfl⟩
  | error error =>
    cases error <;> obtain ⟨rfl, rfl⟩ := Program.does_done.mp rest <;>
      exact ⟨by simpa using does_assumeIn assumed, rfl⟩

end Broker
end ControlPlane
