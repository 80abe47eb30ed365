import ControlPlane.Proofs.Configuration.Construction
import ControlPlane.Proofs.Retry
import ControlPlane.Proofs.Session.Control

/-!
# What a call of a broker spends

A call for the session of a target assumes at most two roles, that of a control-plane account and
then that of the target. Each of them is tried as the settings say: no more often than they allow,
again only after a throttling code, and after the wait that is configured (`Series`). A try that
succeeds is the last one, and the session that is made of its credentials is kept at once
(`Assumes.spends`).
-/
namespace ControlPlane

/-- A failure says that there were too many requests. -/
def ServiceFailure.Throttles (failure : ServiceFailure) : Prop :=
  ∃ code, failure.code? = some code ∧ code ∈ throttlingCodes

namespace Broker

/-- A broker works by the settings that it was built with. -/
structure Follows (broker : Broker) (settings : BrokerSettings) : Prop where
  /-- The broker has the settings. -/
  own : broker.settings = settings
  /-- As many calls are allowed as the settings say. -/
  attempts : broker.policy.attempts = settings.retryAttempts
  /-- The pause is the one of the settings. -/
  wait : broker.policy.wait = .ofMillis settings.retryWaitMillis
  /-- Exactly the failures for too many requests are tried again. -/
  retries : ∀ failure, broker.policy.retries failure = true ↔ failure.Throttles

/-- Only throttling codes are tried again by a policy for these. -/
theorem retries_throttling_iff {policy : RetryPolicy} {failure : ServiceFailure}
    (codes : policy.codes = .only ServiceFailure.throttlingCodes) (transports : policy.transports = []) :
    policy.retries failure = true ↔ failure.Throttles := by
  rw [RetryPolicy.retries_iff, codes, transports]
  constructor
  · rintro (⟨fault, words, -, listed⟩ | ⟨-, code, coded, admitted⟩)
    · cases listed
    · refine ⟨code, coded, ?_⟩
      simpa [RetryCodes.admits] using admitted
  · rintro ⟨code, coded, listed⟩
    refine .inr ⟨?_, code, coded, by simpa [RetryCodes.admits] using listed⟩
    rintro fault words rfl
    cases coded

/-- The policy of some settings has their numbers, and is one for throttling codes. -/
theorem eq_of_retryPolicy {settings : BrokerSettings} {policy : RetryPolicy}
    (known : settings.retryPolicy = .ok policy) :
    policy.attempts = settings.retryAttempts ∧ policy.wait = .ofMillis settings.retryWaitMillis ∧
      policy.codes = .only ServiceFailure.throttlingCodes ∧ policy.transports = [] := by
  unfold BrokerSettings.retryPolicy RetryPolicy.of? at known
  by_cases positive : 1 ≤ settings.retryAttempts
  · rw [dif_pos positive] at known
    obtain rfl := Except.ok.inj known
    exact ⟨rfl, rfl, rfl, rfl⟩
  · rw [dif_neg positive] at known
    cases known

/-- A broker that is built follows its settings. -/
theorem follows_of_of? {broker : Broker} {settings : BrokerSettings} {ambientRegion : String}
    (built : of? settings ambientRegion = .ok broker) : broker.Follows settings := by
  cases known : settings.retryPolicy with
  | error error =>
    rw [of?, known] at built
    cases built
  | ok policy =>
    rw [of?_of_retryPolicy known] at built
    split at built
    · obtain rfl := Except.ok.inj built
      obtain ⟨attempts, wait, codes, transports⟩ := eq_of_retryPolicy known
      exact ⟨rfl, attempts, wait, fun failure => retries_throttling_iff codes transports⟩
    · cases built

variable {broker : Broker} {settings : BrokerSettings} {target : AssumptionTarget} {region : String}
  {source : Session} {role : RoleArn} {key : ControlPlaneKey} {deeds : List BrokerDeed}
  {result : Except AssumeError Session}

/-- A try that is followed by another one: it fails, which is reported, and the wait is over. -/
def triedAgain (broker : Broker) (settings : BrokerSettings) (source : Session) (role : RoleArn)
    (failure : ServiceFailure) : List BrokerDeed :=
  [broker.tried source role (.error failure),
    .left (.event (broker.policy.warning "assume_role" failure)),
    .asked (.sleep (.ofMillis settings.retryWaitMillis)) ()]

/-- Tries to assume a role: some failing ones and a last one. -/
structure Series (broker : Broker) (settings : BrokerSettings) (source : Session) (role : RoleArn)
    (allowed : Nat) (deeds : List BrokerDeed) (failures : List ServiceFailure)
    (last : Except ServiceFailure Credentials) : Prop where
  /-- The tries in their order, each failing one with the report and the pause after it. -/
  course : deeds = failures.flatMap (broker.triedAgain settings source role) ++
    [broker.tried source role last]
  /-- Only after too many requests there is another try. -/
  throttled : ∀ failure ∈ failures, failure.Throttles
  /-- There are no more tries than allowed. -/
  within : failures.length + 1 ≤ allowed
  /-- After too many requests there is another try, as long as it is allowed. -/
  spent : ∀ failure, last = .error failure → failure.Throttles → failures.length + 1 = allowed

/-- Tries are made as the settings say. -/
theorem Tries.series (follows : broker.Follows settings) {remaining : Nat}
    {last : Except ServiceFailure Credentials}
    (tries : Tries broker source role remaining deeds last) :
    ∃ failures, Series broker settings source role (remaining + 1) deeds failures last := by
  induction tries with
  | @last remaining result final =>
    refine ⟨[], rfl, nofun, Nat.succ_pos remaining, ?_⟩
    rintro failure rfl throttles
    by_cases none : remaining = 0
    · subst none
      rfl
    · have settles := final failure rfl none
      rw [(follows.retries failure).mpr throttles] at settles
      cases settles
  | @again remaining failure later result transient _ ih =>
    obtain ⟨failures, series⟩ := ih
    refine ⟨failure :: failures, ?_, ?_, ?_, ?_⟩
    · rw [series.course, follows.wait]
      rfl
    · exact List.forall_mem_cons.mpr ⟨(follows.retries failure).mp transient, series.throttled⟩
    · exact Nat.succ_le_succ series.within
    · exact fun other same throttles => congrArg Nat.succ (series.spent other same throttles)

/-- A role is assumed within the budget of the settings. -/
theorem Tries.budget (follows : broker.Follows settings) {last : Except ServiceFailure Credentials}
    (tries : Tries broker source role (broker.policy.attempts - 1) deeds last) :
    ∃ failures, Series broker settings source role settings.retryAttempts deeds failures last := by
  have positive := broker.policy.attempts_pos
  have budget : broker.policy.attempts - 1 + 1 = settings.retryAttempts := by
    rw [← follows.attempts]
    omega
  rw [← budget]
  exact tries.series follows

/-- Nothing is assumed and nothing is waited for. -/
def Quiet (deeds : List BrokerDeed) : Prop :=
  (∀ assumption answer, .asked (.assume assumption) answer ∉ deeds) ∧
    ∀ wait, .asked (.sleep wait) () ∉ deeds

/-- The role of a control-plane account is tried, from the session of the surroundings. If it is
granted, the session that is made of the credentials is kept at once. -/
def TriesControl (broker : Broker) (settings : BrokerSettings) (key : ControlPlaneKey)
    (tries after : List BrokerDeed) : Prop :=
  ∃ entry role failures last, broker.controlPlaneRole? key = some entry ∧ entry.role = some role ∧
    Series broker settings (.ambient key.account broker.ambientRegion) role settings.retryAttempts
      tries failures last ∧
    ∀ credentials, last = .ok credentials → after =
      [.left (.keepControl key (.ofCredentials key.account credentials broker.ambientRegion))]

/-- The metadata role of a target is tried. If it is granted, the session that is made of the
credentials is kept at once. -/
def TriesMetadata (broker : Broker) (settings : BrokerSettings) (target : AssumptionTarget)
    (region : String) (tries after : List BrokerDeed) : Prop :=
  ∃ source failures last, Series broker settings source (broker.metadataRole target)
      settings.retryAttempts tries failures last ∧
    ∀ credentials, last = .ok credentials →
      after = [.left (.keep (.ofCredentials target.accountId credentials region))]

/-- What a call spends on the session of a target: tries for the role of a control-plane account,
then tries for the role of the target. -/
structure Spends (broker : Broker) (settings : BrokerSettings) (target : AssumptionTarget)
    (region : String) (deeds before control between metadata after : List BrokerDeed) : Prop where
  /-- The parts of the call in their order. -/
  course : deeds = before ++ control ++ between ++ metadata ++ after
  /-- Nothing is tried before. -/
  quietBefore : Quiet before
  /-- Nothing is tried in between. -/
  quietBetween : Quiet between
  /-- Nothing is tried afterwards. -/
  quietAfter : Quiet after
  /-- The control-plane account is the one that was looked up. -/
  control : control = [] ∨ ∃ account,
    .asked (.account (broker.sourceQuery target)) (.ok account) ∈ before ∧
      TriesControl broker settings ⟨account.id, account.purpose⟩ control between
  /-- The role of the target comes last, if it is tried for at all. -/
  metadata : metadata = [] ∨ TriesMetadata broker settings target region metadata after

/-- Nothing is spent without deeds. -/
theorem quiet_nil : Quiet [] := ⟨fun _ _ => List.not_mem_nil, fun _ => List.not_mem_nil⟩

/-- Quiet deeds after others are quiet. -/
theorem Quiet.append {front back : List BrokerDeed} (first : Quiet front) (second : Quiet back) :
    Quiet (front ++ back) where
  left assumption answer member :=
    (List.mem_append.mp member).elim (first.1 assumption answer) (second.1 assumption answer)
  right wait member := (List.mem_append.mp member).elim (first.2 wait) (second.2 wait)

/-- Looking at a kept session is quiet. -/
theorem Looks.quiet {drop : BrokerMark} {kept : Option Session}
    {found : Except AssumeError (Option Session)} (looks : Looks broker drop kept deeds found) :
    Quiet deeds where
  left assumption answer member := by
    rcases looks.cases_of_mem member with ⟨_, same⟩ | same <;> cases same
  right wait member := by
    rcases looks.cases_of_mem member with ⟨_, same⟩ | same <;> cases same

/-- A session of a control-plane account takes no more than tries for its role. -/
theorem ControlCourse.spends (follows : broker.Follows settings)
    (course : ControlCourse broker key deeds result) :
    ∃ before control after, deeds = before ++ control ++ after ∧ Quiet before ∧ Quiet after ∧
      (control = [] ∨ TriesControl broker settings key control after) := by
  cases course with
  | @beyond session now =>
    refine ⟨[.asked (.controlSession key) (some session), .asked .clock now], [], [], rfl, ?_,
      quiet_nil, .inl rfl⟩
    simp [Quiet]
  | @kept session now =>
    refine ⟨[.asked (.controlSession key) (some session), .asked .clock now], [], [], rfl, ?_,
      quiet_nil, .inl rfl⟩
    simp [Quiet]
  | @made kept looks makes _ look make =>
    have asked : Quiet [.asked (.controlSession key) kept] := by simp [Quiet]
    let start : List BrokerDeed := .asked (.controlSession key) kept :: looks
    have quiet : Quiet start := asked.append look.quiet
    cases make with
    | unknown => exact ⟨start, [], [], by simp [start], quiet, quiet_nil, .inl rfl⟩
    | ambient =>
      have kept : Quiet [.left (.keepControl key (.ambient key.account broker.ambientRegion))] := by
        simp [Quiet]
      exact ⟨start, [], _, by simp [start], quiet, kept, .inl rfl⟩
    | refused listed named tried =>
      obtain ⟨failures, series⟩ := tried.budget follows
      refine ⟨start, makes, [], (List.append_nil _).symm, quiet, quiet_nil,
        .inr ⟨_, _, failures, _, listed, named, series, ?_⟩⟩
      intro given same
      cases same
    | @granted entry role tries credentials listed named tried =>
      obtain ⟨failures, series⟩ := tried.budget follows
      let session := Session.ofCredentials key.account credentials broker.ambientRegion
      have kept : Quiet [.left (.keepControl key session)] := by simp [Quiet]
      refine ⟨start, tries, [.left (.keepControl key session)], (List.append_assoc _ _ _).symm,
        quiet, kept, .inr ⟨entry, role, failures, _, listed, named, series, ?_⟩⟩
      intro given same
      cases same
      rfl

/-- Looking an account up is quiet. -/
theorem quiet_account (query : AccountQuery) (answer : Except DirectoryError Account) :
    Quiet [.asked (.account query) answer] := by
  simp [Quiet]

/-- A session of the control-plane account takes tries for its role, and then there are tries for the
role of the target. -/
theorem ControlCourse.spends_tried (follows : broker.Follows settings) {account : Account}
    {course tries : List BrokerDeed} {session : Session} {last : BrokerDeed}
    {answer : Except ServiceFailure Credentials}
    (source : ControlCourse broker ⟨account.id, account.purpose⟩ course (.ok session))
    (tried : Tries broker session (broker.metadataRole target) (broker.policy.attempts - 1) tries
      answer) (quiet : Quiet [last])
    (kept : ∀ credentials, answer = .ok credentials →
      last = .left (.keep (.ofCredentials target.accountId credentials region))) :
    ∃ before control between metadata after, Spends broker settings target region
      (.asked (.account (broker.sourceQuery target)) (.ok account) :: course ++ tries ++ [last])
      before control between metadata after := by
  obtain ⟨before, control, between, rfl, quietBefore, quietBetween, spent⟩ := source.spends follows
  obtain ⟨failures, series⟩ := tried.budget follows
  refine ⟨.asked (.account (broker.sourceQuery target)) (.ok account) :: before, control, between,
    tries, [last], by simp, (quiet_account _ _).append quietBefore, quietBetween, quiet, ?_, .inr ?_⟩
  · exact spent.imp_right fun spent => ⟨account, List.mem_cons_self, spent⟩
  · exact ⟨session, failures, answer, series, fun given same => congrArg ([·]) (kept given same)⟩

/-- Making the session of a target takes tries for the role of a control-plane account, then tries
for the role of the target. -/
theorem Makes.spends (follows : broker.Follows settings)
    (makes : Makes broker target region deeds result) :
    ∃ before control between metadata after,
      Spends broker settings target region deeds before control between metadata after := by
  cases makes with
  | unlisted error =>
    exact ⟨_, [], [], [], [], by simp, quiet_account (broker.sourceQuery target) (.error error),
      quiet_nil, quiet_nil, .inl rfl, .inl rfl⟩
  | @sourceless account course error source =>
    obtain ⟨before, control, between, rfl, quiet, quietly, tries⟩ := source.spends follows
    refine ⟨.asked (.account (broker.sourceQuery target)) (.ok account) :: before, control, between,
      [], [], by simp, (quiet_account _ _).append quiet, quietly, quiet_nil, ?_, .inl rfl⟩
    exact tries.imp_right fun tries => ⟨account, List.mem_cons_self, tries⟩
  | refused source tried =>
    refine source.spends_tried follows tried (by simp [Quiet]) fun given same => ?_
    cases same
  | granted source tried =>
    refine source.spends_tried follows tried (by simp [Quiet]) fun given same => ?_
    cases same
    rfl

/-- The session of a target takes tries for the role of a control-plane account, then tries for the
role of the target, both within the budget of the settings. -/
theorem Assumes.spends (follows : broker.Follows settings)
    (assumes : Assumes broker target region deeds result) :
    ∃ before control between metadata after,
      Spends broker settings target region deeds before control between metadata after := by
  have idle {quiet : List BrokerDeed} (silent : Quiet quiet) :
      ∃ before control between metadata after,
        Spends broker settings target region quiet before control between metadata after :=
    ⟨quiet, [], [], [], [], by simp, silent, quiet_nil, quiet_nil, .inl rfl, .inl rfl⟩
  cases assumes with
  | unsupported => exact idle quiet_nil
  | beyond => exact idle (by simp [Quiet])
  | kept => exact idle (by simp [Quiet])
  | @made kept looks makes _ supported look make =>
    have asked : Quiet [.asked (.session ⟨target.accountId, region⟩) kept] := by simp [Quiet]
    obtain ⟨before, control, between, metadata, after, spends⟩ := make.spends follows
    refine ⟨.asked (.session ⟨target.accountId, region⟩) kept :: looks ++ before, control, between,
      metadata, after, ?_, (asked.append look.quiet).append spends.quietBefore,
      spends.quietBetween, spends.quietAfter, ?_, spends.metadata⟩
    · rw [spends.course]
      simp only [List.cons_append, List.append_assoc]
    · refine spends.control.imp_right ?_
      rintro ⟨account, listed, tries⟩
      exact ⟨account, List.mem_append_right _ listed, tries⟩

end Broker
end ControlPlane
