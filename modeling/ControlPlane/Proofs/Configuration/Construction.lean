import ControlPlane.Broker
import ControlPlane.Configuration.Reader
import ControlPlane.Configuration.Variables

/-!
# Brokers of accepted configurations

A configuration is accepted if it comes from a text or from the environment and passes the check.
What the check looks at is said in one place (`validate_eq_ok_iff`), and how long a session may stay
in the cache is not part of it. So a text can ask for a longer time than a cache allows, and is
accepted all the same (`accepted_not_built`). Nothing else keeps a broker from being built
(`built_iff_of_accepted`), and the environment has no variable for that time.
-/
namespace ControlPlane

/-- What comes after a refusal counts if there is nothing to refuse. -/
theorem ite_error_eq_ok_iff {ε α : Type} {refused : Prop} [Decidable refused] {error : ε}
    {rest : Except ε α} {value : α} :
    (if refused then .error error else rest) = .ok value ↔ ¬ refused ∧ rest = .ok value := by
  by_cases refuse : refused
  · simp [refuse]
  · simp [refuse]

namespace BrokerSettings

variable (settings : BrokerSettings)

/-- There is a retry policy if a role may be assumed at all. -/
theorem retryPolicy_eq_ok_iff :
    (∃ policy, settings.retryPolicy = .ok policy) ↔ 1 ≤ settings.retryAttempts := by
  unfold retryPolicy RetryPolicy.of?
  by_cases positive : 1 ≤ settings.retryAttempts
  · rw [dif_pos positive]
    exact iff_of_true ⟨_, rfl⟩ positive
  · rw [dif_neg positive]
    exact iff_of_false (fun ⟨_, known⟩ => nomatch known) positive

/-- A time in the cache is measured in seconds. -/
theorem cacheTtl_le_iff :
    settings.cacheTtl.nanoseconds ≤ SessionCache.longestTimeToLive.nanoseconds ↔
      settings.cacheTtlSeconds ≤ 31536000000 := by
  have unit : 0 < Duration.nanosPerSecond := by decide
  simp only [SessionCache.longestTimeToLive, cacheTtl, Duration.ofSeconds]
  rw [Nat.mul_le_mul_right_iff unit]

end BrokerSettings

/-- A cache is made unless the sessions stay in it for too long. -/
theorem SessionCache.of?_eq_none_iff {capacity : Nat} {timeToLive margin : Duration} :
    SessionCache.of? capacity timeToLive margin = none ↔
      ¬ timeToLive.nanoseconds ≤ SessionCache.longestTimeToLive.nanoseconds := by
  unfold SessionCache.of?
  rw [Nat.not_le]
  split
  · next long => exact iff_of_true rfl long
  · next short => exact iff_of_false (fun none => nomatch none) short

/-- With settings that have a retry policy, a broker is built unless sessions stay for too long. -/
theorem Broker.of?_of_retryPolicy {settings : BrokerSettings} {policy : RetryPolicy}
    (known : settings.retryPolicy = .ok policy) (ambientRegion : String) :
    Broker.of? settings ambientRegion = if settings.cacheTtlSeconds ≤ 31536000000 then
      .ok ⟨settings, policy, ambientRegion⟩ else .error .cacheLifetime := by
  have unkept : SessionCache.of? settings.cacheCapacity settings.cacheTtl settings.expiryMargin =
      none ↔ ¬ settings.cacheTtlSeconds ≤ 31536000000 := by
    rw [SessionCache.of?_eq_none_iff, BrokerSettings.cacheTtl_le_iff]
  unfold Broker.of?
  rw [known]
  cases made : SessionCache.of? settings.cacheCapacity settings.cacheTtl settings.expiryMargin with
  | none => rw [if_neg (unkept.mp made)]
  | some cache =>
    have short : settings.cacheTtlSeconds ≤ 31536000000 :=
      Decidable.not_not.mp fun long => nomatch made.symm.trans (unkept.mpr long)
    rw [if_pos short]

namespace Configuration

variable {configuration : Configuration}

/-- What a configuration has to be like to pass the check. -/
structure Valid (configuration : Configuration) : Prop where
  /-- The lock store gets some time. -/
  lockTimeout : configuration.locks.timeoutSeconds ≠ 0
  /-- No lock is stale from the beginning. -/
  staleAfter : configuration.locks.staleAfterSeconds ≠ 0
  /-- The environment has a name. -/
  environment : configuration.broker.environment.name ≠ ""
  /-- There is a region. -/
  region : configuration.broker.region ≠ ""
  /-- The path of roles goes from slash to slash. -/
  rolePath : isRolePath configuration.broker.metadataRolePath = true
  /-- Metadata roles have a name. -/
  roleName : configuration.broker.metadataRoleName ≠ ""
  /-- Sessions have a name. -/
  sessionName : configuration.broker.sessionName ≠ ""
  /-- The lifetime of credentials is one that the service grants. -/
  assumeDuration : isAssumeDuration configuration.broker.assumeSeconds = true
  /-- There is room for a session. -/
  cacheCapacity : configuration.broker.cacheCapacity ≠ 0
  /-- New sessions outlast the expiry margin. -/
  expiryMargin : configuration.broker.expiryMarginSeconds < configuration.broker.assumeSeconds
  /-- At least one call is made. -/
  retryAttempts : 1 ≤ configuration.broker.retryAttempts

/-- The check passes the configurations that are as they have to be. -/
theorem validate_eq_ok_iff : configuration.validate = .ok () ↔ configuration.Valid := by
  have retry := BrokerSettings.retryPolicy_eq_ok_iff configuration.broker
  unfold validate
  simp only [ite_error_eq_ok_iff, Decidable.not_not, Nat.not_le]
  constructor
  · rintro ⟨timeout, stale, environment, region, path, name, session, duration, capacity, margin,
      passed⟩
    split at passed
    · next policy known =>
      exact ⟨timeout, stale, environment, region, path, name, session, duration, capacity, margin,
        retry.mp ⟨policy, known⟩⟩
    · cases passed
  · rintro ⟨timeout, stale, environment, region, path, name, session, duration, capacity, margin,
      attempts⟩
    obtain ⟨policy, known⟩ := retry.mpr attempts
    refine ⟨timeout, stale, environment, region, path, name, session, duration, capacity, margin, ?_⟩
    rw [known]

/-- What passes the check stays as it is. -/
theorem checked_eq_ok {checked : Configuration} (passed : configuration.checked = .ok checked) :
    checked = configuration ∧ configuration.Valid := by
  unfold Configuration.checked at passed
  cases result : configuration.validate with
  | error error =>
    rw [result] at passed
    cases passed
  | ok =>
    rw [result] at passed
    cases passed
    exact ⟨rfl, validate_eq_ok_iff.mp result⟩

/-- The configuration is that of a text. -/
def FromText (configuration : Configuration) : Prop :=
  ∃ text, ofText text = .ok configuration

/-- The configuration is that of an environment's variables. -/
def FromVariables (configuration : Configuration) : Prop :=
  ∃ lookup, ofVariables lookup = .ok configuration

/-- A configuration of a text has passed the check. -/
theorem FromText.valid (given : configuration.FromText) : configuration.Valid := by
  obtain ⟨text, accepted⟩ := given
  unfold ofText at accepted
  split at accepted
  · obtain ⟨rfl, valid⟩ := checked_eq_ok accepted
    exact valid
  · cases accepted

/-- What every variable keeps up holds after all of them. -/
theorem assign_induction (holds : Configuration → Prop) {lookup : String → Option String}
    {entries : List Variable} {last : Configuration}
    (kept : ∀ entry ∈ entries, ∀ value change, entry.setting? value = some change →
      ∀ before, holds before → holds (change before))
    (start : holds configuration) (assigned : assign lookup entries configuration = .ok last) :
    holds last := by
  induction entries generalizing configuration with
  | nil =>
    cases assigned
    exact start
  | cons next rest ih =>
    have inRest : ∀ entry ∈ rest, ∀ value change, entry.setting? value = some change →
        ∀ before, holds before → holds (change before) :=
      fun entry member => kept entry (List.mem_cons_of_mem _ member)
    unfold assign at assigned
    split at assigned
    · exact ih inRest start assigned
    · next value _ =>
      split at assigned
      · next change set =>
        exact ih inRest (kept next List.mem_cons_self value change set _ start) assigned
      · cases assigned

/-- No variable sets how long a session may stay in the cache. -/
theorem cacheTtlSeconds_of_setting {entry : Variable} (member : entry ∈ orderedVariables)
    {value : String} {change : Configuration → Configuration}
    (set : entry.setting? value = some change) (before : Configuration) :
    (change before).broker.cacheTtlSeconds = before.broker.cacheTtlSeconds := by
  simp only [orderedVariables, List.mem_cons, List.not_mem_nil, or_false] at member
  rcases member with rfl | rfl | rfl | rfl | rfl | rfl | rfl | rfl | rfl | rfl | rfl
  all_goals
    simp only [textVariable, numberVariable, Option.some.injEq, Option.map_eq_some_iff] at set
    first
      | subst set; rfl
      | obtain ⟨_, -, rfl⟩ := set; rfl

/-- A configuration of the environment has passed the check, and its sessions stay in the cache for
the usual time. -/
theorem FromVariables.valid (given : configuration.FromVariables) :
    configuration.Valid ∧
      configuration.broker.cacheTtlSeconds = BrokerSettings.default.cacheTtlSeconds := by
  obtain ⟨lookup, accepted⟩ := given
  unfold ofVariables at accepted
  split at accepted
  · cases accepted
  · next name _ =>
    cases assigned : assign lookup orderedVariables (.ofEnvironment ⟨name⟩) with
    | error error =>
      rw [assigned] at accepted
      cases accepted
    | ok last =>
      rw [assigned] at accepted
      obtain ⟨rfl, valid⟩ := checked_eq_ok accepted
      refine ⟨valid, assign_induction (fun configuration =>
        configuration.broker.cacheTtlSeconds = BrokerSettings.default.cacheTtlSeconds) ?_ ?_
        assigned⟩
      · intro entry member value change set before usual
        rw [cacheTtlSeconds_of_setting member set, usual]
      · rfl

/-- The configuration was accepted, wherever it came from. -/
def Accepted (configuration : Configuration) : Prop :=
  configuration.FromText ∨ configuration.FromVariables

/-- A text that asks for a time in the cache. -/
def lastingText (seconds : String) : String :=
  "\x7b\"broker\":\x7b\"environment\":\"dev\",\"cache_ttl_secs\":" ++ seconds ++ "\x7d\x7d"

/-- The configuration of the text. -/
def lasting (seconds : Nat) : Configuration :=
  { ofEnvironment ⟨"dev"⟩ with
    broker := { BrokerSettings.ofEnvironment ⟨"dev"⟩ with cacheTtlSeconds := seconds } }

/-- A computed success is one. -/
theorem eq_ok_of_toOption {ε α : Type} {result : Except ε α} {value : α}
    (computed : result.toOption = some value) : result = .ok value := by
  cases result with
  | error error => cases computed
  | ok given => exact congrArg Except.ok (Option.some.inj computed)

/-- A text is accepted that asks for one second more than a cache allows. No broker can be built. -/
theorem accepted_not_built :
    ofText (lastingText "31536000001") = .ok (lasting 31536000001) ∧
      Broker.of? (lasting 31536000001).broker "eu-central-1" = .error .cacheLifetime := by
  have accepted : ofText (lastingText "31536000001") = .ok (lasting 31536000001) :=
    eq_ok_of_toOption (by decide +kernel)
  have valid : (lasting 31536000001).Valid := FromText.valid ⟨_, accepted⟩
  obtain ⟨policy, known⟩ := (BrokerSettings.retryPolicy_eq_ok_iff _).mpr valid.retryAttempts
  refine ⟨accepted, ?_⟩
  rw [Broker.of?_of_retryPolicy known]
  exact if_neg (by decide)

/-- A broker can be built from an accepted configuration exactly if its sessions stay in the cache for
at most a thousand years. Nothing else is in the way, and from the environment one can always be
built. -/
theorem built_iff_of_accepted (accepted : configuration.Accepted) (ambientRegion : String) :
    ((∃ broker, Broker.of? configuration.broker ambientRegion = .ok broker) ↔
      configuration.broker.cacheTtlSeconds ≤ 31536000000) ∧
    (∀ error, Broker.of? configuration.broker ambientRegion = .error error →
      error = .cacheLifetime) ∧
    (configuration.FromVariables →
      ∃ broker, Broker.of? configuration.broker ambientRegion = .ok broker) := by
  have valid : configuration.Valid :=
    accepted.elim FromText.valid fun given => (FromVariables.valid given).1
  obtain ⟨policy, known⟩ := (BrokerSettings.retryPolicy_eq_ok_iff _).mpr valid.retryAttempts
  rw [Broker.of?_of_retryPolicy known]
  refine ⟨?_, ?_, fun given => ?_⟩
  · by_cases short : configuration.broker.cacheTtlSeconds ≤ 31536000000
    · rw [if_pos short]
      exact iff_of_true ⟨_, rfl⟩ short
    · rw [if_neg short]
      exact iff_of_false (fun ⟨_, built⟩ => nomatch built) short
  · intro error failed
    split at failed
    · cases failed
    · cases failed
      rfl
  · have usual := (FromVariables.valid given).2
    rw [if_pos (by rw [usual]; decide)]
    exact ⟨_, rfl⟩

/-- A thousand years to the second are not too long. -/
theorem built_iff_of_accepted_longest :
    (lasting 31536000000).Accepted ∧
      ∃ broker, Broker.of? (lasting 31536000000).broker "eu-central-1" = .ok broker := by
  have read : ofText (lastingText "31536000000") = .ok (lasting 31536000000) :=
    eq_ok_of_toOption (by decide +kernel)
  have accepted : (lasting 31536000000).Accepted := .inl ⟨_, read⟩
  exact ⟨accepted, (built_iff_of_accepted accepted "eu-central-1").1.mpr (by decide)⟩

end Configuration

end ControlPlane
