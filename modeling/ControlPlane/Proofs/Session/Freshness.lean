import ControlPlane.Fixtures
import ControlPlane.Proofs.Rehearsal.KeptSessions

/-!
# Sessions that are handed out

A session that is handed out belongs to the target and the region that were asked for, and it is
fresh: its credentials were given out during the call, or they last beyond the expiry margin by the
clock of the call (`sessions_fresh`). Targets without a metadata role are turned away before anything
is asked for or changed. This holds of every history of every broker, whatever the accounts, the
clock and the given credentials are, as long as kept sessions are found again as they were kept.
-/
namespace ControlPlane

/-- What does not expire within a margin expires after the instant the margin later. -/
theorem Credentials.exists_of_isReached? {expiration now : Instant} {margin : Duration}
    (lasts : isReached? expiration margin now = some false) :
    ∃ limit, now.after? margin = some limit ∧ expiration.le limit = false := by
  unfold isReached? at lasts
  by_cases long : longestMarginMillis * 1000000 < margin.nanoseconds
  · rw [if_pos long] at lasts
    cases lasts
  · rw [if_neg long] at lasts
    exact Option.map_eq_some_iff.mp lasts

namespace Session

/-- The session has no expiration, or it expires after the instant a margin later. -/
def Outlasts (session : Session) (margin : Duration) (now : Instant) : Prop :=
  ∀ expiration, session.expiration = some expiration →
    ∃ limit, now.after? margin = some limit ∧ expiration.le limit = false

/-- A session that does not expire within a margin outlasts it. -/
theorem outlasts_of_expiresWithin? {session : Session} {margin : Duration} {now : Instant}
    (lasts : session.expiresWithin? margin now = some false) : session.Outlasts margin now := by
  intro expiration expires
  obtain ⟨credentials, present, expires⟩ := Option.bind_eq_some_iff.mp expires
  rw [expiresWithin?, present] at lasts
  simp only [Credentials.expiresWithin?, expires] at lasts
  exact Credentials.exists_of_isReached? lasts

/-- Outside leap seconds, what outlasts a margin expires more than the margin from now. -/
theorem Outlasts.lt_total {session : Session} {margin : Duration} {now expiration : Instant}
    (outlasts : session.Outlasts margin now) (expires : session.expiration = some expiration)
    (plain : ¬ now.IsLeap) : now.total + margin.nanoseconds < expiration.total := by
  obtain ⟨limit, later, after⟩ := outlasts expiration expires
  rw [← Instant.after?_eq_some plain later]
  exact Instant.total_lt_of_le_eq_false (Instant.not_isLeap_of_after? plain later) after

end Session

namespace Broker

variable {broker : Broker} {target : AssumptionTarget} {region : String}
  {deeds : List BrokerDeed} {result : Except AssumeError Session} {σ : Type}

/-- The session was made with credentials of the target's role that were given out among the
deeds. -/
def Obtained (broker : Broker) (target : AssumptionTarget) (region : String)
    (deeds : List BrokerDeed) (session : Session) : Prop :=
  ∃ source credentials, broker.tried source (broker.metadataRole target) (.ok credentials) ∈ deeds ∧
    session = .ofCredentials target.accountId credentials region

/-- The session was found, it outlasts the expiry margin by the clock, and nothing else was looked
at. -/
structure Reused (broker : Broker) (target : AssumptionTarget) (region : String)
    (deeds : List BrokerDeed) (session : Session) (now : Instant) : Prop where
  /-- All that was done is to find the session and to look at the clock. -/
  looked : deeds = [.asked (.session ⟨target.accountId, region⟩) (some session), .asked .clock now]
  /-- The session outlasts the expiry margin. -/
  outlasts : session.Outlasts broker.settings.expiryMargin now
  /-- Outside leap seconds this is plain arithmetic. -/
  later : ¬ now.IsLeap → ∀ expiration, session.expiration = some expiration →
    now.total + broker.settings.expiryMargin.nanoseconds < expiration.total

/-- A session is for a target in a region, and fresh. -/
structure HandsOut (broker : Broker) (target : AssumptionTarget) (region : String)
    (deeds : List BrokerDeed) (session : Session) : Prop where
  /-- The session acts for the account of the target. -/
  account : session.account = target.accountId
  /-- The session is for the region. -/
  inRegion : session.region = region
  /-- The session was made in this call, or found and fresh by the clock. -/
  fresh : Obtained broker target region deeds session ∨
    ∃ now, Reused broker target region deeds session now

/-- The session of a target is made with credentials that were given out. -/
theorem Makes.obtained {session : Session}
    (makes : Makes broker target region deeds (.ok session)) :
    Obtained broker target region deeds session := by
  cases makes with
  | @granted _ control tries acting credentials source tried =>
    refine ⟨acting, credentials, ?_, rfl⟩
    exact List.mem_append_left _ (List.mem_append_right _ tried.answered)

/-- No error of a control-plane session says that the target has no role. -/
theorem ControlCourse.ne_unsupported {key : ControlPlaneKey} {error : AssumeError}
    (course : ControlCourse broker key deeds (.error error)) (other : AssumptionTarget) :
    error ≠ .unsupported other := by
  cases course with
  | beyond => nofun
  | made look make => cases make <;> nofun

/-- No error of making a session says that the target has no role. -/
theorem Makes.ne_unsupported {error : AssumeError}
    (makes : Makes broker target region deeds (.error error)) (other : AssumptionTarget) :
    error ≠ .unsupported other := by
  cases makes with
  | unlisted => nofun
  | sourceless source => exact source.ne_unsupported other
  | refused => nofun

/-- A session is handed out only by making it or by finding it, and a found one is fresh. -/
theorem Assumes.handsOut {session : Session}
    (assumes : Assumes broker target region deeds (.ok session))
    (own : ∀ {key kept}, .asked (.session key) (some kept) ∈ deeds → Session.key kept = key) :
    HandsOut broker target region deeds session := by
  cases assumes with
  | @kept _ now supported lasts =>
    have same := own (List.mem_cons_self ..)
    have outlasts := Session.outlasts_of_expiresWithin? lasts
    have later (plain : ¬ now.IsLeap) (expiration : Instant) (expires : _ = some expiration) :=
      outlasts.lt_total expires plain
    exact { account := congrArg SessionKey.account same
            inRegion := congrArg SessionKey.region same
            fresh := .inr ⟨now, rfl, outlasts, later⟩ }
  | made supported look make =>
    obtain ⟨source, credentials, tried, rfl⟩ := make.obtained
    exact { account := rfl
            inRegion := rfl
            fresh := .inl ⟨source, credentials, List.mem_append_right _ tried, rfl⟩ }

/-- What is done for the session of a target in a region. -/
structure Serves (broker : Broker) (target : AssumptionTarget) (region : String) (before : σ)
    (deeds : List BrokerDeed) (result : Except AssumeError Session) (after : σ) : Prop where
  /-- A technical target is turned away before anything is asked for or changed. -/
  technical : target.accountType = .technical →
    result = .error (.unsupported target) ∧ deeds = [] ∧ after = before
  /-- No other target is turned away. -/
  others : ∀ named, result = .error (.unsupported named) → target.accountType = .technical
  /-- A session that is handed out is for the target, and fresh. -/
  session : ∀ session, result = .ok session → HandsOut broker target region deeds session

/-- What is done for the session of a target that may have none. -/
structure ServesLeniently (broker : Broker) (target : AssumptionTarget) (before : σ)
    (deeds : List BrokerDeed) (result : Except AssumeError (Option Session)) (after : σ) :
    Prop where
  /-- For a technical target there is none, and nothing is asked for or changed. -/
  technical : target.accountType = .technical → result = .ok none ∧ deeds = [] ∧ after = before
  /-- For any other there is one, or an error. -/
  others : result = .ok none → target.accountType = .technical
  /-- A session that is handed out is for the target, and fresh. -/
  session : ∀ session, result = .ok (some session) →
    HandsOut broker target broker.settings.region deeds session

/-- The technical targets are those without a metadata role. -/
theorem supportsMetadataRole_eq_false_iff :
    target.supportsMetadataRole = false ↔ target.accountType = .technical := by
  unfold AssumptionTarget.supportsMetadataRole
  cases target.accountType <;> simp [AccountType.supportsMetadataRole]

/-- Whatever the session of a target takes, the target is served. -/
theorem Assumes.serves (assumes : Assumes broker target region deeds result)
    (own : ∀ {key kept}, .asked (.session key) (some kept) ∈ deeds → Session.key kept = key)
    {before after : σ} (still : deeds = [] → after = before) :
    Serves broker target region before deeds result after where
  technical technical := by
    have unsupported := supportsMetadataRole_eq_false_iff.mpr technical
    cases assumes with
    | unsupported => exact ⟨rfl, rfl, still rfl⟩
    | beyond supported => simp [supported] at unsupported
    | kept supported => simp [supported] at unsupported
    | made supported => simp [supported] at unsupported
  others named turned := by
    cases assumes with
    | unsupported technical => exact supportsMetadataRole_eq_false_iff.mp technical
    | beyond => cases turned
    | kept => cases turned
    | made _ _ make =>
      subst turned
      exact absurd rfl (make.ne_unsupported named)
  session session succeeded := by
    subst succeeded
    exact assumes.handsOut own

/-- A lenient call serves the target like a strict one. -/
theorem Serves.lenient {before after : σ}
    (serves : Serves broker target broker.settings.region before deeds result after) :
    ServesLeniently broker target before deeds (Broker.lenient result) after where
  technical technical := by
    obtain ⟨rfl, idle⟩ := serves.technical technical
    exact ⟨rfl, idle⟩
  others none := by
    unfold Broker.lenient at none
    split at none
    · cases none
    · exact serves.others _ rfl
    · cases none
  session session some := by
    unfold Broker.lenient at some
    split at some
    · cases some
      exact serves.session session rfl
    · cases some
    · cases some

end Broker

/-- A call does what it is for: sessions are handed out for their targets, and invalidations do
nothing but drop sessions. -/
def Turn.Sound {σ : Type} (broker : Broker) : Turn σ → Prop
  | ⟨.assumeIn target region, before, deeds, result, after⟩ =>
    broker.Serves target region before deeds result after
  | ⟨.assume target, before, deeds, result, after⟩ =>
    broker.Serves target broker.settings.region before deeds result after
  | ⟨.assumeLenient target, before, deeds, result, after⟩ =>
    broker.ServesLeniently target before deeds result after
  | ⟨.invalidate account region, _, deeds, _, _⟩ => deeds = [.left (.drop ⟨account, region⟩)]
  | ⟨.invalidateAll, _, deeds, _, _⟩ => deeds = [.left .dropAll]

namespace Broker

variable {σ : Type}

/-- A call is sound if the sessions that are found for it were looked for by their own keys. -/
theorem turn_sound {broker : Broker} {surroundings : Surroundings brokerInterface σ}
    {call : BrokerCall} {state : σ}
    (own : ∀ {key kept}, .asked (.session key) (some kept) ∈
      (broker.turn surroundings call state).deeds → Session.key kept = key) :
    (broker.turn surroundings call state).Sound broker := by
  have does := Program.does_log surroundings (broker.perform call) state
  -- Without deeds there is no request that could have changed the surroundings.
  have still := @Program.run_of_log_eq_nil _ _ _ surroundings (broker.perform call) state
  cases call with
  | assumeIn target region => exact (does_assumeIn does).serves own still
  | assume target => exact (does_assumeIn does).serves own still
  | assumeLenient target =>
    obtain ⟨strict, assumes, same⟩ := does_assumeLenient does
    have lenient := (assumes.serves own still).lenient
    rw [← same] at lenient
    exact lenient
  | invalidate account region => rfl
  | invalidateAll => rfl

/-- Sessions that are handed out are for the right target, and fresh. -/
theorem sessions_fresh (broker : Broker) (surroundings : Surroundings brokerInterface σ)
    (calls : List BrokerCall) (state : σ)
    (finds : FindsLast (deeds (broker.turns surroundings calls state))) :
    ∀ turn ∈ broker.turns surroundings calls state, turn.Sound broker := by
  intro turn member
  obtain ⟨call, before, rfl⟩ := exists_of_mem_turns member
  exact turn_sound fun found => finds.key_eq (List.mem_flatMap.mpr ⟨_, member, found⟩)

/-- The settings of the test environment, whose broker acts for one control-plane account. -/
def sampleSettings : BrokerSettings :=
  { BrokerSettings.ofEnvironment Fixtures.environment with
    controlPlaneRoles := [⟨⟨"111111111111"⟩, .api, none⟩] }

/-- The broker of the test environment. -/
def sampleBroker : Broker where
  settings := sampleSettings
  policy := ⟨3, by decide, .ofMillis 1000, .only ServiceFailure.throttlingCodes, []⟩
  ambientRegion := "eu-central-1"

/-- A stage of the test environment on which nothing has happened yet. -/
def sampleStage : Rehearsal.BrokerStage where
  directory := ⟨Fixtures.accounts⟩
  directoryFaults := []
  grants := [.limited (.lasting 600)]
  script := none
  assumed := 0
  assumptions := []
  waits := []
  calls := []
  events := []
  start := .epoch
  looks := 0
  cache := ⟨1024, .ofSeconds 3000, sampleSettings.expiryMargin, .empty⟩
  controlSessions := .empty

/-- A session is made, used again and dropped; a technical account has none. -/
theorem sessions_fresh_used_again :
    let provider := AssumptionTarget.ofAccount Fixtures.providerAccount none
    let technical := AssumptionTarget.ofAccount Fixtures.technicalAccount none
    let calls := [.assume provider, .assume provider, .assumeLenient technical,
      .invalidate provider.accountId sampleSettings.region]
    let turns := sampleBroker.turns Rehearsal.BrokerStage.surroundings calls sampleStage
    Configuration.validate ⟨.default, sampleSettings, .text⟩ = .ok () ∧
      of? sampleSettings "eu-central-1" = .ok sampleBroker ∧ FindsLast (deeds turns) ∧
      (∀ turn ∈ turns, turn.Sound sampleBroker) ∧
      turns.map (·.deeds.length) = [6, 2, 0, 1] := by
  intro provider technical calls turns
  have empty : sampleStage.cache.sessions = .empty := rfl
  have finds := Rehearsal.BrokerStage.findsLast_turns sampleBroker empty calls
  exact ⟨by rfl, by rfl, finds, sessions_fresh sampleBroker _ calls sampleStage finds,
    by decide +kernel⟩

end Broker

end ControlPlane
