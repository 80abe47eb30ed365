import ControlPlane.Proofs.Session.Budget
import ControlPlane.Proofs.Session.Expiry
import ControlPlane.Proofs.Session.Upkeep

/-!
# Assuming roles only when needed

With caches that are exact maps a broker assumes roles only when it has to (`assumptions_frugal`). A
kept session that is not about to expire is all that a call takes. Any other call stays within the
budget of the settings, and a failure is not kept. A session that is not kept is made anew by the next
call that wants it, and no call that wants another one notices. This holds of all calls in a row,
whatever the accounts, the clock and the given credentials are.
-/
namespace ControlPlane

/-- Outside leap seconds, a session that expires later than a margin from now is not about to
expire. -/
theorem Session.expiresWithin?_eq_false {session : Session} {expiration now : Instant}
    {margin : Duration} (expires : session.expiration = some expiration)
    (plain : ¬ expiration.IsLeap) (nowPlain : ¬ now.IsLeap)
    (later : now.total + margin.nanoseconds < expiration.total) :
    session.expiresWithin? margin now = some false := by
  obtain ⟨credentials, present, expires⟩ := Option.bind_eq_some_iff.mp expires
  have answers : ¬ Credentials.Overruns margin now := fun overruns => by
    have reached := Credentials.total_le_of_calendarEnd_le plain overruns.2
    omega
  simp only [expiresWithin?, present, Credentials.expiresWithin?, expires]
  rw [Credentials.isReached?_eq plain nowPlain, if_neg answers]
  exact congrArg some (decide_eq_false (Int.not_le.mpr later))

/-- After a call no session is kept under a key: it drops it, or it failed to make it. Where the
calendar ends nothing is said. -/
def Turn.Forgets {σ : Type} (configured : String) (turn : Turn σ) (key : SessionKey) : Prop :=
  (turn.call = .invalidate key.account key.region ∨ turn.call = .invalidateAll) ∨
    ∃ target error, turn.call.wanted? configured = some (target, key.region) ∧
      target.accountId = key.account ∧ target.supportsMetadataRole = true ∧
        turn.failure? = some error ∧ error ≠ .beyondCalendar

namespace Broker

variable {σ τ : Type} {broker : Broker} {settings : BrokerSettings} {ambientRegion : String}
  {outside : Surroundings brokerInterface τ} {calls : List BrokerCall} {state : Keeping τ}

/-- A call finds no session, queries the directory, and hands out what it obtains with the role of its
target. -/
structure Anew (broker : Broker) (target : AssumptionTarget) (region : String) (turn : Turn σ) :
    Prop where
  /-- First the store is looked at in vain, and then the directory is queried. -/
  queries : ∃ answer rest, turn.deeds = .asked (.session ⟨target.accountId, region⟩) none ::
    .asked (.account (broker.sourceQuery target)) answer :: rest
  /-- A session that is handed out was obtained in this call. -/
  obtains : ∀ session, turn.session? = some session →
    broker.Obtained target region turn.deeds session

/-- How calls in a row assume roles only when they have to. -/
structure Frugal (broker : Broker) (settings : BrokerSettings) (turns : List (Turn (Keeping τ))) :
    Prop where
  /-- Nothing is done for a target without a metadata role. -/
  unsupported {turn : Turn (Keeping τ)} (member : turn ∈ turns) {target : AssumptionTarget}
    {region : String} (wanted : turn.call.wanted? settings.region = some (target, region))
    (unsupported : target.supportsMetadataRole = false) : turn.deeds = []
  /-- A session that is kept is handed out if it is not about to expire, and nothing else is done than
  to look for it and at the clock. -/
  reused {turn : Turn (Keeping τ)} (member : turn ∈ turns) {target : AssumptionTarget}
    {region : String} (wanted : turn.call.wanted? settings.region = some (target, region))
    (supported : target.supportsMetadataRole = true) {session : Session}
    (kept : turn.before.sessions.find? ⟨target.accountId, region⟩ = some session) :
    ∃ now rest, turn.deeds = [.asked (.session ⟨target.accountId, region⟩) (some session),
        .asked .clock now] ++ rest ∧
      (session.expiresWithin? settings.expiryMargin now = some false →
        rest = [] ∧ turn.session? = some session)
  /-- Every call stays within the budget. -/
  spends {turn : Turn (Keeping τ)} (member : turn ∈ turns) {target : AssumptionTarget}
    {region : String} (wanted : turn.call.wanted? settings.region = some (target, region)) :
    ∃ before control between metadata after,
      Spends broker settings target region turn.deeds before control between metadata after
  /-- A call that fails keeps no session of its target, and one of a control-plane account only if the
  target's role is refused afterwards. -/
  failed {turn : Turn (Keeping τ)} (member : turn ∈ turns) {error : AssumeError}
    (failed : turn.failure? = some error) :
    (∀ session, .left (.keep session) ∉ turn.deeds) ∧
      ∀ key session, .left (.keepControl key session) ∈ turn.deeds →
        ∃ role failure, error = .metadataRole role failure
  /-- After a call that failed, and after one that drops the session, the next call for it makes it
  anew. -/
  anew {past between later : List (Turn (Keeping τ))} {turn next : Turn (Keeping τ)}
    (split : turns = past ++ turn :: (between ++ next :: later)) {target : AssumptionTarget}
    {region : String} (forgets : turn.Forgets settings.region ⟨target.accountId, region⟩)
    (unwanted : ∀ other ∈ between,
      other.call.key? settings.region ≠ some ⟨target.accountId, region⟩)
    (wanted : next.call.wanted? settings.region = some (target, region))
    (supported : target.supportsMetadataRole = true) : Anew broker target region next
  /-- A call that neither wants the session of a key nor drops it leaves it kept or missing, as it
  was. -/
  apart {turn : Turn (Keeping τ)} (member : turn ∈ turns) {key : SessionKey}
    (apart : ¬ turn.call.Touches settings.region key) :
    turn.after.sessions.find? key = turn.before.sessions.find? key
  /-- As long as sessions are not all dropped, and none of a control-plane account comes within the
  margin, its role is granted once at most. -/
  once {past stretch later : List (Turn (Keeping τ))} (split : turns = past ++ stretch ++ later)
    {key : ControlPlaneKey} (keeps : ∀ turn ∈ stretch, turn.call ≠ .invalidateAll)
    (lasts : ¬ broker.ComesWithinMargin key (deeds stretch)) : key.grants (deeds stretch) ≤ 1
  /-- A session that is handed out is found by the next call for it. If it lasts as long as was asked
  for, it is handed out again for all of that time but the margin at the end. -/
  lasting {past between later : List (Turn (Keeping τ))} {turn next : Turn (Keeping τ)}
    (split : turns = past ++ turn :: (between ++ next :: later)) {target other : AssumptionTarget}
    {region : String} {session : Session}
    (wanted : turn.call.wanted? settings.region = some (target, region))
    (given : turn.session? = some session)
    (apart : ∀ turn ∈ between,
      ¬ turn.call.Touches settings.region ⟨target.accountId, region⟩)
    (again : next.call.wanted? settings.region = some (other, region))
    (same : other.accountId = target.accountId) (supported : other.supportsMetadataRole = true) :
    ∃ now rest, next.deeds = [.asked (.session ⟨target.accountId, region⟩) (some session),
        .asked .clock now] ++ rest ∧
      ∀ expiration obtained : Instant, session.expiration = some expiration →
        ¬ expiration.IsLeap → ¬ now.IsLeap →
        obtained.total + settings.assumeDuration.nanoseconds ≤ expiration.total →
        now.total + settings.expiryMargin.nanoseconds <
          obtained.total + settings.assumeDuration.nanoseconds →
        rest = [] ∧ next.session? = some session
  /-- With valid settings that time is longer than the margin. -/
  ample {configuration : Configuration} (valid : configuration.validate = .ok ())
    (own : configuration.broker = settings) :
    settings.expiryMargin.nanoseconds < settings.assumeDuration.nanoseconds

/-- After a session is dropped, some calls do the same as they do where it is not dropped. The calls
before it do the same as well, and it is dropped without doing anything else. -/
def AsIfKept (key : SessionKey) (back : List BrokerCall) (dropped kept : List (Turn (Keeping τ))) :
    Prop :=
  ∃ past drop same rest others,
    dropped = past ++ drop :: (same.map (Turn.mapState (Keeping.without key)) ++ rest) ∧
    kept = past ++ (same ++ others) ∧ same.map (·.call) = back ∧
    drop.deeds = [.left (.drop key)]

section Calls

variable {target : AssumptionTarget} {region : String} {session : Session} {key : SessionKey}
  {turn : Turn (Keeping τ)}

/-- A call looks at the session that is kept under its key, and hands it out if it can. -/
theorem turn_reuses (member : turn ∈ broker.turns (Keeping.exactly outside) calls state)
    (wanted : turn.call.wanted? broker.settings.region = some (target, region))
    (supported : target.supportsMetadataRole = true)
    (kept : turn.before.sessions.find? ⟨target.accountId, region⟩ = some session) :
    ∃ now rest, turn.deeds = [.asked (.session ⟨target.accountId, region⟩) (some session),
        .asked .clock now] ++ rest ∧
      (session.expiresWithin? broker.settings.expiryMargin now = some false →
        rest = [] ∧ turn.session? = some session) := by
  have found := (exact_of_mem_turns member).found ⟨target.accountId, region⟩
  rw [kept] at found
  obtain ⟨strict, assumes, given, -⟩ := exists_assumes member wanted
  obtain ⟨now, rest, course, reuses⟩ := assumes.reuses supported found
  refine ⟨now, rest, course, fun lasts => ?_⟩
  obtain ⟨done, handed⟩ := reuses lasts
  rw [handed] at given
  exact ⟨done, given⟩

/-- A call that finds no session makes it anew. -/
theorem turn_anew (member : turn ∈ broker.turns (Keeping.exactly outside) calls state)
    (wanted : turn.call.wanted? broker.settings.region = some (target, region))
    (supported : target.supportsMetadataRole = true)
    (absent : turn.before.sessions.find? ⟨target.accountId, region⟩ = none) :
    Anew broker target region turn := by
  have found := (exact_of_mem_turns member).found ⟨target.accountId, region⟩
  rw [absent] at found
  obtain ⟨strict, assumes, -⟩ := exists_assumes member wanted
  obtain ⟨queries, -⟩ := assumes.anew supported found
  refine ⟨queries, fun session handed => ?_⟩
  obtain ⟨-, obtains⟩ := (assumes_of_session member wanted handed).anew supported found
  exact obtains session rfl

/-- After a call that forgets the session of a key none is kept. -/
theorem after_eq_none_of_forgets
    (member : turn ∈ broker.turns (Keeping.exactly outside) calls state)
    (forgets : turn.Forgets broker.settings.region key) :
    turn.after.sessions.find? key = none := by
  rcases forgets with drops | ⟨target, error, wanted, account, supported, failed, known⟩
  · exact after_eq_none_of_dropped member drops
  · have exact := exact_of_mem_turns member
    have own : key = ⟨target.accountId, key.region⟩ := by rw [account]
    rw [exact.sessions, own]
    exact (assumes_of_failure member wanted failed).forgets supported known (exact.found _)

/-- A session that is handed out is kept. -/
theorem after_eq_some (member : turn ∈ broker.turns (Keeping.exactly outside) calls state)
    (wanted : turn.call.wanted? broker.settings.region = some (target, region))
    (given : turn.session? = some session) :
    turn.after.sessions.find? ⟨target.accountId, region⟩ = some session := by
  have exact := exact_of_mem_turns member
  rw [exact.sessions]
  exact (assumes_of_session member wanted given).keeps (exact.found _)

/-- Calls after a session is dropped do the same as without that, as long as none wants it. -/
theorem turns_after_drop (front : List BrokerCall) (account : AccountId) (region : String)
    {back : List BrokerCall} (more : List BrokerCall)
    (unwanted : ∀ call ∈ back, call.key? broker.settings.region ≠ some ⟨account, region⟩) :
    AsIfKept ⟨account, region⟩ back
      (broker.turns (Keeping.exactly outside) (front ++ .invalidate account region :: (back ++ more))
        state)
      (broker.turns (Keeping.exactly outside) (front ++ (back ++ more)) state) := by
  let middle := broker.reached (Keeping.exactly outside) front state
  let same := broker.turns (Keeping.exactly outside) back middle
  let drop := broker.turn (Keeping.exactly outside) (.invalidate account region) middle
  have spare : ∀ turn ∈ same, ∀ deed ∈ turn.deeds, Keeping.Spares ⟨account, region⟩ deed := by
    intro turn member
    refine spares_of_unwanted member (unwanted turn.call ?_)
    rw [← map_call_turns back middle]
    exact List.mem_map_of_mem member
  have without : broker.turns (Keeping.exactly outside) back drop.after =
      same.map (Turn.mapState (Keeping.without ⟨account, region⟩)) := turns_without spare
  let rest := broker.turns (Keeping.exactly outside) more
    (broker.reached (Keeping.exactly outside) back drop.after)
  let others := broker.turns (Keeping.exactly outside) more
    (broker.reached (Keeping.exactly outside) back middle)
  refine ⟨broker.turns (Keeping.exactly outside) front state, drop, same, rest, others, ?_, ?_,
    map_call_turns back middle, rfl⟩
  · rw [turns_append, ← without]
    exact congrArg _ (congrArg (List.cons drop) (turns_append back more drop.after))
  · rw [turns_append, turns_append]

end Calls

/-- What turns are split into is among them. -/
theorem mem_of_split {past between later turns : List (Turn σ)} {turn next done : Turn σ}
    (split : turns = past ++ turn :: (between ++ next :: later))
    (listed : done = turn ∨ done ∈ between ∨ done = next) : done ∈ turns := by
  rw [split]
  rcases listed with rfl | within | rfl
  · simp
  · simp [within]
  · simp

section Later

variable {past between later : List (Turn (Keeping τ))} {turn next : Turn (Keeping τ)}
  {target other : AssumptionTarget} {region : String} {session : Session}

/-- Once a session is forgotten, the next call that wants it makes it anew. -/
theorem turn_anew_after
    (split : broker.turns (Keeping.exactly outside) calls state =
      past ++ turn :: (between ++ next :: later))
    (forgets : turn.Forgets broker.settings.region ⟨target.accountId, region⟩)
    (unwanted : ∀ other ∈ between,
      other.call.key? broker.settings.region ≠ some ⟨target.accountId, region⟩)
    (wanted : next.call.wanted? broker.settings.region = some (target, region))
    (supported : target.supportsMetadataRole = true) : Anew broker target region next := by
  have absent : next.before.sessions.find? ⟨target.accountId, region⟩ = none := by
    refine holds_before_next (fun held => held.sessions.find? ⟨target.accountId, region⟩ = none)
      split (after_eq_none_of_forgets (mem_of_split split (.inl rfl)) forgets) ?_
    intro done within
    exact after_eq_none (mem_of_split split (.inr (.inl within))) (unwanted done within)
  exact turn_anew (mem_of_split split (.inr (.inr rfl))) wanted supported absent

/-- Once a session is handed out, the next call that wants it looks at it, and hands it out if it
can. -/
theorem turn_reuses_after
    (split : broker.turns (Keeping.exactly outside) calls state =
      past ++ turn :: (between ++ next :: later))
    (wanted : turn.call.wanted? broker.settings.region = some (target, region))
    (given : turn.session? = some session)
    (apart : ∀ turn ∈ between,
      ¬ turn.call.Touches broker.settings.region ⟨target.accountId, region⟩)
    (again : next.call.wanted? broker.settings.region = some (other, region))
    (same : other.accountId = target.accountId) (supported : other.supportsMetadataRole = true) :
    ∃ now rest, next.deeds = [.asked (.session ⟨target.accountId, region⟩) (some session),
        .asked .clock now] ++ rest ∧
      (session.expiresWithin? broker.settings.expiryMargin now = some false →
        rest = [] ∧ next.session? = some session) := by
  have kept : next.before.sessions.find? ⟨target.accountId, region⟩ = some session := by
    refine holds_before_next
      (fun held => held.sessions.find? ⟨target.accountId, region⟩ = some session) split
      (after_eq_some (mem_of_split split (.inl rfl)) wanted given) ?_
    intro done within held
    rw [after_eq_before (mem_of_split split (.inr (.inl within))) (apart done within), held]
  rw [← same] at kept ⊢
  exact turn_reuses (mem_of_split split (.inr (.inr rfl))) again supported kept

end Later

/-- A broker that is built from some settings assumes roles only when it has to, with caches that are
exact maps and any other surroundings, and a session that is dropped is missed by no call that does
not want it. -/
theorem assumptions_frugal (built : of? settings ambientRegion = .ok broker)
    (outside : Surroundings brokerInterface τ) (calls : List BrokerCall) (state : Keeping τ) :
    Frugal broker settings (broker.turns (Keeping.exactly outside) calls state) ∧
      ∀ front account region back more, calls = front ++ .invalidate account region :: (back ++ more) →
        (∀ call ∈ back, call.key? settings.region ≠ some ⟨account, region⟩) →
        AsIfKept ⟨account, region⟩ back (broker.turns (Keeping.exactly outside) calls state)
          (broker.turns (Keeping.exactly outside) (front ++ (back ++ more)) state) := by
  have follows : broker.Follows settings := follows_of_of? built
  obtain rfl : broker.settings = settings := follows.own
  refine ⟨?_, fun front account region back more split unwanted =>
    split ▸ turns_after_drop front account region more unwanted⟩
  constructor
  case unsupported =>
    intro turn member target region wanted unsupported
    obtain ⟨strict, assumes, -⟩ := exists_assumes member wanted
    exact assumes.eq_nil unsupported
  case reused =>
    intro turn member target region wanted supported session kept
    exact turn_reuses member wanted supported kept
  case spends =>
    intro turn member target region wanted
    obtain ⟨strict, assumes, -⟩ := exists_assumes member wanted
    exact assumes.spends follows
  case failed =>
    intro turn member error failed
    obtain ⟨target, region, wanted⟩ := exists_wanted_of_failure failed
    have assumes := assumes_of_failure member wanted failed
    exact ⟨assumes.not_mem_keep, fun key session => assumes.exists_metadataRole⟩
  case anew =>
    intro past between later turn next split target region forgets unwanted wanted supported
    exact turn_anew_after split forgets unwanted wanted supported
  case apart =>
    intro turn member key apart
    exact after_eq_before member apart
  case once =>
    intro past stretch later split key keeps lasts
    obtain ⟨front, -, -, before, -⟩ := exists_of_turns_eq_append split
    obtain ⟨first, middle, -, -, same⟩ := exists_of_turns_eq_append before.symm
    subst same
    exact (turns_economical keeps lasts).grants_le_one
  case lasting =>
    intro past between later turn next split target other region session wanted given apart again
      same supported
    obtain ⟨now, rest, course, reuses⟩ :=
      turn_reuses_after split wanted given apart again same supported
    refine ⟨now, rest, course, ?_⟩
    intro expiration obtained expires plain nowPlain asked early
    exact reuses (Session.expiresWithin?_eq_false expires plain nowPlain (by omega))
  case ample =>
    intro configuration valid own
    have margin := (Configuration.validate_eq_ok_iff.mp valid).expiryMargin
    rw [own] at margin
    exact Nat.mul_lt_mul_of_pos_right margin (by decide)

/-- A session is made, used again and dropped; one for another region is made before it is made
anew. -/
theorem assumptions_frugal_sample :
    let account := sampleTarget.accountId
    let region := sampleSettings.region
    let calls := [.assume sampleTarget, .assume sampleTarget, .invalidate account region,
      .assumeIn sampleTarget "eu-west-1", .assume sampleTarget]
    let start : Keeping Rehearsal.BrokerStage := ⟨.empty, .empty, sampleStage⟩
    let surroundings := Keeping.exactly Rehearsal.BrokerStage.surroundings
    let turns := sampleBroker.turns surroundings calls start
    let kept := sampleBroker.turns surroundings [.assume sampleTarget, .assume sampleTarget,
      .assumeIn sampleTarget "eu-west-1", .assume sampleTarget] start
    of? sampleSettings "eu-central-1" = .ok sampleBroker ∧
      Frugal sampleBroker sampleSettings turns ∧
      AsIfKept ⟨account, region⟩ [.assumeIn sampleTarget "eu-west-1"] turns kept ∧
      turns.map (·.deeds.length) = [6, 2, 1, 6, 6] ∧ kept.map (·.deeds.length) = [6, 2, 6, 2] := by
  intro account region calls start surroundings turns kept
  have built : of? sampleSettings "eu-central-1" = .ok sampleBroker := by rfl
  obtain ⟨frugal, asIfKept⟩ :=
    assumptions_frugal built Rehearsal.BrokerStage.surroundings calls start
  refine ⟨built, frugal, ?_, by decide +kernel, by decide +kernel⟩
  refine asIfKept [.assume sampleTarget, .assume sampleTarget] account region
    [.assumeIn sampleTarget "eu-west-1"] [.assume sampleTarget] rfl ?_
  exact List.forall_mem_singleton.mpr (by decide +kernel)

end Broker
end ControlPlane
