import ControlPlane.Proofs.Session.Freshness
import ControlPlane.Proofs.Session.Unseen

/-!
# Secrets are not seen

Two runs of a broker that get the same credentials as far as is shown keep the same sessions as far
as is shown, and so go on to do the same (`Unseen.run`). Nothing that can be seen of a broker depends
on secrets then (`secrets_unseen`): not the roles that it assumes, nor its waits and reports, nor the
outcome of any call, nor the text of a session. The sessions are kept in exact stores, which may lose
any of them at any time.
-/
namespace ControlPlane

/-- What is seen of a broker while it is at work. -/
inductive Sight where
  /-- It assumes a role, with its source as far as that is shown. -/
  | assumed (assumption : Assumption)
  /-- It waits. -/
  | waited (duration : Duration)
  /-- It reports something. -/
  | reported (event : Event)

/-- What is seen of a deed. -/
def BrokerDeed.sight? : BrokerDeed → Option Sight
  | .asked (.assume assumption) _ => some (.assumed assumption.shown)
  | .asked (.sleep duration) _ => some (.waited duration)
  | .left (.event event) => some (.reported event)
  | _ => none

/-- What is seen of the deeds of a program. -/
def sights (deeds : List BrokerDeed) : List Sight := deeds.filterMap BrokerDeed.sight?

/-- What is seen of the result of a call. -/
inductive Outcome where
  /-- A session, as far as it is shown, with its text and that of its credentials. -/
  | given (shown : Session) (text : String) (credentials : Option String)
  /-- There is no session, and no error. -/
  | nothing
  /-- An error, with its wording and the response to it. -/
  | failed (error : AssumeError) (message : String) (response : ErrorResponse)
  /-- The call has no result. -/
  | done

/-- What is seen of a session. -/
def Session.outcome (session : Session) : Outcome :=
  .given session.shown session.debugText (session.credentials.map Credentials.debugText)

/-- What is seen of an error. -/
def AssumeError.outcome (error : AssumeError) : Outcome :=
  .failed error error.message error.response

/-- What is seen of the result of a call. -/
def BrokerCall.outcome : (call : BrokerCall) → call.Result → Outcome
  | assumeIn .., .ok session | assume _, .ok session | assumeLenient _, .ok (some session) =>
    session.outcome
  | assumeIn .., .error error | assume _, .error error | assumeLenient _, .error error =>
    error.outcome
  | assumeLenient _, .ok none => .nothing
  | invalidate .., _ | invalidateAll, _ => .done

/-- What is seen of a call. -/
def Turn.seen {σ : Type} (turn : Turn σ) : BrokerCall × List Sight × Outcome :=
  (turn.call, sights turn.deeds, turn.call.outcome turn.result)

/-- What a broker meets besides credentials. -/
structure Circumstances where
  /-- The time at each look at the clock. -/
  clock : Nat → Instant
  /-- The answer to each query of the directory. -/
  directory : Nat → AccountQuery → Except DirectoryError Account
  /-- Whether a kept session has been lost, at each look for one. -/
  loses : Nat → Bool

/-- How far a broker has come, and the sessions that are kept for it. -/
structure BrokerProgress where
  /-- The number of looks at the clock. -/
  looks : Nat
  /-- The number of queries of the directory. -/
  queries : Nat
  /-- The number of looks for kept sessions. -/
  searches : Nat
  /-- The number of assumptions. -/
  assumed : Nat
  /-- The kept sessions of targets. -/
  sessions : SessionStore SessionKey
  /-- The kept sessions of control-plane accounts. -/
  controlSessions : SessionStore ControlPlaneKey

namespace BrokerProgress

/-- Nothing has been asked for, and nothing is kept. -/
def start : BrokerProgress := ⟨0, 0, 0, 0, .empty, .empty⟩

/-- What is shown of a broker's progress. -/
def shown (progress : BrokerProgress) : BrokerProgress :=
  { progress with
    sessions := progress.sessions.shown, controlSessions := progress.controlSessions.shown }

/-- Keep a mark: sessions are kept and dropped as it says. -/
def keep : BrokerMark → BrokerProgress → BrokerProgress
  | .event _, progress => progress
  | .keep session, progress =>
    { progress with sessions := progress.sessions.keep session.key session }
  | .drop key, progress => { progress with sessions := progress.sessions.drop key }
  | .keepControl key session, progress =>
    { progress with controlSessions := progress.controlSessions.keep key session }
  | .dropControl key, progress =>
    { progress with controlSessions := progress.controlSessions.drop key }
  | .dropAll, progress => { progress with sessions := .empty, controlSessions := .empty }

end BrokerProgress

namespace Circumstances

/-- Answer a request of a broker, and one for credentials by the number of those before it. -/
def answer (circumstances : Circumstances) (grants : Nat → Except ServiceFailure Credentials) :
    (request : BrokerRequest) → BrokerProgress → request.Answer × BrokerProgress
  | .session key, progress =>
    (if circumstances.loses progress.searches then none else progress.sessions.find? key,
      { progress with searches := progress.searches + 1 })
  | .controlSession key, progress =>
    (if circumstances.loses progress.searches then none else progress.controlSessions.find? key,
      { progress with searches := progress.searches + 1 })
  | .clock, progress =>
    (circumstances.clock progress.looks, { progress with looks := progress.looks + 1 })
  | .account query, progress =>
    (circumstances.directory progress.queries query,
      { progress with queries := progress.queries + 1 })
  | .assume _, progress =>
    (grants progress.assumed, { progress with assumed := progress.assumed + 1 })
  | .sleep _, progress => ((), progress)

/-- The surroundings of a broker that is granted some credentials, one after another. -/
def surroundings (circumstances : Circumstances)
    (grants : Nat → Except ServiceFailure Credentials) :
    Surroundings brokerInterface BrokerProgress :=
  ⟨circumstances.answer grants, BrokerProgress.keep⟩

end Circumstances

section Runs

variable {α β : Type} {shown : α → β} (circumstances : Circumstances)
  {first second : Nat → Except ServiceFailure Credentials}
  {progress other : BrokerProgress}

/-- What is shown of credentials, one after another. -/
def shownGrants (grants : Nat → Except ServiceFailure Credentials) :
    Nat → Except ServiceFailure Credentials := fun number => (grants number).map Credentials.shown

/-- What is shown after a mark is what is shown of the mark, kept by what was shown before. -/
theorem BrokerProgress.shown_keep (mark : BrokerMark) (progress : BrokerProgress) :
    (BrokerProgress.keep mark progress).shown = BrokerProgress.keep mark.shown progress.shown := by
  cases mark with
  | keep session =>
    simp only [BrokerProgress.keep, BrokerProgress.shown, SessionStore.keep_shown,
      BrokerMark.shown]
    rfl
  | drop key =>
    simp only [BrokerProgress.keep, BrokerProgress.shown, SessionStore.drop_shown,
      BrokerMark.shown]
  | keepControl key session =>
    simp only [BrokerProgress.keep, BrokerProgress.shown, SessionStore.keep_shown,
      BrokerMark.shown]
  | dropControl key =>
    simp only [BrokerProgress.keep, BrokerProgress.shown, SessionStore.drop_shown,
      BrokerMark.shown]
  | event event => rfl
  | dropAll => rfl

/-- What is shown of a kept session, unless it has been lost, is found in what is shown. -/
theorem SessionStore.shown_found {κ : Type} [DecidableEq κ] (store : SessionStore κ) (lost : Bool)
    (key : κ) :
    (if lost then none else store.find? key).map Session.shown =
      if lost then none else store.shown.find? key := by
  cases lost with
  | true => rfl
  | false => exact (SessionStore.find?_shown store key).symm

/-- What is shown of an answer is the answer from what was shown before. -/
theorem Circumstances.shown_answer (grants : Nat → Except ServiceFailure Credentials)
    (request : BrokerRequest) (progress : BrokerProgress) :
    request.shown (circumstances.answer grants request progress).1 =
        (circumstances.answer (shownGrants grants) request progress.shown).1 ∧
      (circumstances.answer grants request progress).2.shown =
        (circumstances.answer (shownGrants grants) request progress.shown).2 := by
  cases request with
  | session key =>
    have found := SessionStore.shown_found progress.sessions
      (circumstances.loses progress.searches) key
    exact ⟨found, rfl⟩
  | controlSession key =>
    have found := SessionStore.shown_found progress.controlSessions
      (circumstances.loses progress.searches) key
    exact ⟨found, rfl⟩
  | clock => exact ⟨rfl, rfl⟩
  | account query => exact ⟨rfl, rfl⟩
  | assume assumption => exact ⟨rfl, rfl⟩
  | sleep duration => exact ⟨rfl, rfl⟩

/-- From what is shown alike, requests are answered alike. -/
theorem Circumstances.answer_alike (granted : shownGrants first = shownGrants second)
    (same : progress.shown = other.shown) (request : BrokerRequest) :
    request.shown (circumstances.answer first request progress).1 =
        request.shown (circumstances.answer second request other).1 ∧
      (circumstances.answer first request progress).2.shown =
        (circumstances.answer second request other).2.shown := by
  obtain ⟨answer, after⟩ := circumstances.shown_answer first request progress
  obtain ⟨another, afterwards⟩ := circumstances.shown_answer second request other
  rw [granted, same] at answer after
  exact ⟨answer.trans another.symm, after.trans afterwards.symm⟩

/-- What is seen of a mark is shown of it. -/
theorem sight?_left (mark : BrokerMark) :
    BrokerDeed.sight? (.left mark) = BrokerDeed.sight? (.left mark.shown) := by
  cases mark <;> rfl

/-- Of an answer nothing is seen. -/
theorem sight?_asked (request : BrokerRequest) (answer another : request.Answer) :
    BrokerDeed.sight? (.asked request answer) = BrokerDeed.sight? (.asked request another) := by
  cases request <;> rfl

/-- One more deed of which the same is seen. -/
theorem sights_cons {deed another : BrokerDeed} {rest others : List BrokerDeed}
    (seen : deed.sight? = another.sight?) (later : sights rest = sights others) :
    sights (deed :: rest) = sights (another :: others) := by
  unfold sights at later ⊢
  rw [List.filterMap_cons, List.filterMap_cons, seen, later]

/-- Programs that do the same as far as is shown are seen to do the same. -/
theorem Unseen.run {program another : Brokered α} (unseen : Unseen shown program another)
    (granted : shownGrants first = shownGrants second) (same : progress.shown = other.shown) :
    let ran := program.run (circumstances.surroundings first) progress
    let also := another.run (circumstances.surroundings second) other
    shown ran.1 = shown also.1 ∧ ran.2.shown = also.2.shown ∧
      sights (program.log (circumstances.surroundings first) progress) =
        sights (another.log (circumstances.surroundings second) other) := by
  induction unseen generalizing progress other with
  | done result => exact ⟨result, same, rfl⟩
  | @leave mark another rest others marks _ ih =>
    have kept : (BrokerProgress.keep mark progress).shown =
        (BrokerProgress.keep another other).shown := by
      rw [BrokerProgress.shown_keep, BrokerProgress.shown_keep, marks, same]
    have seen : BrokerDeed.sight? (.left mark) = BrokerDeed.sight? (.left another) := by
      rw [sight?_left, marks, ← sight?_left]
    obtain ⟨result, after, later⟩ := ih kept
    exact ⟨result, after, sights_cons seen later⟩
  | ask request _ ih =>
    obtain ⟨answer, kept⟩ := circumstances.answer_alike granted same request
    obtain ⟨result, after, later⟩ := ih _ _ answer kept
    exact ⟨result, after, sights_cons (sight?_asked request _ _) later⟩
  | @assume assumption another next others assumptions _ ih =>
    obtain ⟨answer, kept⟩ := circumstances.answer_alike granted same (.assume assumption)
    obtain ⟨result, after, later⟩ := ih _ _ answer kept
    have seen : BrokerDeed.sight? (.asked (.assume assumption) (first progress.assumed)) =
        BrokerDeed.sight? (.asked (.assume another) (second other.assumed)) :=
      congrArg (fun shown => some (Sight.assumed shown)) assumptions
    exact ⟨result, after, sights_cons seen later⟩

/-- Of sessions that are shown alike the same is seen. -/
theorem outcome_session {session another : Session} (same : session.shown = another.shown) :
    session.outcome = another.outcome := by
  have text : session.debugText = another.debugText := by
    rw [← Session.debugText_shown, same, Session.debugText_shown]
  have credentials : session.credentials.map Credentials.debugText =
      another.credentials.map Credentials.debugText := by
    have shown : session.credentials.map Credentials.shown =
        another.credentials.map Credentials.shown := congrArg Session.credentials same
    obtain ⟨absent, missing⟩ | ⟨given, other, found, also, alike⟩ := option_cases shown
    · rw [absent, missing]
    · rw [found, also, Option.map_some, Option.map_some, ← Credentials.debugText_shown, alike,
        Credentials.debugText_shown]
  unfold Session.outcome
  rw [same, text, credentials]

/-- Of results that are shown alike the same is seen. -/
theorem outcome_call (call : BrokerCall) {result another : call.Result}
    (same : call.shown result = call.shown another) : call.outcome result = call.outcome another := by
  cases call with
  | assumeIn target region =>
    obtain ⟨error, rfl, rfl⟩ | ⟨session, other, rfl, rfl, shown⟩ := result_cases same
    · rfl
    · exact outcome_session shown
  | assume target =>
    obtain ⟨error, rfl, rfl⟩ | ⟨session, other, rfl, rfl, shown⟩ := result_cases same
    · rfl
    · exact outcome_session shown
  | assumeLenient target =>
    obtain ⟨error, rfl, rfl⟩ | ⟨_, _, rfl, rfl, alike⟩ := result_cases same
    · rfl
    · obtain ⟨rfl, rfl⟩ | ⟨session, other, rfl, rfl, shown⟩ := option_cases alike
      · rfl
      · exact outcome_session shown
  | invalidate account region => rfl
  | invalidateAll => rfl

/-- Calls from what is shown alike are seen to do the same. -/
theorem seen_turns (broker : Broker) (granted : shownGrants first = shownGrants second)
    (calls : List BrokerCall) (same : progress.shown = other.shown) :
    (broker.turns (circumstances.surroundings first) calls progress).map Turn.seen =
      (broker.turns (circumstances.surroundings second) calls other).map Turn.seen := by
  induction calls generalizing progress other with
  | nil => rfl
  | cons call rest ih =>
    obtain ⟨result, after, deeds⟩ :=
      (unseen_perform broker call).run circumstances granted same
    have seen : (broker.turn (circumstances.surroundings first) call progress).seen =
        (broker.turn (circumstances.surroundings second) call other).seen :=
      congrArg (Prod.mk call) (Prod.ext deeds (outcome_call call result))
    exact List.cons_eq_cons.mpr ⟨seen, ih after⟩

end Runs

/-- Secrets are not seen. Two runs of a broker that get the same credentials but for secrets and
tokens, each with a token or both without one, are seen to do the same, call by call. -/
theorem secrets_unseen (broker : Broker) (circumstances : Circumstances)
    (first second : Nat → Except ServiceFailure Credentials)
    (agree : ∀ number, (first number).map Credentials.shown = (second number).map Credentials.shown)
    (calls : List BrokerCall) :
    (broker.turns (circumstances.surroundings first) calls .start).map Turn.seen =
      (broker.turns (circumstances.surroundings second) calls .start).map Turn.seen :=
  seen_turns circumstances broker (funext agree) calls rfl

/-- A role is assumed after a failure that is tried again, and the session is used again. Two runs
keep sessions with different secrets, and are seen to do the same. -/
theorem secrets_unseen_two :
    let provider := AssumptionTarget.ofAccount Fixtures.providerAccount none
    let circumstances : Circumstances :=
      ⟨fun _ => .epoch, fun _ => Directory.query ⟨Fixtures.accounts⟩, fun _ => false⟩
    let granted : String → Nat → Except ServiceFailure Credentials
      | _, 0 => .error (.throttled "ThrottlingException")
      | secret, _ + 1 => .ok ⟨"KEY", secret, some secret, none⟩
    let turns := fun secret => Broker.sampleBroker.turns
      (circumstances.surroundings (granted secret)) [.assume provider, .assume provider] .start
    (∀ number, (granted "one" number).map Credentials.shown =
        (granted "two" number).map Credentials.shown) ∧
      (turns "one").map Turn.seen = (turns "two").map Turn.seen ∧
      (turns "one").map (fun turn => (sights turn.deeds).length) = [4, 0] ∧
      (turns "one").map (·.after.sessions.entries) ≠
        (turns "two").map (·.after.sessions.entries) := by
  intro provider circumstances granted turns
  have agree : ∀ number, (granted "one" number).map Credentials.shown =
      (granted "two" number).map Credentials.shown := by
    intro number
    cases number with
    | zero => rfl
    | succ number => rfl
  exact ⟨agree, secrets_unseen Broker.sampleBroker circumstances (granted "one") (granted "two") agree
    [.assume provider, .assume provider], by decide +kernel, by decide +kernel⟩

end ControlPlane
