import ControlPlane.Broker
import ControlPlane.TokenService

/-!
# Rehearsing the broker

The stage of a rehearsal holds a directory, what happens to its next queries, and an assumer that
gives out credentials as it is written down, or asks a token service whose answers are written down.
Sessions are kept in exact stores.
-/
namespace ControlPlane.Rehearsal

/-- When credentials are to expire. -/
inductive Lifetime where
  | unlimited
  | fixed (instant : Instant)
  /-- A number of seconds after they are given out, before that if it is negative. -/
  | lasting (seconds : Int)
deriving DecidableEq

namespace Lifetime

/-- The expiration of credentials that are given out now. -/
def expiration? : Lifetime → Instant → Option Instant
  | unlimited, _ => none
  | fixed instant, _ => some instant
  | lasting seconds, now => now.shift? seconds

end Lifetime

/-- What happens to an assumption. -/
inductive Grant where
  | refused (failure : ServiceFailure)
  /-- Credentials with a lifetime, and without a token. -/
  | limited (lifetime : Lifetime)
  /-- Credentials with a token for half a day. -/
  | usual

namespace Grant

/-- The credentials of the assumption of a number. -/
def credentials (grant : Grant) (number : Nat) (now : Instant) :
    Except ServiceFailure Credentials :=
  let accessKey := "KEY" ++ toString number
  match grant with
  | refused failure => .error failure
  | limited lifetime => .ok ⟨accessKey, "secret", none, lifetime.expiration? now⟩
  | usual => .ok ⟨accessKey, "secret", some "token", now.shift? 43200⟩

end Grant

/-- What brokers share. -/
structure BrokerStage where
  /-- The directory that is queried. -/
  directory : Directory
  /-- The reasons for which the next queries fail. -/
  directoryFaults : List (Option String)
  /-- What happens to the next assumptions. -/
  grants : List Grant
  /-- The next answers of the token service, if it is asked. -/
  script : Option (List (Except ServiceFailure TokenReply))
  /-- The number of assumptions so far. -/
  assumed : Nat
  /-- The assumptions since they were looked at. -/
  assumptions : List Assumption
  /-- The pauses since they were looked at. -/
  waits : List Duration
  /-- The calls of the token service since they were looked at. -/
  calls : List TokenCall
  /-- The events since they were looked at. -/
  events : List Event
  /-- The first time on the clock. -/
  start : Instant
  /-- The number of looks at the clock. -/
  looks : Nat
  /-- The cache of the sessions of targets. -/
  cache : SessionCache
  /-- The sessions of control-plane accounts that are kept. -/
  controlSessions : SessionStore ControlPlaneKey

namespace BrokerStage

/-- The time on the clock. -/
def now (stage : BrokerStage) : Instant :=
  (stage.start.after? ⟨stage.looks * 1000⟩).getD stage.start

/-- Call the token service; after the end of its script it is not reached. -/
def callService (call : TokenCall) (script : List (Except ServiceFailure TokenReply))
    (stage : BrokerStage) : Except ServiceFailure TokenReply × BrokerStage :=
  let stage := { stage with calls := stage.calls ++ [call] }
  match script with
  | [] => (.error ServiceFailure.unreachable, stage)
  | answer :: rest => (answer, { stage with script := some rest })

/-- Give out credentials for an assumption. -/
def assume (assumption : Assumption) (stage : BrokerStage) :
    Except ServiceFailure Credentials × BrokerStage :=
  let stage := { stage with
    assumed := stage.assumed + 1, assumptions := stage.assumptions ++ [assumption] }
  match stage.script with
  | some script =>
    let call := .assumeRole assumption.role assumption.sessionName assumption.duration
    let (answer, stage) := callService call script stage
    (answer.bind fun reply => reply.credentialsFor assumption.role, stage)
  | none => match stage.grants with
    | [] => (Grant.usual.credentials stage.assumed stage.now, stage)
    | grant :: rest =>
      (grant.credentials stage.assumed stage.now, { stage with grants := rest })

/-- The account of a query. -/
def account (query : AccountQuery) (stage : BrokerStage) :
    Except DirectoryError Account × BrokerStage :=
  match stage.directoryFaults with
  | [] => (stage.directory.query query, stage)
  | fault :: rest =>
    (match fault with
      | some reason => .error (.unavailable reason)
      | none => stage.directory.query query, { stage with directoryFaults := rest })

/-- Answer a request. -/
def answer : (request : BrokerRequest) → BrokerStage → request.Answer × BrokerStage
  | .session key, stage => (stage.cache.sessions.find? key, stage)
  | .controlSession key, stage => (stage.controlSessions.find? key, stage)
  | .clock, stage => (stage.now, { stage with looks := stage.looks + 1 })
  | .account query, stage => stage.account query
  | .assume assumption, stage => stage.assume assumption
  | .sleep wait, stage => ((), { stage with waits := stage.waits ++ [wait] })

/-- Keep a mark. -/
def keep : BrokerMark → BrokerStage → BrokerStage
  | .event event, stage => { stage with events := stage.events ++ [event] }
  | .keep session, stage => { stage with cache := stage.cache.insert session }
  | .drop key, stage => { stage with cache := stage.cache.invalidate key }
  | .keepControl key session, stage =>
    if stage.cache.keepsSessions then
      { stage with controlSessions := stage.controlSessions.keep key session }
    else stage
  | .dropControl key, stage => { stage with controlSessions := stage.controlSessions.drop key }
  | .dropAll, stage =>
    { stage with cache := stage.cache.invalidateAll, controlSessions := .empty }

/-- The stage as the surroundings of brokers. -/
def surroundings : Surroundings brokerInterface BrokerStage := ⟨answer, keep⟩

end BrokerStage

end ControlPlane.Rehearsal
