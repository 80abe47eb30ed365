import ControlPlane.Configuration.Basic
import ControlPlane.Directory
import ControlPlane.ErrorResponse
import ControlPlane.Session.Cache

/-!
# The session broker

The broker gives out sessions of the metadata roles of accounts. It finds the control-plane account
of the target's partition, acts for that account, and assumes the target's role from there. Sessions
of both kinds are kept and used again until they are about to expire.

The broker is a program: it asks for kept sessions, for the time, for accounts and for credentials,
and says which sessions to keep and to drop.
-/
namespace ControlPlane

/-- What the session of a control-plane account is kept by. -/
structure ControlPlaneKey where
  /-- The account. -/
  account : AccountId
  /-- The purpose for which the account is used. -/
  purpose : AccountPurpose
deriving DecidableEq, Repr

/-- An assumption of a role. -/
structure Assumption where
  /-- The session that the role is assumed from. -/
  source : Session
  /-- The role that is assumed. -/
  role : RoleArn
  /-- The name that the session gets. -/
  sessionName : String
  /-- How long the session is to last. -/
  duration : Duration
deriving DecidableEq

/-- What the broker asks for. -/
inductive BrokerRequest where
  /-- A kept session of a target. -/
  | session (key : SessionKey)
  /-- A kept session of a control-plane account. -/
  | controlSession (key : ControlPlaneKey)
  /-- The present. -/
  | clock
  /-- The account that fits a query. -/
  | account (query : AccountQuery)
  /-- Credentials of a role. -/
  | assume (assumption : Assumption)
  /-- Wait for some time. -/
  | sleep (duration : Duration)

/-- The type of the answer to a request. -/
abbrev BrokerRequest.Answer : BrokerRequest → Type
  | session _ => Option Session
  | controlSession _ => Option Session
  | clock => Instant
  | account _ => Except DirectoryError Account
  | assume _ => Except ServiceFailure Credentials
  | sleep _ => Unit

/-- What the broker leaves behind. -/
inductive BrokerMark where
  /-- Report something. -/
  | event (event : Event)
  /-- Keep the session of a target. -/
  | keep (session : Session)
  /-- Drop the kept session of a key. -/
  | drop (key : SessionKey)
  /-- Keep the session of a control-plane account. -/
  | keepControl (key : ControlPlaneKey) (session : Session)
  /-- Drop the kept session of a control-plane account. -/
  | dropControl (key : ControlPlaneKey)
  /-- Drop all kept sessions. -/
  | dropAll

/-- The requests, answers and marks of the broker. -/
abbrev brokerInterface : Interface := ⟨BrokerRequest, BrokerRequest.Answer, BrokerMark⟩

/-- An operation of the broker. -/
abbrev Brokered (α : Type) : Type := Program brokerInterface α

namespace Brokered

/-- Make a request. -/
abbrev request (request : BrokerRequest) : Brokered request.Answer :=
  @Program.request brokerInterface request

/-- Leave a mark. -/
abbrev mark (mark : BrokerMark) : Brokered Unit := @Program.mark brokerInterface mark

end Brokered

/-- Why no session was given out. -/
inductive AssumeError where
  /-- The target has no metadata role. -/
  | unsupported (target : AssumptionTarget)
  /-- The role of the target is not granted. -/
  | metadataRole (role : RoleArn) (failure : ServiceFailure)
  /-- The role of a control-plane account is not granted. -/
  | controlPlaneRole (role : RoleArn) (failure : ServiceFailure)
  /-- Nothing is configured for the control-plane account. -/
  | unknownAccount (key : ControlPlaneKey)
  /-- The directory does not tell whom to assume the role from. -/
  | directory (error : DirectoryError)
  /-- The expiry margin leads beyond the calendar. -/
  | beyondCalendar
deriving DecidableEq

namespace AssumeError

/-- The wording of an error. -/
def message : AssumeError → String
  | unsupported target =>
    "Cannot assume metadata role for " ++ target.text ++ ": account type has no metadata role"
  | metadataRole role _ => "Cannot assume metadata role " ++ role.text
  | controlPlaneRole role _ => "Cannot assume control-plane role " ++ role.text
  | unknownAccount key =>
    "Unknown control-plane account " ++ key.account.text ++ " with purpose " ++ key.purpose.name
  | directory error => error.message
  | beyondCalendar => "The expiry margin leads beyond the calendar"

/-- Whether the target has no metadata role. -/
def isUnsupported : AssumeError → Bool
  | unsupported _ => true
  | _ => false

/-- The failure behind an error. -/
def cause? : AssumeError → Option ServiceFailure
  | metadataRole _ failure | controlPlaneRole _ failure => some failure
  | _ => none

/-- The response to an error. -/
def response (error : AssumeError) : ErrorResponse :=
  match error with
  | unsupported _ => .of 400 "UnsupportedAssumeMetadataRole" error.message
  | metadataRole .. => .of 500 "CannotAssumeMetadataRole" error.message
  | _ => .internal error.message

end AssumeError

/-- Why there is no broker. -/
inductive BrokerError where
  /-- The settings cannot be worked with. -/
  | configuration (error : ConfigurationError)
  /-- Sessions would stay in the cache for too long. -/
  | cacheLifetime

/-- Gives out sessions. -/
structure Broker where
  /-- The settings that the broker was built with. -/
  settings : BrokerSettings
  /-- How calls of the token service are tried again. -/
  policy : RetryPolicy
  /-- The region of the surroundings. -/
  ambientRegion : String

namespace Broker

/-- A broker with given settings. -/
def of? (settings : BrokerSettings) (ambientRegion : String) : Except BrokerError Broker :=
  match settings.retryPolicy with
  | .error error => .error (.configuration (.retry error))
  | .ok policy =>
    match SessionCache.of? settings.cacheCapacity settings.cacheTtl settings.expiryMargin with
    | none => .error .cacheLifetime
    | some _ => .ok ⟨settings, policy, ambientRegion⟩

/-- The metadata role of a target. -/
def metadataRole (broker : Broker) (target : AssumptionTarget) : RoleArn :=
  .ofParts target.hub.partition target.accountId broker.settings.metadataRolePath
    broker.settings.metadataRoleName

/-- What is configured for a control-plane account; the last entry counts. -/
def controlPlaneRole? (broker : Broker) (key : ControlPlaneKey) : Option ControlPlaneRole :=
  broker.settings.controlPlaneRoles.reverse.find? fun entry =>
    entry.accountId = key.account ∧ entry.purpose = key.purpose

/-- The event of a metadata role that could not be assumed. -/
def failureReport (target : AssumptionTarget) (role : RoleArn) (failure : ServiceFailure) : Event :=
  ⟨.error, "Failed to assume metadata role",
    [("account", .text target.text), ("role_arn", .text role.text),
      ("error", .text failure.message)]⟩

/-- Assume a role, and try again as the policy says. -/
def assumeRole (broker : Broker) (source : Session) (role : RoleArn) :
    Brokered (Except ServiceFailure Credentials) :=
  broker.policy.run "assume_role" BrokerMark.event (fun wait => Brokered.request (.sleep wait))
    (Brokered.request (.assume
      ⟨source, role, broker.settings.sessionName, broker.settings.assumeDuration⟩))

/-- A kept session that is not about to expire; one that is gets dropped. -/
def fresh (broker : Broker) (kept : Option Session) (drop : BrokerMark) :
    Brokered (Except AssumeError (Option Session)) := do
  match kept with
  | none => return .ok none
  | some session =>
    let now ← Brokered.request .clock
    match session.expiresWithin? broker.settings.expiryMargin now with
    | none => return .error .beyondCalendar
    | some false => return .ok (some session)
    | some true =>
      Brokered.mark drop
      return .ok none

/-- Make and keep a session of a control-plane account. -/
def makeControlSession (broker : Broker) (key : ControlPlaneKey) :
    Brokered (Except AssumeError Session) := do
  let ambient := Session.ambient key.account broker.ambientRegion
  match broker.controlPlaneRole? key with
  | none => return .error (.unknownAccount key)
  | some entry => match entry.role with
    | none =>
      Brokered.mark (.keepControl key ambient)
      return .ok ambient
    | some role =>
      match ← broker.assumeRole ambient role with
      | .error failure => return .error (.controlPlaneRole role failure)
      | .ok credentials =>
        let session := Session.ofCredentials key.account credentials broker.ambientRegion
        Brokered.mark (.keepControl key session)
        return .ok session

/-- The session of a control-plane account. -/
def controlSession (broker : Broker) (account : Account) :
    Brokered (Except AssumeError Session) := do
  let key : ControlPlaneKey := ⟨account.id, account.purpose⟩
  let kept ← Brokered.request (.controlSession key)
  match ← broker.fresh kept (.dropControl key) with
  | .error error => return .error error
  | .ok (some session) => return .ok session
  | .ok none => broker.makeControlSession key

/-- Assume the metadata role of a target from a control-plane session, and keep the session. -/
def assumeFrom (broker : Broker) (source : Session) (target : AssumptionTarget) (region : String) :
    Brokered (Except AssumeError Session) := do
  let role := broker.metadataRole target
  match ← broker.assumeRole source role with
  | .error failure =>
    Brokered.mark (.event (failureReport target role failure))
    return .error (.metadataRole role failure)
  | .ok credentials =>
    let session := Session.ofCredentials target.accountId credentials region
    Brokered.mark (.keep session)
    return .ok session

/-- Make a session of a target in a region. -/
def makeSession (broker : Broker) (target : AssumptionTarget) (region : String) :
    Brokered (Except AssumeError Session) := do
  match ← Brokered.request
      (.account ⟨broker.settings.environment, .api, target.hub.partition⟩) with
  | .error error => return .error (.directory error)
  | .ok account => match ← broker.controlSession account with
    | .error error => return .error error
    | .ok source => broker.assumeFrom source target region

/-- The session of a target in a region. -/
def assumeIn (broker : Broker) (target : AssumptionTarget) (region : String) :
    Brokered (Except AssumeError Session) := do
  if ¬ target.supportsMetadataRole then return .error (.unsupported target)
  else
    let key : SessionKey := ⟨target.accountId, region⟩
    let kept ← Brokered.request (.session key)
    match ← broker.fresh kept (.drop key) with
    | .error error => return .error error
    | .ok (some session) => return .ok session
    | .ok none => broker.makeSession target region

/-- The session of a target in the configured region. -/
def assume (broker : Broker) (target : AssumptionTarget) : Brokered (Except AssumeError Session) :=
  broker.assumeIn target broker.settings.region

/-- The session of a target, none if it has no metadata role. -/
def assumeLenient (broker : Broker) (target : AssumptionTarget) :
    Brokered (Except AssumeError (Option Session)) := do
  match ← broker.assume target with
  | .ok session => return .ok (some session)
  | .error (.unsupported _) => return .ok none
  | .error error => return .error error

/-- Drop the kept session of an account in a region. -/
def invalidate (account : AccountId) (region : String) : Brokered Unit :=
  Brokered.mark (.drop ⟨account, region⟩)

/-- Drop all kept sessions. -/
def invalidateAll : Brokered Unit := Brokered.mark .dropAll

/-- The text of a new broker, for logs. -/
def debugText (broker : Broker) : String :=
  "CrossAccountSessionBroker \x7b environment: Environment(" ++
    quote broker.settings.environment.name ++ "), region: " ++ quote broker.settings.region ++
    ", sessions: " ++ SessionCache.debugText broker.settings.expiryMargin ++ ", .. \x7d"

end Broker

end ControlPlane
