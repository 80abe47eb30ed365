import ControlPlane.Account
import ControlPlane.Retry
import ControlPlane.RoleArn

/-!
# Configuration

The settings of the lock store, of the session broker and of logging, with their defaults.
`Configuration.validate` finds the first setting that cannot be worked with.
-/
namespace ControlPlane

/-- The form of log lines. -/
inductive LogFormat where
  | text
  | json
deriving DecidableEq, Repr

namespace LogFormat

/-- The formats with their names. -/
def named : List (String × LogFormat) := [("text", text), ("json", json)]

/-- The wording for a name of no format. -/
def unknownMessage (name : String) : String := "unknown log format: " ++ name

/-- The format of a name, in upper or lower case; a failure gives the name in lower case. -/
def ofName? (name : String) : Except String LogFormat :=
  let lowered := name.map Char.toLower
  match named.find? fun entry => entry.1 = lowered with
  | some entry => .ok entry.2
  | none => .error lowered

/-- The events that are logged if nothing else is asked for. -/
def defaultFilter : String := "info,lakehub_core=debug"

end LogFormat

/-- The settings of the lock store. -/
structure LockSettings where
  /-- What the name of the table starts with. -/
  tablePrefix : String
  /-- Where the service is reached, if not where it usually is. -/
  endpoint : Option String
  /-- How long a call of the store may take. -/
  timeoutSeconds : Nat
  /-- A lock that is older than this counts as stale. -/
  staleAfterSeconds : Nat
deriving DecidableEq, Repr

namespace LockSettings

/-- The settings where none are given. -/
def default : LockSettings where
  tablePrefix := ""
  endpoint := none
  timeoutSeconds := 10
  staleAfterSeconds := 900

/-- The end of the table's name. -/
def tableSuffix : String := "lakehub-locks"

/-- The name of the lock table for a prefix. -/
def tableNameFor (tablePrefix : String) : String := tablePrefix ++ tableSuffix

/-- The name of the lock table. -/
def tableName (settings : LockSettings) : String := tableNameFor settings.tablePrefix

/-- How long one operation may take. -/
def timeout (settings : LockSettings) : Duration := .ofSeconds settings.timeoutSeconds

/-- A lock older than this is stale. -/
def staleAfter (settings : LockSettings) : Duration := .ofSeconds settings.staleAfterSeconds

end LockSettings

/-- The role that is assumed to act for a control-plane account. -/
structure ControlPlaneRole where
  /-- The account that the role is in. -/
  accountId : AccountId
  /-- The purpose for which the account is used. -/
  purpose : AccountPurpose
  /-- The role; without one the broker already acts for the account. -/
  role : Option RoleArn
deriving DecidableEq, Repr

/-- The settings of the session broker. -/
structure BrokerSettings where
  /-- The environment that the broker works in. -/
  environment : Environment
  /-- The region of sessions where no other one is named. -/
  region : String
  /-- The path of metadata roles, from slash to slash. -/
  metadataRolePath : String
  /-- The name of metadata roles. -/
  metadataRoleName : String
  /-- The name of the sessions that roles are assumed for. -/
  sessionName : String
  /-- How long assumed roles last. -/
  assumeSeconds : Nat
  /-- The number of sessions that there is room for. -/
  cacheCapacity : Nat
  /-- How long a session may stay in the cache. -/
  cacheTtlSeconds : Nat
  /-- A session that expires within this time is not used any more. -/
  expiryMarginSeconds : Nat
  /-- The number of calls that may be made to assume a role. -/
  retryAttempts : Nat
  /-- The pause between two of these calls. -/
  retryWaitMillis : Nat
  /-- The roles to act for control-plane accounts with. -/
  controlPlaneRoles : List ControlPlaneRole
deriving DecidableEq, Repr

namespace BrokerSettings

/-- The settings of an environment where no others are given. -/
def ofEnvironment (environment : Environment) : BrokerSettings where
  environment := environment
  region := "eu-central-1"
  metadataRolePath := "/lakehub/"
  metadataRoleName := "lakehub-assumable-metadata"
  sessionName := "MetadataRoleAssumer"
  assumeSeconds := 3600
  cacheCapacity := 1024
  cacheTtlSeconds := 3000
  expiryMarginSeconds := 300
  retryAttempts := 3
  retryWaitMillis := 1000
  controlPlaneRoles := []

/-- How long assumed credentials are to last. -/
def assumeDuration (settings : BrokerSettings) : Duration := .ofSeconds settings.assumeSeconds

/-- How long a session may stay in the cache. -/
def cacheTtl (settings : BrokerSettings) : Duration := .ofSeconds settings.cacheTtlSeconds

/-- A session that expires within this time is not used any more. -/
def expiryMargin (settings : BrokerSettings) : Duration := .ofSeconds settings.expiryMarginSeconds

/-- Assumptions are tried again when there were too many requests. -/
def retryPolicy (settings : BrokerSettings) : Except RetryPolicyError RetryPolicy :=
  (RetryPolicy.of? settings.retryAttempts (.ofMillis settings.retryWaitMillis)).map
    fun policy => policy.withCodes (.only ServiceFailure.throttlingCodes)

end BrokerSettings

/-- All settings. -/
structure Configuration where
  /-- The settings of the lock store. -/
  locks : LockSettings
  /-- The settings of the session broker. -/
  broker : BrokerSettings
  /-- The form of log lines. -/
  logFormat : LogFormat
deriving DecidableEq, Repr

/-- Why a file could not be read as text. -/
inductive FileFault where
  /-- There is no such file. -/
  | missing
  /-- The bytes of the file are no text. -/
  | notText
deriving DecidableEq, Repr

namespace FileFault

/-- The wording of a fault. -/
def message : FileFault → String
  | missing => "No such file or directory (os error 2)"
  | notText => "stream did not contain valid UTF-8"

end FileFault

/-- Why there is no configuration. -/
inductive ConfigurationError where
  /-- The lock store gets no time. -/
  | lockTimeout
  /-- Every lock would be stale from the beginning. -/
  | staleAfter
  /-- The environment has no name. -/
  | emptyEnvironment
  /-- There is no region. -/
  | emptyRegion
  /-- The path of roles does not go from slash to slash. -/
  | rolePath (path : String)
  /-- Metadata roles have no name. -/
  | emptyRoleName
  /-- Sessions have no name. -/
  | emptySessionName
  /-- The lifetime of credentials is one that the service does not grant. -/
  | assumeDuration (seconds : Nat)
  /-- There is no room for a session. -/
  | cacheCapacity
  /-- New sessions would not outlast the expiry margin. -/
  | expiryMargin (margin duration : Nat)
  /-- The retry settings make no policy. -/
  | retry (error : RetryPolicyError)
  /-- The value of an environment variable is not understood. -/
  | setting (name value : String)
  /-- The text is no configuration. -/
  | unreadable (fault : ReadFault)
  /-- The file cannot be read. -/
  | file (path : String) (fault : FileFault)

namespace ConfigurationError

/-- What an unreadable configuration is reported with, before the reason. -/
def unreadableText : String := "Failed to parse config: "

/-- The wording of an error. -/
def message : ConfigurationError → String
  | lockTimeout => "locks.timeout_secs must be greater than 0"
  | staleAfter => "locks.stale_after_secs must be greater than 0"
  | emptyEnvironment => "broker.environment cannot be empty"
  | emptyRegion => "broker.region cannot be empty"
  | rolePath path => "broker.metadata_role_path must start and end with '/', got: " ++ path
  | emptyRoleName => "broker.metadata_role_name cannot be empty"
  | emptySessionName => "broker.session_name cannot be empty"
  | assumeDuration seconds =>
    "broker.assume_duration_secs must be within 900..=43200, got " ++ toString seconds
  | cacheCapacity => "broker.cache_capacity must be at least 1"
  | expiryMargin margin duration =>
    "broker.expiry_margin_secs (" ++ toString margin ++ ") must be below assume_duration_secs (" ++
      toString duration ++ ")"
  | retry error => "invalid retry settings: " ++ error.message
  | setting name value => "environment variable " ++ name ++ " has invalid value '" ++ value ++ "'"
  | unreadable fault => unreadableText ++ fault.message
  | file path fault => "Failed to read config file '" ++ path ++ "': " ++ fault.message

end ConfigurationError

namespace Configuration

/-- The configuration of an environment where nothing else is given. -/
def ofEnvironment (environment : Environment) : Configuration :=
  ⟨.default, .ofEnvironment environment, .text⟩

/-- Whether a role path starts and ends with a slash. -/
def isRolePath (path : String) : Bool :=
  path.toList.head? == some '/' && path.toList.getLast? == some '/'

/-- Whether a lifetime of credentials is one that the service grants. -/
def isAssumeDuration (seconds : Nat) : Bool := 900 ≤ seconds && seconds ≤ 43200

/-- The first setting that cannot be worked with. -/
def validate (configuration : Configuration) : Except ConfigurationError Unit :=
  let locks := configuration.locks
  let broker := configuration.broker
  if locks.timeoutSeconds = 0 then .error .lockTimeout
  else if locks.staleAfterSeconds = 0 then .error .staleAfter
  else if broker.environment.name = "" then .error .emptyEnvironment
  else if broker.region = "" then .error .emptyRegion
  else if ¬ isRolePath broker.metadataRolePath then .error (.rolePath broker.metadataRolePath)
  else if broker.metadataRoleName = "" then .error .emptyRoleName
  else if broker.sessionName = "" then .error .emptySessionName
  else if ¬ isAssumeDuration broker.assumeSeconds then .error (.assumeDuration broker.assumeSeconds)
  else if broker.cacheCapacity = 0 then .error .cacheCapacity
  else if broker.assumeSeconds ≤ broker.expiryMarginSeconds then
    .error (.expiryMargin broker.expiryMarginSeconds broker.assumeSeconds)
  else match broker.retryPolicy with
    | .ok _ => .ok ()
    | .error error => .error (.retry error)

/-- A configuration, if it can be worked with. -/
def checked (configuration : Configuration) : Except ConfigurationError Configuration :=
  configuration.validate.map fun _ => configuration

end Configuration

end ControlPlane
