import ControlPlane.Configuration.Reader
import ControlPlane.Report.Basic

/-!
# Reports on configurations

A report on a configuration shows every setting, durations in seconds.
-/
namespace ControlPlane.Report

/-- The name of a log format. -/
def logFormat : LogFormat → Json
  | .text => .string "Text"
  | .json => .string "Json"

/-- The kind of a configuration error. -/
def configurationErrorKind : ConfigurationError → String
  | .lockTimeout => "InvalidLockTimeout"
  | .staleAfter => "InvalidStaleAfter"
  | .emptyEnvironment => "EmptyEnvironment"
  | .emptyRegion => "EmptyRegion"
  | .rolePath _ => "InvalidRolePath"
  | .emptyRoleName => "EmptyRoleName"
  | .emptySessionName => "EmptySessionName"
  | .assumeDuration _ => "InvalidAssumeDuration"
  | .cacheCapacity => "InvalidCacheCapacity"
  | .expiryMargin .. => "InvalidExpiryMargin"
  | .retry _ => "Retry"
  | .setting .. => "InvalidEnv"
  | .unreadable _ => "Parse"
  | .file .. => "Io"

/-- A configuration error. -/
def configurationError (error : ConfigurationError) : Json :=
  match error with
  | .unreadable fault => readFault "Parse" ConfigurationError.unreadableText fault
  | _ => failure (configurationErrorKind error) error.message []

/-- The settings of the lock store. -/
def lockSettings (settings : LockSettings) : Json :=
  .object [("table_prefix", .string settings.tablePrefix),
    ("table_name", .string settings.tableName), ("endpoint", optionalText settings.endpoint),
    ("timeout", count settings.timeout.seconds), ("stale_after", count settings.staleAfter.seconds)]

/-- The role of a control-plane account. -/
def controlPlaneRole (entry : ControlPlaneRole) : Json :=
  .object [("account_id", .string entry.accountId.text), ("purpose", .string entry.purpose.name),
    ("role_arn", optionalText (entry.role.map (·.text)))]

/-- The settings of the session broker. -/
def brokerSettings (settings : BrokerSettings) : Json :=
  .object [("environment", .string settings.environment.name), ("region", .string settings.region),
    ("metadata_role_path", .string settings.metadataRolePath),
    ("metadata_role_name", .string settings.metadataRoleName),
    ("session_name", .string settings.sessionName),
    ("assume_duration", count settings.assumeDuration.seconds),
    ("cache_capacity", count settings.cacheCapacity),
    ("cache_ttl", count settings.cacheTtl.seconds),
    ("expiry_margin", count settings.expiryMargin.seconds),
    ("retry", .object [("attempts", count settings.retryAttempts),
      ("wait_ms", count settings.retryWaitMillis)]),
    ("control_plane_roles", .array (settings.controlPlaneRoles.map controlPlaneRole))]

/-- All settings. -/
def configuration (configuration : Configuration) : Json :=
  .object [("locks", lockSettings configuration.locks),
    ("broker", brokerSettings configuration.broker),
    ("logging", logFormat configuration.logFormat)]

/-- The fixed names and numbers of the control plane. -/
def defaults : Json :=
  let locks := LockSettings.default
  let broker := BrokerSettings.default
  .object [("hash_key", .string Lock.keyName), ("stale_after", count locks.staleAfterSeconds),
    ("store_timeout", count locks.timeoutSeconds), ("role_path", .string broker.metadataRolePath),
    ("role_name", .string broker.metadataRoleName), ("session_name", .string broker.sessionName),
    ("assume_duration", count broker.assumeSeconds), ("cache_capacity", count broker.cacheCapacity),
    ("cache_ttl", count broker.cacheTtlSeconds),
    ("expiry_margin", count broker.expiryMarginSeconds),
    ("retry_attempts", count broker.retryAttempts),
    ("retry_wait_ms", count broker.retryWaitMillis), ("region", .string broker.region),
    ("no_stage", .string LockKey.noStage), ("no_region", .string LockKey.noRegion),
    ("scopes", texts (LockScope.all.map LockScope.name)),
    ("policy_version", .string PolicyDocument.defaultVersion),
    ("protect_sid", .string Protection.sid), ("protected_action", .string Protection.action),
    ("throttling_codes", texts ServiceFailure.throttlingCodes),
    ("log_filter", .string LogFormat.defaultFilter), ("partition", .string Partition.default.name)]

end ControlPlane.Report
