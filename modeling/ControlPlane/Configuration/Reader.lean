import ControlPlane.Configuration.Basic

/-!
# Reading configurations

A configuration is a JSON object of sections. Absent settings take their defaults, and a name that
is not known is an error. A section may also be written as a list of its settings in order.
-/
namespace ControlPlane

/-- Read a log format by its name. -/
def LogFormat.reader : JsonReader LogFormat := JsonReader.choice LogFormat.named

/-- Read the settings of the lock store. -/
def LockSettings.reader : JsonReader LockSettings :=
  RecordReader.read
    (((((RecordReader.constant LockSettings.mk).apply
      (.withDefault "table_prefix" JsonReader.text LockSettings.default.tablePrefix)).apply
      (.withDefault "endpoint" (JsonReader.optional JsonReader.text)
        LockSettings.default.endpoint)).apply
      (.withDefault "timeout_secs" JsonReader.natural64
        LockSettings.default.timeoutSeconds)).apply
      (.withDefault "stale_after_secs" JsonReader.natural64
        LockSettings.default.staleAfterSeconds))
    "LockConfig" true

/-- Read the name of a role. -/
def RoleArn.reader : JsonReader RoleArn := fun depth transcript =>
  (JsonReader.text depth transcript).map RoleArn.mk

/-- Read the role of a control-plane account. -/
def ControlPlaneRole.reader : JsonReader ControlPlaneRole :=
  RecordReader.read
    ((((RecordReader.constant ControlPlaneRole.mk).apply
      (.required "account_id" AccountId.reader)).apply
      (.required "purpose" AccountPurpose.reader)).apply
      (.withDefault "role_arn" (JsonReader.optional RoleArn.reader) none))
    "ControlPlaneRole" true

/-- The settings of a broker by themselves, for the defaults. -/
def BrokerSettings.default : BrokerSettings := .ofEnvironment ⟨""⟩

/-- Read the settings of the session broker. -/
def BrokerSettings.reader : JsonReader BrokerSettings :=
  RecordReader.read
    (((((((((((((RecordReader.constant BrokerSettings.mk).apply
      (.required "environment" Environment.reader)).apply
      (.withDefault "region" JsonReader.text default.region)).apply
      (.withDefault "metadata_role_path" JsonReader.text default.metadataRolePath)).apply
      (.withDefault "metadata_role_name" JsonReader.text default.metadataRoleName)).apply
      (.withDefault "session_name" JsonReader.text default.sessionName)).apply
      (.withDefault "assume_duration_secs" JsonReader.natural64 default.assumeSeconds)).apply
      (.withDefault "cache_capacity" JsonReader.natural64 default.cacheCapacity)).apply
      (.withDefault "cache_ttl_secs" JsonReader.natural64 default.cacheTtlSeconds)).apply
      (.withDefault "expiry_margin_secs" JsonReader.natural64 default.expiryMarginSeconds)).apply
      (.withDefault "retry_attempts" JsonReader.natural32 default.retryAttempts)).apply
      (.withDefault "retry_wait_ms" JsonReader.natural64 default.retryWaitMillis)).apply
      (.withDefault "control_plane_roles" (JsonReader.list ControlPlaneRole.reader) []))
    "BrokerConfig" true

/-- Read the settings of logging. -/
def LogFormat.sectionReader : JsonReader LogFormat :=
  RecordReader.read
    ((RecordReader.constant id).apply (.withDefault "format" LogFormat.reader .text))
    "LoggingConfig" true

namespace Configuration

/-- Read all settings. -/
def reader : JsonReader Configuration :=
  RecordReader.read
    ((((RecordReader.constant Configuration.mk).apply
      (.withDefault "locks" LockSettings.reader .default)).apply
      (.required "broker" BrokerSettings.reader)).apply
      (.withDefault "logging" LogFormat.sectionReader .text))
    "CoreConfig" true

/-- The configuration of a text. -/
def ofText (text : String) : Except ConfigurationError Configuration :=
  match (Document.ofText text).read reader with
  | .ok configuration => configuration.checked
  | .error fault => .error (.unreadable fault)

/-- The configuration of a file with given bytes, `none` if there is no file. -/
def ofFile (path : String) (content : Option ByteArray) : Except ConfigurationError Configuration :=
  match content with
  | none => .error (.file path .missing)
  | some bytes => match String.fromUTF8? bytes with
    | some text => ofText text
    | none => .error (.file path .notText)

end Configuration

end ControlPlane
