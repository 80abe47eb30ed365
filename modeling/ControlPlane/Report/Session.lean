import ControlPlane.Broker
import ControlPlane.Report.Basic
import ControlPlane.TokenService

/-!
# Reports on sessions

Sessions are shown with their credentials, secrets included, and with their times in words of the
reader's choice.
-/
namespace ControlPlane.Report

/-- The part of an account that a role is assumed for. -/
def target (target : AssumptionTarget) : Json :=
  .object [("account_id", .string target.accountId.text), ("hub", .string target.hub.name),
    ("partition", .string target.hub.partition.name),
    ("account_type", .string target.accountType.name),
    ("supports_metadata_role", .bool target.supportsMetadataRole),
    ("display", .string target.text)]

/-- An account that was read, with the targets that it gives with its own type and another one. -/
def account (accountType : Option AccountType) (read : Account) : Json :=
  .object [("account", .string read.toJson.compact), ("well_formed", .bool read.id.isWellFormed),
    ("id_length", count read.id.text.utf8ByteSize), ("partition", .string read.partition.name),
    ("purpose", .string read.purpose.name), ("is_api", .bool (read.purpose = AccountPurpose.api)),
    ("environment", .string read.environment.name), ("spec", target (.ofAccount read none)),
    ("moved", target (.ofAccount read accountType))]

/-- The name of a role, and the account that it names. -/
def roleArn (arn : RoleArn) : Json :=
  .object [("arn", .string arn.text), ("display", .string arn.text),
    ("account_id", optionalText (arn.accountId?.map (·.text))),
    ("well_formed", optional (arn.accountId?.map fun id => .bool id.isWellFormed))]

/-- The kind of a directory error. -/
def directoryErrorKind : DirectoryError → String
  | .notFound _ => "AccountNotFound"
  | .ambiguous .. => "AmbiguousAccount"
  | .unavailable _ => "Unavailable"

/-- A directory error. -/
def directoryError (error : DirectoryError) : Json :=
  failure (directoryErrorKind error) error.message []

/-- The kind of an assumption's error, and what else is known about it. -/
def assumeErrorDetail : AssumeError → String × List (String × Json)
  | .unsupported _ => ("Unsupported", [])
  | .metadataRole _ failed => ("CannotAssumeMetadataRole", [("source", serviceFailure failed)])
  | .controlPlaneRole _ failed => ("ControlPlaneRole", [("source", serviceFailure failed)])
  | .unknownAccount _ => ("UnknownAccount", [])
  | .directory failed => ("Directory", [("directory", directoryError failed)])
  | .beyondCalendar => ("Panic", [])

/-- An error of an assumption. -/
def assumeError (error : AssumeError) : Json :=
  let (kind, detail) := assumeErrorDetail error
  failure kind error.message
    ([("unsupported", .bool error.isUnsupported), ("has_source", .bool error.cause?.isSome),
      ("api", errorResponse error.response)] ++ detail)

/-- The seconds, source and names of an assumption. -/
def assumption (assumption : Assumption) : Json :=
  .object [("source_account", .string assumption.source.account.text),
    ("source_region", .string assumption.source.region),
    ("source_key", optionalText (assumption.source.credentials.map (·.accessKey))),
    ("role_arn", .string assumption.role.text), ("session_name", .string assumption.sessionName),
    ("duration", count assumption.duration.seconds)]

/-- A call of the token service as it is sent. -/
def tokenCall (call : TokenCall) : Json :=
  .object [("action", .string call.action),
    ("body", .object (call.fields.map fun field => (field.1, Json.string field.2)))]

variable (shown : Instant → String)

/-- Credentials. -/
def credentials (credentials : Credentials) : Json :=
  .object [("access_key_id", .string credentials.accessKey),
    ("secret_access_key", .string credentials.secret),
    ("session_token", optionalText credentials.token),
    ("expiration", optionalText (credentials.expiration.map shown))]

/-- A session. -/
def session (session : Session) : Json :=
  .object [("account_id", .string session.account.text), ("region", .string session.region),
    ("sdk_region", .string session.region),
    ("credentials", optional (session.credentials.map (credentials shown))),
    ("expiration", optionalText (session.expiration.map shown))]

/-- A session and its surroundings. -/
def sessionInContext (held : Session) : Json :=
  extend (session shown held)
    [("debug", .string held.debugText), ("context_region", .string held.region),
      ("context_sdk_region", .string held.region)]

end ControlPlane.Report
