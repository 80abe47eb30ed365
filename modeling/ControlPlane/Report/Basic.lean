import ControlPlane.ErrorResponse
import ControlPlane.Retry

/-!
# Reports

A report shows a result or a failure as a JSON object. A failure is named by its kind and has its
wording; what else is known about it is added.
-/
namespace ControlPlane.Report

/-- A natural number. -/
def count (value : Nat) : Json := .ofInt value

/-- A value that may be missing. -/
def optional (value : Option Json) : Json := value.getD .null

/-- A text that may be missing. -/
def optionalText (value : Option String) : Json := optional (value.map Json.string)

/-- A list of texts. -/
def texts (values : List String) : Json := .array (values.map Json.string)

/-- A result. -/
def success (value : Json) : Json := .object [("ok", value)]

/-- A failure with its kind and its wording. -/
def failure (kind message : String) (more : List (String × Json)) : Json :=
  .object ([("error", .string kind), ("message", .string message)] ++ more)

/-- A failure that nothing more is said about. -/
def fatal : Json := .object [("error", .string "Panic")]

/-- Add members to a report. -/
def extend (report : Json) (more : List (String × Json)) : Json :=
  match report with
  | .object members => .object (members ++ more)
  | other => other

/-- A result or a failure. -/
def result {ε α : Type} (failed : ε → Json) (shown : α → Json) : Except ε α → Json
  | .ok value => success (shown value)
  | .error error => failed error

/-- A result without a value. -/
def nothing (_ : Unit) : Json := .null

/-- The value of an event's field. -/
def eventValue : EventValue → Json
  | .count value => .ofInt value
  | .text value => .string value

/-- The name of a severity. -/
def severity : Severity → String
  | .warning => "WARN"
  | .error => "ERROR"

/-- An event. -/
def event (event : Event) : Json :=
  .object [("level", .string (severity event.severity)), ("message", .string event.message),
    ("fields", .object (event.fields.map fun field => (field.1, eventValue field.2)))]

/-- Events under a name, if there are any. -/
def eventsAs (name : String) (events : List Event) : List (String × Json) :=
  if events.isEmpty then [] else [(name, .array (events.map event))]

/-- The events of an operation, if there are any. -/
def logs (events : List Event) : List (String × Json) := eventsAs "logs" events

/-- A text that could not be read. The wording of a mismatch follows some words of its own. -/
def readFault (kind lead : String) : ReadFault → Json
  | .malformed | .surplus _ =>
    .object [("error", .string kind), ("category", .string "syntax")]
  | .cutShort => .object [("error", .string kind), ("category", .string "eof")]
  | .mismatch problem => failure kind (lead ++ problem.message) [("category", .string "data")]

/-- A value that could not be read. -/
def decodeFault (kind : String) : ReadFault → Json
  | .surplus length => failure kind (surplusMessage length) [("category", .string "data")]
  | fault => readFault kind "" fault

/-- A text that is read as something. -/
def readText {α : Type} (text : String) (reader : JsonReader α) (shown : α → Json) : Json :=
  result (readFault "Json" "") shown ((Document.ofText text).read reader)

/-- The kind of a service failure. -/
def serviceFailureKind : ServiceFailure → String
  | .notFound .. => "NotFound"
  | .alreadyExists .. => "AlreadyExists"
  | .conditionFailed _ => "ConditionFailed"
  | .throttled _ => "Throttled"
  | .transport .. => "Transport"
  | .other .. => "Sdk"

/-- A service failure. -/
def serviceFailure (failed : ServiceFailure) : Json :=
  failure (serviceFailureKind failed) failed.message
    [("code", optionalText failed.code?), ("not_found", .bool failed.isNotFound),
      ("already_exists", .bool failed.isAlreadyExists),
      ("condition_failed", .bool failed.isConditionFailed),
      ("retryable", .bool failed.isTransient)]

/-- The class of a failure. -/
def failureClass : FailureClass → Json
  | .service code => .object [("service", .string code)]
  | .transport fault => .object [("transport", .string fault.name)]
  | .other => .string "other"

/-- An error response. -/
def errorResponse (response : ErrorResponse) : Json :=
  .object [("status", count response.status), ("code", .string response.code),
    ("json", .string response.toJson.compact), ("display", .string response.text),
    ("server_error", .bool response.isServerError)]

/-- The parts of an error response. -/
def errorResponseParts (response : ErrorResponse) : Json :=
  .array [count response.status, .string response.code, .string response.message,
    optionalText response.requestId, optional (response.retryable.map Json.bool)]

/-- A retry policy that cannot be built. -/
def retryPolicyError (error : RetryPolicyError) : Json :=
  match error with
  | .attempts _ => failure "InvalidAttempts" error.message []
  | .wait _ => failure "InvalidWait" error.message []
  | .waitTooLong => fatal

end ControlPlane.Report
