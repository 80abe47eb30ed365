import ControlPlane.Event
import ControlPlane.Number.Shortest
import ControlPlane.Program
import ControlPlane.ServiceFailure
import ControlPlane.Text.Quoted
import ControlPlane.Time.Duration

/-!
# Trying again

A retry policy says which failures are transient, how many calls may be made and how long to wait
between two of them. A call is repeated after the wait while its failure is transient and calls
are left; the last failure is given back without another wait.
-/
namespace ControlPlane

/-- A number of seconds as it is configured. -/
inductive WaitSeconds where
  | finite (value : Binary64)
  | infinite (negative : Bool)
  | notANumber
deriving DecidableEq

namespace WaitSeconds

/-- The text of a number of seconds. -/
def text : WaitSeconds → String
  | finite value => String.ofList value.plainText
  | infinite false => "inf"
  | infinite true => "-inf"
  | notANumber => "NaN"

end WaitSeconds

/-- Why a retry policy cannot be built. -/
inductive RetryPolicyError where
  /-- Not even one call may be made. -/
  | attempts (attempts : Nat)
  /-- The wait is negative or not finite. -/
  | wait (seconds : WaitSeconds)
  /-- The wait is finite but longer than a duration can be. -/
  | waitTooLong
deriving DecidableEq

namespace RetryPolicyError

/-- The wording of an error. -/
def message : RetryPolicyError → String
  | attempts count => "num_attempts must be at least 1, got " ++ toString count
  | wait seconds => "wait must be a non-negative number of seconds, got " ++ seconds.text
  | waitTooLong => "wait is too long"

end RetryPolicyError

/-- The service error codes that are tried again. -/
inductive RetryCodes where
  | all
  | only (codes : List String)
deriving DecidableEq

namespace RetryCodes

/-- Whether a code is tried again. -/
def admits : RetryCodes → String → Bool
  | all, _ => true
  | only codes, code => codes.contains code

end RetryCodes

/-- Which failures to try again, how often, and how long to wait in between. -/
structure RetryPolicy where
  /-- The number of calls, the first one included. -/
  attempts : Nat
  /-- At least one call is made. -/
  attempts_pos : 1 ≤ attempts
  /-- The pause between two calls. -/
  wait : Duration
  /-- The codes of the failures that are tried again. -/
  codes : RetryCodes
  /-- The transport faults that are tried again. -/
  transports : List TransportFault
deriving DecidableEq

/-- A failure as a retry policy sees it. -/
inductive FailureClass where
  /-- A service answered with a code. -/
  | service (code : String)
  /-- There was no answer. -/
  | transport (fault : TransportFault)
  /-- Anything else. -/
  | other
deriving DecidableEq

/-- The class of a failure. -/
def ServiceFailure.failureClass : ServiceFailure → FailureClass
  | .transport fault _ => .transport fault
  | failure => match failure.code? with
    | some code => .service code
    | none => .other

namespace RetryPolicy

/-- A policy for every service error code and no transport fault. -/
def of? (attempts : Nat) (wait : Duration) : Except RetryPolicyError RetryPolicy :=
  if positive : 1 ≤ attempts then .ok ⟨attempts, positive, wait, .all, []⟩
  else .error (.attempts attempts)

/-- A number of seconds as a duration, to the nearest nanosecond, a half going to the even one. -/
def waitOf? (seconds : WaitSeconds) : Except RetryPolicyError Duration :=
  match seconds with
  | .finite value =>
    if value.negative ∧ ¬ value.isZero then .error (.wait seconds)
    else
      let (numerator, denominator) := value.ratio
      if twoTo 64 * denominator ≤ numerator then .error .waitTooLong
      else .ok ⟨roundHalfEven (numerator * Duration.nanosPerSecond) denominator⟩
  | _ => .error (.wait seconds)

/-- A policy with the wait given in seconds; the wait is looked at first. -/
def ofSeconds? (attempts : Nat) (seconds : WaitSeconds) : Except RetryPolicyError RetryPolicy := do
  let wait ← waitOf? seconds
  of? attempts wait

/-- The same policy for given codes. -/
def withCodes (policy : RetryPolicy) (codes : RetryCodes) : RetryPolicy := { policy with codes }

/-- The same policy for given transport faults. -/
def withTransports (policy : RetryPolicy) (transports : List TransportFault) : RetryPolicy :=
  { policy with transports }

/-- Whether a failure is tried again. -/
def retries (policy : RetryPolicy) (failure : ServiceFailure) : Bool :=
  match failure.failureClass with
  | .service code => policy.codes.admits code
  | .transport fault => policy.transports.contains fault
  | .other => false

/-- The text of the admitted codes, for logs. -/
def codesText : RetryCodes → String
  | .all => "All"
  | .only codes => "Only([" ++ String.intercalate ", " (codes.map quote) ++ "])"

/-- The text of a policy, for logs. -/
def debugText (policy : RetryPolicy) : String :=
  "RetryDecorator \x7b policy: RetryPolicy \x7b num_attempts: " ++ toString policy.attempts ++
    ", wait: " ++ policy.wait.text ++ ", retryable_codes: " ++ codesText policy.codes ++
    ", retryable_transport: [" ++
    String.intercalate ", " (policy.transports.map TransportFault.title) ++ "] \x7d, .. \x7d"

/-- The event before a wait. -/
def warning (policy : RetryPolicy) (operation : String) (failure : ServiceFailure) : Event where
  severity := .warning
  message := "Transient failure, retrying..."
  fields := [("operation", .text operation), ("delay", .text policy.wait.text),
    ("error", .text failure.message)]

variable {interface : Interface} {α : Type}

/-- Call, and call again up to a number of times. -/
def attempt (policy : RetryPolicy) (operation : String) (note : Event → interface.Mark)
    (sleep : Duration → Program interface Unit)
    (call : Program interface (Except ServiceFailure α)) :
    Nat → Program interface (Except ServiceFailure α)
  | 0 => call
  | remaining + 1 => call.bind fun
    | .ok value => .done (.ok value)
    | .error failure =>
      if policy.retries failure then
        .leave (note (policy.warning operation failure))
          ((sleep policy.wait).bind fun _ => attempt policy operation note sleep call remaining)
      else .done (.error failure)

/-- Run an operation under the policy. -/
def run (policy : RetryPolicy) (operation : String) (note : Event → interface.Mark)
    (sleep : Duration → Program interface Unit)
    (call : Program interface (Except ServiceFailure α)) :
    Program interface (Except ServiceFailure α) :=
  attempt policy operation note sleep call (policy.attempts - 1)

end RetryPolicy

end ControlPlane
