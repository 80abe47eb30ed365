import ControlPlane.Json.Basic
import ControlPlane.Number.Digits
import ControlPlane.Number.Power
import ControlPlane.RoleArn
import ControlPlane.ServiceFailure
import ControlPlane.Session.Basic

/-!
# The token service

The token service gives out credentials for a role and says which account a caller belongs to. An
answer without credentials is a failure of its own.
-/
namespace ControlPlane

/-- A call of the token service. -/
inductive TokenCall where
  | assumeRole (role : RoleArn) (sessionName : String) (duration : Duration)
  | callerIdentity
deriving DecidableEq

namespace TokenCall

/-- The name of a call. -/
def action : TokenCall → String
  | assumeRole .. => "AssumeRole"
  | callerIdentity => "GetCallerIdentity"

/-- The greatest number of seconds that can be asked for. -/
def longestSeconds : Nat := twoTo 31 - 1

/-- The seconds to ask for. -/
def seconds (duration : Duration) : Nat := min duration.seconds longestSeconds

/-- The form fields of a call. -/
def fields : TokenCall → List (String × String)
  | assumeRole role sessionName duration =>
    [("RoleArn", role.text), ("RoleSessionName", sessionName),
      ("DurationSeconds", String.ofList (Digits.ofNat (seconds duration)))]
  | callerIdentity => []

end TokenCall

/-- An answer of the token service. -/
structure TokenReply where
  /-- The credentials of an assumed role, if there are any. -/
  credentials : Option Credentials
  /-- The account of the caller, if it was asked for. -/
  account : Option String

namespace TokenReply

/-- The credentials of an answer. -/
def credentialsFor (reply : TokenReply) (role : RoleArn) : Except ServiceFailure Credentials :=
  match reply.credentials with
  | some credentials => .ok credentials
  | none => .error (.other none ("AssumeRole for " ++ role.text ++ " returned no credentials"))

end TokenReply

/-- Why the caller's account is not known. -/
inductive IdentityError where
  | refused (failure : ServiceFailure)
  | nameless
deriving DecidableEq

namespace IdentityError

/-- The wording of an error. -/
def message : IdentityError → String
  | refused _ => "Failed to get AWS caller identity - check credentials"
  | nameless => "No account ID returned from STS GetCallerIdentity"

end IdentityError

/-- The account that an answer names. -/
def AccountId.ofReply (answer : Except ServiceFailure TokenReply) :
    Except IdentityError AccountId :=
  match answer with
  | .error failure => .error (.refused failure)
  | .ok reply => match reply.account with
    | some account => .ok ⟨account⟩
    | none => .error .nameless

end ControlPlane
