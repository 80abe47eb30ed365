import ControlPlane.Text.Quoted
import ControlPlane.Time.Rfc3339

/-!
# Credentials

Temporary credentials may have an expiration. They expire within a margin of an instant if the
expiration is not after the instant the margin later; a margin that is too long to be a calendar
duration is longer than any time to an expiration. The secret and the token are never shown.
-/
namespace ControlPlane

/-- Temporary credentials. -/
structure Credentials where
  /-- The public part of the credentials. -/
  accessKey : String
  /-- The secret that requests are signed with. -/
  secret : String
  /-- The token that goes with the secret, if there is one. -/
  token : Option String
  /-- When the credentials expire, if they do. -/
  expiration : Option Instant
deriving DecidableEq

namespace Credentials

/-- The longest margin that is a calendar duration, in milliseconds. -/
def longestMarginMillis : Nat := twoTo 63 - 1

/-- Whether an expiration is no later than a margin after an instant. There is no answer if that is
beyond the calendar. -/
def isReached? (expiration : Instant) (margin : Duration) (now : Instant) : Option Bool :=
  if longestMarginMillis * 1000000 < margin.nanoseconds then some true
  else (now.after? margin).map expiration.le

/-- Whether credentials expire within a margin of an instant. There is no answer if that is beyond
the calendar. -/
def expiresWithin? (credentials : Credentials) (margin : Duration) (now : Instant) : Option Bool :=
  match credentials.expiration with
  | none => some false
  | some expiration => isReached? expiration margin now

/-- Stands for a secret, for logs. -/
def redacted : String := quote "** redacted **"

/-- The text of a value that may be missing, for logs. -/
def optionText : Option String → String
  | some text => "Some(" ++ text ++ ")"
  | none => "None"

/-- The text of credentials without their secrets, for logs. -/
def debugText (credentials : Credentials) : String :=
  "Credentials \x7b access_key_id: " ++ quote credentials.accessKey ++ ", secret_access_key: " ++
    redacted ++ ", session_token: " ++ optionText (credentials.token.map fun _ => redacted) ++
    ", expiration: " ++ optionText (credentials.expiration.map Instant.text) ++ " \x7d"

end Credentials

end ControlPlane
