import ControlPlane.Account
import ControlPlane.Session.Credentials

/-!
# Sessions

A session acts for an account in a region, with credentials of its own or with those of its
surroundings.
-/
namespace ControlPlane

/-- What requests in a region are sent with. -/
structure Session where
  /-- The account that the session acts for. -/
  account : AccountId
  /-- The region that requests are sent to. -/
  region : String
  /-- The credentials of the session, `none` for those of its surroundings. -/
  credentials : Option Credentials
deriving DecidableEq

namespace Session

/-- The session of an account with the credentials of its surroundings. -/
def ambient (account : AccountId) (region : String) : Session := ⟨account, region, none⟩

/-- The session of an account with credentials. -/
def ofCredentials (account : AccountId) (credentials : Credentials) (region : String) : Session :=
  ⟨account, region, some credentials⟩

/-- The same session in another region. -/
def inRegion (session : Session) (region : String) : Session := { session with region }

/-- When the credentials of a session expire. -/
def expiration (session : Session) : Option Instant := session.credentials.bind (·.expiration)

/-- Whether a session expires within a margin of an instant. There is no answer if that is beyond
the calendar. -/
def expiresWithin? (session : Session) (margin : Duration) (now : Instant) : Option Bool :=
  match session.credentials with
  | none => some false
  | some credentials => credentials.expiresWithin? margin now

/-- The text of a region's surroundings, for logs. -/
def contextText (region : String) : String :=
  "AwsContext \x7b region: " ++ quote region ++ ", .. \x7d"

/-- The text of a session without its secrets, for logs. -/
def debugText (session : Session) : String :=
  "AwsSession \x7b account_id: AccountId(" ++ quote session.account.text ++ "), region: " ++
    quote session.region ++ ", credentials: " ++
    Credentials.optionText (session.credentials.map Credentials.debugText) ++ ", .. \x7d"

end Session

end ControlPlane
