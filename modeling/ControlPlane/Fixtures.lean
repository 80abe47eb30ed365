import ControlPlane.Configuration.Reader
import ControlPlane.Directory

/-!
# Sample accounts

Accounts of a test environment, two control-plane accounts among them, and the region that tests
run in.
-/
namespace ControlPlane.Fixtures

/-- The test environment. -/
def environment : Environment := ⟨"test"⟩

/-- The hub of a partition. -/
def hub (partition : Partition) : Hub := ⟨"global", partition⟩

/-- A control-plane account. -/
def controlPlaneAccount (id : String) (partition : Partition) : Account :=
  ⟨⟨id⟩, .api, hub partition, environment, .internal⟩

/-- An account that the platform manages. -/
def managedAccount (id : String) (accountType : AccountType) : Account :=
  ⟨⟨id⟩, ⟨"resources"⟩, hub .default, environment, accountType⟩

/-- A provider's account. -/
def providerAccount : Account := managedAccount "333333333333" .provider

/-- A technical account. -/
def technicalAccount : Account := managedAccount "555555555555" .technical

/-- One account of each kind. -/
def accounts : List Account :=
  [controlPlaneAccount "111111111111" .default, controlPlaneAccount "222222222222" ⟨"aws-cn"⟩,
    providerAccount, managedAccount "444444444444" .usecase, technicalAccount,
    managedAccount "666666666666" .internal]

/-- The region that tests run in: that of the first variable that is set. -/
def region (lookup : String → Option String) : String :=
  ((lookup "AWS_REGION").or (lookup "AWS_DEFAULT_REGION")).getD BrokerSettings.default.region

/-- The id of the request of a test, from the time in milliseconds and a count. -/
def requestId (millis : Int) (count : Nat) : String :=
  "test-" ++ toString millis ++ "-" ++ toString count

/-- The beginning of the names of a request's locks. -/
def lockLead (millis : Int) (count : Nat) : String := requestId millis count ++ "-"

end ControlPlane.Fixtures
