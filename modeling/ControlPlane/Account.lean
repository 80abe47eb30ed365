import ControlPlane.Json.Reader

/-!
# Accounts

An account of the platform has an id, a purpose, a hub it belongs to, an environment and a type.
An `AssumptionTarget` is the part of it that decides whether and where a metadata role can be
assumed.
-/
namespace ControlPlane

/-- The id of an account. -/
structure AccountId where
  /-- The id as it is written. -/
  text : String
deriving DecidableEq, Repr

namespace AccountId

/-- Whether the id is twelve decimal digits. -/
def isWellFormed (id : AccountId) : Bool := id.text.length = 12 && id.text.toList.all Char.isDigit

/-- Read an id. -/
def reader : JsonReader AccountId := fun depth transcript =>
  (JsonReader.text depth transcript).map AccountId.mk

end AccountId

/-- A partition of the cloud, such as `aws`. -/
structure Partition where
  /-- The name of the partition. -/
  name : String
deriving DecidableEq, Repr

namespace Partition

/-- The partition of an account that names none. -/
def default : Partition := ⟨"aws"⟩

/-- Read a partition. -/
def reader : JsonReader Partition := fun depth transcript =>
  (JsonReader.text depth transcript).map Partition.mk

end Partition

/-- An environment of the platform. -/
structure Environment where
  /-- The name of the environment. -/
  name : String
deriving DecidableEq, Repr

namespace Environment

/-- Read an environment. -/
def reader : JsonReader Environment := fun depth transcript =>
  (JsonReader.text depth transcript).map Environment.mk

end Environment

/-- What an account is for. -/
structure AccountPurpose where
  /-- The name of the purpose. -/
  name : String
deriving DecidableEq, Repr

namespace AccountPurpose

/-- The purpose of the accounts that roles are assumed from. -/
def api : AccountPurpose := ⟨"api"⟩

/-- Read a purpose. -/
def reader : JsonReader AccountPurpose := fun depth transcript =>
  (JsonReader.text depth transcript).map AccountPurpose.mk

end AccountPurpose

/-- A group of accounts in one partition. -/
structure Hub where
  /-- The name of the hub. -/
  name : String
  /-- The partition that the accounts of the hub are in. -/
  partition : Partition
deriving DecidableEq, Repr

namespace Hub

/-- Read a hub. -/
def reader : JsonReader Hub :=
  RecordReader.read
    (((RecordReader.constant Hub.mk).apply (.required "name" JsonReader.text)).apply
      (.required "partition" Partition.reader))
    "Hub" false

/-- A hub as a value. -/
def toJson (hub : Hub) : Json :=
  .object [("name", .string hub.name), ("partition", .string hub.partition.name)]

end Hub

/-- How an account is used. -/
inductive AccountType where
  | internal
  | provider
  | technical
  | usecase
deriving DecidableEq, Repr

namespace AccountType

/-- The types with their names. -/
def named : List (String × AccountType) :=
  [("internal", internal), ("provider", provider), ("technical", technical), ("usecase", usecase)]

/-- The name of a type. -/
def name : AccountType → String
  | internal => "internal"
  | provider => "provider"
  | technical => "technical"
  | usecase => "usecase"

/-- Whether accounts of a type have a metadata role: all but technical ones do. -/
def supportsMetadataRole : AccountType → Bool
  | technical => false
  | internal | provider | usecase => true

/-- Read a type by its name. -/
def reader : JsonReader AccountType := JsonReader.choice named

end AccountType

/-- An account of the platform. -/
structure Account where
  /-- The id of the account. -/
  id : AccountId
  /-- What the account is for. -/
  purpose : AccountPurpose
  /-- The hub that the account belongs to. -/
  hub : Hub
  /-- The environment that the account belongs to. -/
  environment : Environment
  /-- The type of the account, which says whether it has a metadata role. -/
  accountType : AccountType
deriving DecidableEq, Repr

namespace Account

/-- The partition of an account is that of its hub. -/
def partition (account : Account) : Partition := account.hub.partition

/-- Read an account. -/
def reader : JsonReader Account :=
  RecordReader.read
    ((((((RecordReader.constant Account.mk).apply (.required "id" AccountId.reader)).apply
      (.required "purpose" AccountPurpose.reader)).apply
      (.required "hub" Hub.reader)).apply
      (.required "environment" Environment.reader)).apply
      (.required "account_type" AccountType.reader))
    "Account" false

/-- An account as a value, in the order of its fields. -/
def toJson (account : Account) : Json :=
  .object [("id", .string account.id.text), ("purpose", .string account.purpose.name),
    ("hub", account.hub.toJson), ("environment", .string account.environment.name),
    ("account_type", .string account.accountType.name)]

end Account

/-- The account whose metadata role is to be assumed. -/
structure AssumptionTarget where
  /-- The id of the account. -/
  accountId : AccountId
  /-- The hub of the account, which says in which partition the role is. -/
  hub : Hub
  /-- The type of the account, which says whether it has a metadata role. -/
  accountType : AccountType
deriving DecidableEq, Repr

namespace AssumptionTarget

/-- The target for an account, with its own type unless another is given. -/
def ofAccount (account : Account) (accountType : Option AccountType) : AssumptionTarget :=
  ⟨account.id, account.hub, accountType.getD account.accountType⟩

/-- Whether the target has a metadata role. -/
def supportsMetadataRole (target : AssumptionTarget) : Bool :=
  target.accountType.supportsMetadataRole

/-- The text of a target. -/
def text (target : AssumptionTarget) : String :=
  "account_id=" ++ target.accountId.text ++ ", hub=" ++ target.hub.name ++ ", account_type=" ++
    target.accountType.name

end AssumptionTarget

end ControlPlane
