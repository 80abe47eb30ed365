import ControlPlane.Account

/-!
# The account directory

Accounts are looked up by their id or queried by environment, purpose and partition. A query has an
answer only if exactly one account matches.
-/
namespace ControlPlane

/-- What accounts are queried by. -/
structure AccountQuery where
  /-- The environment of the account. -/
  environment : Environment
  /-- What the account is for. -/
  purpose : AccountPurpose
  /-- The partition of the hub of the account. -/
  partition : Partition
deriving DecidableEq, Repr

namespace AccountQuery

/-- The text of a query. -/
def text (query : AccountQuery) : String :=
  "environment=" ++ query.environment.name ++ ", purpose=" ++ query.purpose.name ++
    ", partition=" ++ query.partition.name

/-- Whether an account is one that is queried. -/
def admits (query : AccountQuery) (account : Account) : Bool :=
  account.environment = query.environment && account.purpose = query.purpose &&
    account.partition = query.partition

end AccountQuery

/-- Why an account was not found. -/
inductive DirectoryError where
  /-- There is none for an id or a query. -/
  | notFound (wanted : String)
  /-- There are several for a query. -/
  | ambiguous (query : String) (count : Nat)
  /-- The directory gives no answer. -/
  | unavailable (reason : String)
deriving DecidableEq, Repr

namespace DirectoryError

/-- The wording of an error. -/
def message : DirectoryError → String
  | notFound wanted => "Account " ++ wanted ++ " not found"
  | ambiguous query count =>
    "Expected exactly one account for " ++ query ++ ", found " ++ toString count
  | unavailable reason => "Account directory unavailable: " ++ reason

end DirectoryError

/-- The accounts of the platform. -/
structure Directory where
  /-- The accounts in the order in which they are listed. -/
  accounts : List Account
deriving DecidableEq, Repr

namespace Directory

/-- Add an account. -/
def push (directory : Directory) (account : Account) : Directory :=
  ⟨directory.accounts ++ [account]⟩

/-- The first account of an id. -/
def get (directory : Directory) (id : AccountId) : Except DirectoryError Account :=
  match directory.accounts.find? fun account => account.id = id with
  | some account => .ok account
  | none => .error (.notFound id.text)

/-- The only account of a query. -/
def query (directory : Directory) (query : AccountQuery) : Except DirectoryError Account :=
  match directory.accounts.filter query.admits with
  | [] => .error (.notFound query.text)
  | [account] => .ok account
  | accounts => .error (.ambiguous query.text accounts.length)

end Directory

end ControlPlane
