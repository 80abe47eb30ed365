import ControlPlane.Account

/-!
# Role names

The resource name of a role holds the partition and the account of the role between colons. The
account is read back as the fifth part.
-/
namespace ControlPlane

/-- The resource name of a role. -/
structure RoleArn where
  /-- The name as it is written. -/
  text : String
deriving DecidableEq, Repr

namespace RoleArn

/-- The name of the role in an account under a path. -/
def ofParts (partition : Partition) (account : AccountId) (path name : String) : RoleArn :=
  ⟨"arn:" ++ partition.name ++ ":iam::" ++ account.text ++ ":role" ++ path ++ name⟩

/-- The text after the first colon, if there is one. -/
def afterColon : List Char → Option (List Char)
  | [] => none
  | ':' :: rest => some rest
  | _ :: rest => afterColon rest

/-- The text after a number of colons, if there are that many. -/
def afterColons : Nat → List Char → Option (List Char)
  | 0, text => some text
  | count + 1, text => (afterColon text).bind (afterColons count)

/-- The account of a role: the fifth part between colons, unless it is empty. -/
def accountId? (arn : RoleArn) : Option AccountId :=
  match (afterColons 4 arn.text.toList).map (·.takeWhile (· != ':')) with
  | some (first :: rest) => some ⟨String.ofList (first :: rest)⟩
  | _ => none

end RoleArn

end ControlPlane
