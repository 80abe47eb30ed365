import ControlPlane.Proofs.Session.Provenance
import Mathlib.Data.List.TakeWhile

/-!
# Accounts in the names of roles

The name of a role is read by its fields, which are what stands between its colons. How many of them
come before that of the account depends on the partition alone, so an account is read back whatever
follows it, unless a colon cuts it off or it is empty (`accountId?_ofParts_eq_some_iff`). The fields
tell a partition and an account from others (`ofParts_eq_iff`). Hence the metadata role of a target
stands for its partition and its account (`roles_identify_accounts`). The role that a failed call
reports tells which account was wanted (`accountId?_of_failure`), and a session that is kept was made
with a role that names its account (`exists_role_of_keep`).
-/
namespace ControlPlane

namespace RoleArn

/-- The fields of a text: what stands between its colons. -/
def fieldsOf (text : List Char) : List (List Char) := text.splitOn ':'

/-- A text without colons is its only field. -/
theorem fieldsOf_plain {text : List Char} (plain : ':' ∉ text) : fieldsOf text = [text] := by
  rw [fieldsOf, List.splitOn_eq_splitOnP]
  refine List.splitOnP_eq_singleton fun char member => ?_
  exact beq_eq_false_iff_ne.mpr (ne_of_mem_of_not_mem member plain)

/-- The fields around a colon are those before it and those after it. -/
theorem fieldsOf_append (front back : List Char) :
    fieldsOf (front ++ ':' :: back) = fieldsOf front ++ fieldsOf back := by
  simp only [fieldsOf, List.splitOn_eq_splitOnP]
  exact List.splitOnP_append_cons front back (beq_self_eq_true ':')

/-- The first field ends at the first colon, and the others are those of what follows it. -/
theorem fieldsOf_eq_cons (text : List Char) :
    fieldsOf text = text.takeWhile (· != ':') :: ((afterColon text).map fieldsOf).getD [] := by
  fun_induction afterColon text with
  | case1 => rfl
  | case2 rest => simpa [fieldsOf_plain] using fieldsOf_append [] rest
  | case3 char rest other ih =>
    have kept : (char == ':') = false := by simpa using fun same => other same
    have shifted : fieldsOf (char :: rest) = (fieldsOf rest).modifyHead (char :: ·) := by
      simp [fieldsOf, List.splitOn_eq_splitOnP, List.splitOnP_cons_eq_if_modifyHead, kept]
    rw [shifted, ih]
    simp [bne, kept]

/-- A field begins after as many colons as there are fields before it, and ends at the next one. -/
theorem getElem?_fieldsOf (count : Nat) (text : List Char) :
    (fieldsOf text)[count]? = (afterColons count text).map (·.takeWhile (· != ':')) := by
  induction count generalizing text with
  | zero =>
    rw [fieldsOf_eq_cons]
    rfl
  | succ count ih =>
    rw [fieldsOf_eq_cons, List.getElem?_cons_succ]
    cases later : afterColon text with
    | none => simp [afterColons, later]
    | some rest => simp [afterColons, later, ih]

/-- An account is read from the fifth field, unless that is empty. -/
theorem accountId?_eq_some_iff {arn : RoleArn} {account : AccountId} :
    arn.accountId? = some account ↔
      (fieldsOf arn.text.toList)[4]? = some account.text.toList ∧ account.text ≠ "" := by
  rw [getElem?_fieldsOf]
  unfold accountId?
  generalize (afterColons 4 arn.text.toList).map (·.takeWhile (· != ':')) = field
  constructor
  · intro read
    split at read
    next first rest =>
      cases read
      simp
    next => cases read
  · rintro ⟨rfl, given⟩
    cases split : account.text.toList with
    | nil => exact absurd (String.toList_eq_nil_iff.mp split) given
    | cons first rest =>
      dsimp only
      rw [← split, String.ofList_toList]

variable {partition otherPartition : Partition} {account otherAccount : AccountId}
  {path name otherPath otherName : String}

/-- The fields of a role's name: those of the partition and of the account, and what is around
them. -/
theorem fieldsOf_ofParts (partition : Partition) (account : AccountId) (path name : String) :
    fieldsOf (ofParts partition account path name).text.toList =
      ["arn".toList] ++ fieldsOf partition.name.toList ++ ["iam".toList, []] ++
        fieldsOf account.text.toList ++ fieldsOf ("role" ++ path ++ name).toList := by
  have split : (ofParts partition account path name).text.toList =
      "arn".toList ++ ':' :: (partition.name.toList ++ ':' :: ("iam".toList ++ ':' ::
        ([] ++ ':' :: (account.text.toList ++ ':' :: ("role" ++ path ++ name).toList)))) := by
    simp [ofParts]
  have lead : fieldsOf "arn".toList = ["arn".toList] := fieldsOf_plain (by decide)
  have service : fieldsOf "iam".toList = ["iam".toList] := fieldsOf_plain (by decide)
  have region : fieldsOf [] = [[]] := fieldsOf_plain List.not_mem_nil
  simp only [split, fieldsOf_append, lead, service, region, List.append_assoc]
  rfl

/-- An account is read back from the name of a role in a partition without colons, unless a colon
cuts it off or it is empty; what follows it plays no part. -/
theorem accountId?_ofParts_eq_some_iff (plain : ':' ∉ partition.name.toList) :
    (ofParts partition account path name).accountId? = some account ↔
      ':' ∉ account.text.toList ∧ account.text ≠ "" := by
  have fifth : (fieldsOf (ofParts partition account path name).text.toList)[4]? =
      some (account.text.toList.takeWhile (· != ':')) := by
    rw [fieldsOf_ofParts, fieldsOf_plain plain, fieldsOf_eq_cons account.text.toList]
    rfl
  have uncut : some (account.text.toList.takeWhile (· != ':')) = some account.text.toList ↔
      ':' ∉ account.text.toList := by
    rw [Option.some_inj, List.takeWhile_eq_self_iff, ← List.forall_mem_ne']
    simp
  rw [accountId?_eq_some_iff, fifth, uncut]

/-- Colons of the partition shift the fields. -/
example : (ofParts ⟨"aws:cn:north"⟩ ⟨"333333333333"⟩ "/" "reader").accountId? = some ⟨"iam"⟩ := by
  decide

/-- The parts of a role's name that its colons tell apart: a partition and an account without colons
of their own, the latter not empty. -/
structure Legible (partition : Partition) (account : AccountId) : Prop where
  /-- The name of the partition has no colon. -/
  plainPartition : ':' ∉ partition.name.toList
  /-- The id of the account has no colon. -/
  plainAccount : ':' ∉ account.text.toList
  /-- The id of the account is not empty. -/
  given : account.text ≠ ""

/-- An account is read back from the name of its role. -/
theorem accountId?_ofParts (legible : Legible partition account) :
    (ofParts partition account path name).accountId? = some account :=
  (accountId?_ofParts_eq_some_iff legible.plainPartition).mpr
    ⟨legible.plainAccount, legible.given⟩

/-- Two names of roles are the same only if their partitions, their accounts and what follows these
are. -/
theorem ofParts_eq_iff (first : Legible partition account)
    (second : Legible otherPartition otherAccount) :
    ofParts partition account path name = ofParts otherPartition otherAccount otherPath otherName ↔
      partition = otherPartition ∧ account = otherAccount ∧
        path ++ name = otherPath ++ otherName := by
  constructor
  · intro same
    have fields := congrArg (fun arn => fieldsOf arn.text.toList) same
    rw [fieldsOf_ofParts, fieldsOf_ofParts, fieldsOf_plain first.plainPartition,
      fieldsOf_plain second.plainPartition, fieldsOf_plain first.plainAccount,
      fieldsOf_plain second.plainAccount] at fields
    simp only [List.cons_append, List.nil_append, List.cons.injEq] at fields
    obtain ⟨-, partitions, -, -, accounts, -⟩ := fields
    obtain rfl : partition = otherPartition :=
      congrArg Partition.mk (String.toList_inj.mp partitions)
    obtain rfl : account = otherAccount := congrArg AccountId.mk (String.toList_inj.mp accounts)
    refine ⟨rfl, rfl, ?_⟩
    simpa [ofParts, String.append_assoc] using same
  · rintro ⟨rfl, rfl, rest⟩
    simp only [ofParts, String.append_assoc, rest]

end RoleArn

namespace Broker

variable {broker : Broker} {target : AssumptionTarget} {region : String} {role : RoleArn}
  {failure : ServiceFailure} {session : Session}

/-- The names of roles identify accounts: an account is read back from the name of a role in it, and
the metadata roles of two targets are the same exactly if the partitions and the accounts are. -/
theorem roles_identify_accounts :
    (∀ partition account path name, RoleArn.Legible partition account →
      (RoleArn.ofParts partition account path name).accountId? = some account) ∧
    ∀ (broker : Broker) (first second : AssumptionTarget),
      RoleArn.Legible first.hub.partition first.accountId →
      RoleArn.Legible second.hub.partition second.accountId →
        (broker.metadataRole first = broker.metadataRole second ↔
          first.hub.partition = second.hub.partition ∧ first.accountId = second.accountId) := by
  constructor
  · intro partition account path name legible
    exact RoleArn.accountId?_ofParts legible
  · intro broker first second firstLegible secondLegible
    constructor
    · intro same
      obtain ⟨partition, account, -⟩ := (RoleArn.ofParts_eq_iff firstLegible secondLegible).mp same
      exact ⟨partition, account⟩
    · rintro ⟨partition, account⟩
      exact metadataRole_congr account partition

/-- Colons in the path and in the name of a role do no harm, and one account has different roles in
two partitions. -/
theorem roles_identify_accounts_colons :
    let settings :=
      { sampleSettings with metadataRolePath := "/team:data/", metadataRoleName := "role:meta" }
    let broker := { sampleBroker with settings }
    RoleArn.Legible sampleTarget.hub.partition sampleTarget.accountId ∧
      RoleArn.Legible foreignTarget.hub.partition foreignTarget.accountId ∧
      (RoleArn.ofParts ⟨"aws"⟩ ⟨"333333333333"⟩ "/team:data/" "role:meta").accountId? =
        some ⟨"333333333333"⟩ ∧
      broker.metadataRole sampleTarget ≠ broker.metadataRole foreignTarget := by
  intro settings broker
  have home : RoleArn.Legible sampleTarget.hub.partition sampleTarget.accountId :=
    ⟨by decide, by decide, by decide⟩
  have foreign : RoleArn.Legible foreignTarget.hub.partition foreignTarget.accountId :=
    ⟨by decide, by decide, by decide⟩
  refine ⟨home, foreign, roles_identify_accounts.1 _ _ _ _ home, fun same => ?_⟩
  have partitions := ((roles_identify_accounts.2 broker _ _ home foreign).mp same).1
  exact absurd partitions (by decide)

/-- A call that fails for want of a metadata role fails for want of its target's own. -/
theorem Assumes.eq_metadataRole {deeds : List BrokerDeed}
    (assumes : Assumes broker target region deeds (.error (.metadataRole role failure))) :
    role = broker.metadataRole target := by
  cases assumes with
  | made supported look make =>
    cases make with
    | refused => rfl
    | sourceless source =>
      cases source with
      | made look make => cases make

section Turns

variable {σ : Type} {surroundings : Surroundings brokerInterface σ} {calls : List BrokerCall}
  {state : σ} {turn : Turn σ}

/-- The role that a failed call reports names the account that a session was wanted for. -/
theorem accountId?_of_failure (member : turn ∈ broker.turns surroundings calls state)
    (wanted : turn.call.wanted? broker.settings.region = some (target, region))
    (legible : RoleArn.Legible target.hub.partition target.accountId)
    (failed : turn.failure? = some (.metadataRole role failure)) :
    role.accountId? = some target.accountId := by
  rw [(assumes_of_failure member wanted failed).eq_metadataRole]
  exact RoleArn.accountId?_ofParts legible

/-- A session that is kept was made with credentials for a role that names the session's account. -/
theorem exists_role_of_keep (member : turn ∈ broker.turns surroundings calls state)
    (wanted : turn.call.wanted? broker.settings.region = some (target, region))
    (legible : RoleArn.Legible target.hub.partition target.accountId)
    (kept : .left (.keep session) ∈ turn.deeds) :
    ∃ source role credentials, broker.tried source role (.ok credentials) ∈ turn.deeds ∧
      session.credentials = some credentials ∧ role.accountId? = some session.account := by
  obtain ⟨strict, assumes, -, -⟩ := exists_assumes member wanted
  obtain ⟨source, credentials, tried, rfl⟩ := assumes.obtained_of_keep kept
  exact ⟨source, _, credentials, tried, rfl, RoleArn.accountId?_ofParts legible⟩

end Turns

end Broker

end ControlPlane
