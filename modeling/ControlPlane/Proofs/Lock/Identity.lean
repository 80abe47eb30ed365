import ControlPlane.Lock.Key
import Mathlib.Data.List.Infix

/-!
# The identity of locks

An id is read from its end: the region, the stage, the scope, and what is left is the item. No name
of a scope or of a stage, with the underscore before it, ends another one, so both are recognised
there (`append_cancel`), and so is a region without underscores. An absent region could be taken for
one that reads `region`, but then the stage before it would end in `_no`, which none does. Hence
keys whose regions have no underscores are told apart by their ids, whatever their items are
(`id_eq_iff`).

Changing one component of a key changes its id, whatever texts the components are, with one
exception: a region that reads like what stands for an absent one (`id_eq_iff_of_differOnce`).
-/
namespace ControlPlane

/-- Codes that do not end one another are recognised at the end of any text. -/
theorem append_cancel {α : Type} {code : α → List Char}
    (apart : ∀ first second, code first <:+ code second → first = second)
    {front back : List Char} {first second : α} (same : front ++ code first = back ++ code second) :
    first = second ∧ front = back := by
  have equal : first = second := by
    have own : code first <:+ back ++ code second := same ▸ List.suffix_append front (code first)
    have theirs := List.suffix_append back (code second)
    obtain ends | ends := List.suffix_or_suffix_of_suffix own theirs
    · exact apart first second ends
    · exact (apart second first ends).symm
  subst equal
  exact ⟨rfl, List.append_cancel_right same⟩

namespace LockKey

/-- A part of an id, with the underscore before it. -/
def part (text : String) : List Char := '_' :: text.toList

/-- An id is made up of its item and three parts. -/
theorem toList_id (key : LockKey) :
    key.id.toList = key.item.toList ++ part key.scope.name ++ part (stageName key.stage) ++
      part (key.region.getD noRegion) := by
  simp [id, part]

/-- No name of a scope ends another one. -/
theorem scope_eq_of_suffix (first second : LockScope)
    (ends : part first.name <:+ part second.name) : first = second := by
  revert ends
  cases first <;> cases second <;> decide

/-- No name of a stage, nor what stands for an absent one, ends another one. -/
theorem stage_eq_of_suffix (first second : Option Stage)
    (ends : part (stageName first) <:+ part (stageName second)) : first = second := by
  revert ends
  rcases first with - | first <;> rcases second with - | second
  · decide
  · cases second <;> decide
  · cases first <;> decide
  · cases first <;> cases second <;> decide

section Regions

variable {front back : List Char} {first second : String}

/-- A text without underscores does not end in a part other than itself. -/
theorem eq_of_suffix (plain : '_' ∉ second.toList) (ends : part first <:+ part second) :
    first = second := by
  obtain same | within := List.suffix_cons_iff.mp ends
  · exact String.toList_inj.mp (List.tail_eq_of_cons_eq same)
  · have member : '_' ∈ part first := List.mem_cons_self
    exact absurd (within.mem member) plain

/-- A part without further underscores is recognised at the end of any text. -/
theorem part_cancel (firstPlain : '_' ∉ first.toList) (secondPlain : '_' ∉ second.toList)
    (same : front ++ part first = back ++ part second) : first = second ∧ front = back := by
  let code : { text : String // '_' ∉ text.toList } → List Char := fun text => part text
  have apart : ∀ first second, code first <:+ code second → first = second :=
    fun first second ends => Subtype.ext (eq_of_suffix second.2 ends)
  obtain ⟨equal, front⟩ :=
    @append_cancel _ code apart front back ⟨first, firstPlain⟩ ⟨second, secondPlain⟩ same
  exact ⟨congrArg Subtype.val equal, front⟩

/-- No stage ends in what an absent region begins with. -/
theorem stage_ne_append_no (stage : Option Stage) (front back : List Char) :
    front ++ part (stageName stage) ≠ back ++ ['_', 'n', 'o'] := by
  intro same
  have last := congrArg List.getLast? same
  rcases stage with - | stage
  · simp [part, stageName, noStage] at last
  · cases stage <;> simp [part, stageName, Stage.name] at last

/-- After a stage, a region without underscores is not taken for an absent one. -/
theorem region_ne_absent (plain : '_' ∉ first.toList) (stage : Option Stage) :
    front ++ part (stageName stage) ++ part first ≠ back ++ part noRegion := by
  intro same
  have absent : part noRegion = ['_', 'n', 'o'] ++ part "region" := rfl
  rw [absent, ← List.append_assoc] at same
  have ended := (part_cancel plain (by decide) same).2
  exact stage_ne_append_no stage front back ended

/-- After a stage, regions without underscores, and absent ones, are recognised at the end. -/
theorem region_cancel {stage other : Option Stage} {region second : Option String}
    (plain : ∀ text ∈ region, '_' ∉ text.toList) (secondPlain : ∀ text ∈ second, '_' ∉ text.toList)
    (same : front ++ part (stageName stage) ++ part (region.getD noRegion) =
      back ++ part (stageName other) ++ part (second.getD noRegion)) :
    region = second ∧ front ++ part (stageName stage) = back ++ part (stageName other) := by
  cases region with
  | none =>
    cases second with
    | none => exact ⟨rfl, List.append_cancel_right same⟩
    | some text => exact absurd same.symm (region_ne_absent (secondPlain text rfl) other)
  | some text =>
    cases second with
    | none => exact absurd same (region_ne_absent (plain text rfl) stage)
    | some otherText =>
      obtain ⟨rfl, fronts⟩ := part_cancel (plain text rfl) (secondPlain otherText rfl) same
      exact ⟨rfl, fronts⟩

end Regions

/-- Keys whose regions have no underscores have the same id only if they are the same. -/
theorem id_eq_iff {first second : LockKey}
    (firstPlain : ∀ region ∈ first.region, '_' ∉ region.toList)
    (secondPlain : ∀ region ∈ second.region, '_' ∉ region.toList) :
    first.id = second.id ↔ first = second := by
  refine ⟨fun same => ?_, congrArg id⟩
  have texts := congrArg String.toList same
  rw [toList_id, toList_id] at texts
  obtain ⟨region, stages⟩ := region_cancel firstPlain secondPlain texts
  obtain ⟨stage, scopes⟩ := append_cancel stage_eq_of_suffix stages
  obtain ⟨scope, items⟩ := append_cancel scope_eq_of_suffix scopes
  have item : first.item = second.item := String.toList_inj.mp items
  cases first
  cases second
  simp_all

/-- A region that reads like the end of an absent one is told apart from it. -/
theorem id_eq_iff_region :
    let absent : LockKey := ⟨"sales_dataset", .catalogSyncResource, none, none⟩
    let present : LockKey := { absent with region := some "region" }
    (∀ region ∈ absent.region, '_' ∉ region.toList) ∧
      (∀ region ∈ present.region, '_' ∉ region.toList) ∧ absent.id ≠ present.id := by
  intro absent present
  have absentPlain : ∀ region ∈ absent.region, '_' ∉ region.toList := by simp [absent]
  have presentPlain : ∀ region ∈ present.region, '_' ∉ region.toList := by simp [present]
  have different : absent ≠ present := by decide
  exact ⟨absentPlain, presentPlain, fun same =>
    different ((id_eq_iff absentPlain presentPlain).mp same)⟩

/-- Two keys differ in one component and in no other. -/
inductive DifferOnce : LockKey → LockKey → Prop where
  /-- The items differ. -/
  | item {key : LockKey} {item : String} (different : key.item ≠ item) :
      DifferOnce key { key with item }
  /-- The scopes differ. -/
  | scope {key : LockKey} {scope : LockScope} (different : key.scope ≠ scope) :
      DifferOnce key { key with scope }
  /-- The regions differ; one of them may be missing. -/
  | region {key : LockKey} {region : Option String} (different : key.region ≠ region) :
      DifferOnce key { key with region }
  /-- The stages differ; one of them may be missing. -/
  | stage {key : LockKey} {stage : Option Stage} (different : key.stage ≠ stage) :
      DifferOnce key { key with stage }

/-- One region is absent, and the other one reads like what stands for an absent one. -/
def ReadsAbsent (first second : Option String) : Prop :=
  (first = none ∧ second = some noRegion) ∨ (first = some noRegion ∧ second = none)

/-- A region does not read like its own absence. -/
theorem not_readsAbsent_self (region : Option String) : ¬ ReadsAbsent region region := by
  rintro (⟨rfl, absent⟩ | ⟨rfl, absent⟩) <;> cases absent

/-- Different regions have the same text only if one reads like the absence of the other. -/
theorem getD_eq_iff_readsAbsent {first second : Option String} (different : first ≠ second) :
    first.getD noRegion = second.getD noRegion ↔ ReadsAbsent first second := by
  rcases first with - | first <;> rcases second with - | second
  · exact absurd rfl different
  · simp [ReadsAbsent, eq_comm]
  · simp [ReadsAbsent]
  · have texts : first ≠ second := fun same => different (congrArg some same)
    simp [ReadsAbsent, texts]

/-- Keys that differ in one component have the same id only if the component is the region, absent in
one of them and reading like an absent one in the other. -/
theorem id_eq_iff_of_differOnce {first second : LockKey} (differ : DifferOnce first second) :
    first.id = second.id ↔ ReadsAbsent first.region second.region := by
  have texts : first.id = second.id ↔ first.id.toList = second.id.toList :=
    String.toList_inj.symm
  rw [texts, toList_id, toList_id]
  cases differ with
  | item different =>
    refine iff_of_false (fun same => different ?_) (not_readsAbsent_self _)
    exact String.toList_inj.mp (by simpa using same)
  | @scope scope different =>
    refine iff_of_false (fun same => different (scope_eq_of_suffix _ _ ?_)) (not_readsAbsent_self _)
    have parts : part first.scope.name = part scope.name := by simpa using same
    rw [parts]
  | @stage stage different =>
    refine iff_of_false (fun same => different (stage_eq_of_suffix _ _ ?_)) (not_readsAbsent_self _)
    have parts : part (stageName first.stage) = part (stageName stage) := by simpa using same
    rw [parts]
  | region different =>
    rw [← getD_eq_iff_readsAbsent different]
    simp [part, String.toList_inj]

/-- A stage that is absent is told apart from a given one, also in front of an unusual region. -/
theorem id_eq_iff_of_differOnce_stage :
    let absent : LockKey := ⟨"sales_dataset", .dataset, some noRegion, none⟩
    let given : LockKey := { absent with stage := some .dev }
    DifferOnce absent given ∧ absent.id ≠ given.id := by
  intro absent given
  have differ : DifferOnce absent given := .stage (by decide)
  exact ⟨differ, fun same =>
    not_readsAbsent_self _ ((id_eq_iff_of_differOnce differ).mp same)⟩

/-- A region can read like what stands for an absent one; then the ids are the same. -/
theorem id_of_region_reading_absent :
    let absent : LockKey := ⟨"sales", .dataset, none, none⟩
    let present : LockKey := { absent with region := some noRegion }
    DifferOnce absent present ∧ absent.id = present.id := by
  intro absent present
  exact ⟨.region (by decide), rfl⟩

end LockKey

end ControlPlane
