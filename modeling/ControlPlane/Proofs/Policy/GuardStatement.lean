import ControlPlane.Policy.Protection
import ControlPlane.Proofs.Policy.Edits
import Mathlib.Data.List.Sort

/-!
# The guard statement

Sets of names with the same members are equal, so the set that is read back from a guard statement
is the one that was written. An edit of the protection is a change of the guarded set written back:
there is no candidate if the set stays the same (`candidate?_eq_none_iff`); otherwise the guard
statement is written for the changed set, or deleted with its last resource (`candidate?_cases`).
-/
namespace ControlPlane

namespace NameSet

variable {first second set : NameSet}

/-- The names of a set rise. -/
theorem pairwise_names (set : NameSet) : set.names.Pairwise (· < ·) :=
  List.pairwise_map.mpr set.members.ascending

/-- Sets with the same members are equal. -/
theorem eq_of_mem_iff (same : ∀ name, name ∈ first ↔ name ∈ second) : first = second := by
  have names : first.names = second.names :=
    first.pairwise_names.eq_of_mem_iff second.pairwise_names fun name => by simp [same]
  exact ext (List.map_injective_iff.mpr (fun _ _ equal => Prod.ext equal rfl) names)

/-- The set of the listed names of a set is the set itself. -/
@[simp] theorem ofList_names (set : NameSet) : ofList set.names = set :=
  eq_of_mem_iff fun name => by simp

/-- Adding changes nothing exactly if everything is there already. -/
theorem union_eq_self_iff : first.union second = first ↔ second.subset first = true := by
  rw [subset_iff]
  constructor
  · intro same name member
    rw [← same]
    exact mem_union.mpr (.inl member)
  · intro within
    exact eq_of_mem_iff fun name => by rw [mem_union]; exact ⟨(·.elim (within name) id), .inr⟩

/-- Taking away changes nothing exactly if nothing of it is there. -/
theorem difference_eq_self_iff :
    first.difference second = first ↔ first.disjoint second = true := by
  rw [disjoint_iff]
  constructor
  · intro same name member
    rw [← same] at member
    exact (mem_difference.mp member).2
  · intro apart
    exact eq_of_mem_iff fun name => by
      rw [mem_difference]; exact ⟨And.left, fun member => ⟨member, apart name member⟩⟩

/-- A set with a member is not empty. -/
theorem isEmpty_eq_false_iff : set.isEmpty = false ↔ ∃ name, name ∈ set := by
  rw [← Bool.not_eq_true, isEmpty_iff]
  simp

/-- The empty set has no members. -/
theorem eq_empty_of_isEmpty (empty : set.isEmpty = true) : set = NameSet.empty :=
  eq_of_mem_iff fun name => by simp [isEmpty_iff.mp empty name]

end NameSet

namespace Protection

variable {principal : String} {set : NameSet} {document candidate : PolicyDocument} {edit : Edit}

/-- What an edit does to the guarded set. -/
def Edit.change : Edit → NameSet → NameSet
  | .protect added, guarded => guarded.union added
  | .unprotect removed, guarded => guarded.difference removed

section Fields

/-- Strings are their own normal forms. -/
theorem normalizeItems_strings (names : List String) :
    Json.normalizeItems (names.map .string) = names.map .string := by
  induction names with
  | nil => rfl
  | cons first rest ih => simp [Json.normalizeItems, Json.normalize, ih]

/-- The five fields of the guard statement. -/
theorem members_statement (principal : String) (set : NameSet) :
    (statement principal set).members =
      [("Action", .array [.string action]), ("Effect", .string "Deny"),
        ("Principal", .object [("AWS", .array [.string principal])]),
        ("Resource", .array (set.names.map .string)), ("Sid", .string sid)] := by
  have written : (statement principal set).members =
      [("Action", .array [.string action]), ("Effect", .string "Deny"),
        ("Principal", .object [("AWS", .array [.string principal])]),
        ("Resource", .array (Json.normalizeItems (set.names.map .string))),
        ("Sid", .string sid)] := rfl
  rw [written, normalizeItems_strings]

/-- The values of the fields of the guard statement. -/
theorem find?_statement (principal : String) (set : NameSet) (key : String) :
    (statement principal set).find? key =
      if "Action" = key then some (.array [.string action])
      else if "Effect" = key then some (.string "Deny")
      else if "Principal" = key then some (.object [("AWS", .array [.string principal])])
      else if "Resource" = key then some (.array (set.names.map .string))
      else if "Sid" = key then some (.string sid)
      else none := by
  simp only [JsonObject.find?, members_statement, Entries.find?]

/-- The guard statement is known by its identifier. -/
theorem sid?_statement : (statement principal set).sid? = some sid := by
  simp [Statement.sid?, find?_statement, Json.asString?]

/-- The resources of the guard statement are the guarded ones. -/
theorem resources_statement : (statement principal set).resources = set := by
  have strings : Json.stringOrList (.array (set.names.map .string)) = set.names := by
    simp [Json.stringOrList, List.filterMap_map, Function.comp_def, Json.asString?]
  simp [Statement.resources, Statement.strings, find?_statement, strings]

end Fields

section Candidate

/-- The guarded set is read from the statement that is found. -/
theorem resources_of_statement? {guard : Statement}
    (found : document.statement? sid = some guard) : resources document = guard.resources := by
  simp [resources, found]

/-- Without a guard statement nothing is guarded. -/
theorem resources_of_none (absent : document.statement? sid = none) :
    resources document = NameSet.empty := by
  simp [resources, absent]

/-- There is nothing to write exactly if the guarded set would stay the same. -/
theorem candidate?_eq_none_iff :
    edit.candidate? document principal = none ↔
      edit.change (resources document) = resources document := by
  cases edit with
  | protect added =>
    have covered : added.isEmpty = true → added.subset (resources document) = true := fun empty =>
      NameSet.subset_iff.mpr fun name member => absurd member (NameSet.isEmpty_iff.mp empty name)
    simp only [Edit.candidate?, protected?, Edit.change, NameSet.union_eq_self_iff]
    grind
  | unprotect removed =>
    have apart : removed.isEmpty = true → (resources document).disjoint removed = true :=
      fun empty => NameSet.disjoint_iff.mpr fun name _ => NameSet.isEmpty_iff.mp empty name
    have unguarded (absent : document.hasSid sid = false) :
        (resources document).disjoint removed = true := by
      have nothing := resources_of_none (PolicyDocument.hasSid_eq_false_iff.mp absent)
      exact NameSet.disjoint_iff.mpr fun name member => by simp [nothing] at member
    simp only [Edit.candidate?, unprotected?, Edit.change, NameSet.difference_eq_self_iff]
    grind

/-- A candidate has the guard statement for the changed set, or none if nothing is guarded any
more. -/
theorem candidate?_cases (found : edit.candidate? document principal = some candidate) :
    let guarded := edit.change (resources document)
    (guarded.isEmpty = false ∧ candidate = document.put (statement principal guarded)) ∨
      (guarded.isEmpty = true ∧ candidate = document.without sid) := by
  intro guarded
  cases edit with
  | protect added =>
    simp only [Edit.candidate?, protected?] at found
    split at found
    · cases found
    · next changes =>
      obtain ⟨name, member⟩ : ∃ name, name ∈ added := by
        rw [← NameSet.isEmpty_eq_false_iff]
        grind
      have filled : ∃ name, name ∈ guarded := ⟨name, NameSet.mem_union.mpr (.inl member)⟩
      exact .inl ⟨NameSet.isEmpty_eq_false_iff.mpr filled, (Option.some.inj found).symm⟩
  | unprotect removed =>
    simp only [Edit.candidate?, unprotected?] at found
    split at found
    · cases found
    · split at found
      · next empty => exact .inr ⟨empty, (Option.some.inj found).symm⟩
      · next filled =>
        exact .inl ⟨Bool.not_eq_true _ |>.mp filled, (Option.some.inj found).symm⟩

/-- An edit answers nothing exactly if the guarded set would stay the same. -/
theorem apply_eq_none_iff :
    edit.apply document principal = .ok none ↔
      edit.change (resources document) = resources document := by
  rw [← @candidate?_eq_none_iff principal]
  unfold Edit.apply
  cases edit.candidate? document principal with
  | none => simp
  | some candidate => cases checked : candidate.check <;> simp [checked, Except.map]

/-- The document that an edit answers is its candidate. -/
theorem candidate?_of_apply (applied : edit.apply document principal = .ok (some candidate)) :
    edit.candidate? document principal = some candidate := by
  unfold Edit.apply at applied
  cases found : edit.candidate? document principal with
  | none => simp [found] at applied
  | some edited =>
    rw [found] at applied
    cases checked : edited.check with
    | error error => simp [checked, Except.map] at applied
    | ok result =>
      obtain rfl := PolicyDocument.eq_of_check checked
      simpa [checked, Except.map] using applied

end Candidate

end Protection

end ControlPlane
