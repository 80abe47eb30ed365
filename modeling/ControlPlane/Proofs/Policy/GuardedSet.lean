import ControlPlane.Proofs.Policy.GuardStatement

/-!
# The guarded set through edits

Whatever the statements of a document are, edits of its protection act on it as unions and
differences act on its guarded set (`edits_act_on_set`), and leave all other statements alone. An
edit that fails or changes nothing leaves the whole document as it is.

A guard statement without resources is never written, so none appears in a document that has none.
Of several guard statements only the first counts: it is the one that is read and rewritten.
-/
namespace ControlPlane.Protection

variable {document edited : PolicyDocument} {principal : String} {edit : Edit}

/-- The document in effect after an edit. -/
def Edit.next (edit : Edit) (document : PolicyDocument) (principal : String) : PolicyDocument :=
  match edit.apply document principal with
  | .ok (some edited) => edited
  | _ => document

/-- The document in effect after edits, each with the principal that it is made for. -/
def after (document : PolicyDocument) (edits : List (Edit × String)) : PolicyDocument :=
  edits.foldl (fun document edit => edit.1.next document edit.2) document

/-- A guard statement guards something, if there is one. -/
def Filled (document : PolicyDocument) : Prop :=
  document.hasSid sid = true → ∃ name, name ∈ resources document

/-- What an edit does to the document that earlier edits have made of one, and to its guarded
set. -/
structure ActsOnSet (start : PolicyDocument) (earlier : List (Edit × String)) (edit : Edit)
    (principal : String) : Prop where
  /-- Unless the edit fails, the guarded set changes as it says. -/
  guarded : (∀ error, edit.apply (after start earlier) principal ≠ .error error) →
    resources (after start (earlier ++ [(edit, principal)])) =
      edit.change (resources (after start earlier))
  /-- The edit answers nothing exactly if the guarded set would stay the same. -/
  unchanged : edit.apply (after start earlier) principal = .ok none ↔
    edit.change (resources (after start earlier)) = resources (after start earlier)
  /-- The other statements are the ones of the start, in their order. -/
  others : (after start (earlier ++ [(edit, principal)])).others sid = start.others sid
  /-- The guard statement is dropped once nothing is guarded any more. -/
  dropped : ∀ edited, edit.apply (after start earlier) principal = .ok (some edited) →
    edit.change (resources (after start earlier)) = NameSet.empty → edited.hasSid sid = false
  /-- If a guard statement guarded something at the start, it still does. -/
  filled : Filled start → Filled (after start (earlier ++ [(edit, principal)]))
  /-- If all identifiers are different, no guard statement without resources is written. -/
  written : start.UniqueSids → ∀ edited,
    edit.apply (after start earlier) principal = .ok (some edited) →
      ∀ guard ∈ edited.statements, guard.sid? = some sid → ∃ name, name ∈ guard.resources

section Step

/-- An edit that succeeds writes the guard statement for the changed set, or deletes it. -/
theorem apply_cases (applied : edit.apply document principal = .ok (some edited)) :
    let guarded := edit.change (resources document)
    ((∃ name, name ∈ guarded) ∧ edited = document.put (statement principal guarded)) ∨
      (guarded = NameSet.empty ∧ edited = document.without sid) := by
  intro guarded
  obtain ⟨filled, same⟩ | ⟨empty, same⟩ := candidate?_cases (candidate?_of_apply applied)
  · exact .inl ⟨NameSet.isEmpty_eq_false_iff.mp filled, same⟩
  · exact .inr ⟨NameSet.eq_empty_of_isEmpty empty, same⟩

/-- An edit either leaves the document in effect, or answers the next one. -/
theorem next_cases (edit : Edit) (document : PolicyDocument) (principal : String) :
    edit.next document principal = document ∨
      edit.apply document principal = .ok (some (edit.next document principal)) := by
  unfold Edit.next
  cases edit.apply document principal with
  | error error => exact .inl rfl
  | ok answer => cases answer with
    | none => exact .inl rfl
    | some edited => exact .inr rfl

/-- The document that an edit answers guards the changed set. -/
theorem resources_of_apply (applied : edit.apply document principal = .ok (some edited)) :
    resources edited = edit.change (resources document) := by
  obtain ⟨-, rfl⟩ | ⟨empty, rfl⟩ := apply_cases applied
  · rw [resources_of_statement? (PolicyDocument.statement?_put sid?_statement),
      resources_statement]
  · rw [empty, resources_of_none PolicyDocument.statement?_without]

/-- Unless it fails, an edit changes the guarded set as it says. -/
theorem resources_next (succeeds : ∀ error, edit.apply document principal ≠ .error error) :
    resources (edit.next document principal) = edit.change (resources document) := by
  obtain same | applied := next_cases edit document principal
  · cases answered : edit.apply document principal with
    | error error => exact absurd answered (succeeds error)
    | ok answer => cases answer with
      | none => rw [same, apply_eq_none_iff.mp answered]
      | some edited => simpa [Edit.next, answered] using resources_of_apply answered
  · exact resources_of_apply applied

/-- An edit leaves the other statements as they are. -/
theorem others_next : (edit.next document principal).others sid = document.others sid := by
  obtain same | applied := next_cases edit document principal
  · rw [same]
  · obtain ⟨-, same⟩ | ⟨-, same⟩ := apply_cases applied
    · rw [same, PolicyDocument.others_put sid?_statement]
    · rw [same, PolicyDocument.others_without]

/-- The document that an edit answers has no guard statement, or guards something. -/
theorem filled_of_apply (applied : edit.apply document principal = .ok (some edited)) :
    Filled edited := by
  intro present
  have guarded := resources_of_apply applied
  obtain ⟨filled, -⟩ | ⟨-, rfl⟩ := apply_cases applied
  · rwa [guarded]
  · rw [PolicyDocument.hasSid_eq_false_iff.mpr PolicyDocument.statement?_without] at present
    cases present

/-- An edit does not empty the guard statement. -/
theorem filled_next (filled : Filled document) : Filled (edit.next document principal) := by
  obtain same | applied := next_cases edit document principal
  · rwa [same]
  · exact filled_of_apply applied

/-- The document that an edit answers has different identifiers if the edited one has. -/
theorem uniqueSids_of_apply (unique : document.UniqueSids)
    (applied : edit.apply document principal = .ok (some edited)) : edited.UniqueSids := by
  obtain ⟨-, rfl⟩ | ⟨-, rfl⟩ := apply_cases applied
  · exact unique.put sid?_statement
  · exact unique.without sid

/-- An edit keeps the identifiers different. -/
theorem uniqueSids_next (unique : document.UniqueSids) :
    (edit.next document principal).UniqueSids := by
  obtain same | applied := next_cases edit document principal
  · rwa [same]
  · exact uniqueSids_of_apply unique applied

end Step

/-- What holds of a document and is kept by each edit holds after any edits. -/
theorem after_induction (holds : PolicyDocument → Prop) (initial : holds document)
    (step : ∀ document edit principal, holds document →
      holds (Edit.next edit document principal))
    (edits : List (Edit × String)) : holds (after document edits) := by
  induction edits generalizing document with
  | nil => exact initial
  | cons first rest ih => exact ih (step document first.1 first.2 initial)

/-- Edits act on a document as unions and differences do on its guarded set. -/
theorem edits_act_on_set (document : PolicyDocument) (earlier : List (Edit × String))
    (edit : Edit) (principal : String) : ActsOnSet document earlier edit principal := by
  have last : after document (earlier ++ [(edit, principal)]) =
      edit.next (after document earlier) principal := List.foldl_append
  constructor
  case guarded =>
    rw [last]
    exact resources_next
  case unchanged => exact apply_eq_none_iff
  case others =>
    refine after_induction (fun other => other.others sid = document.others sid) rfl ?_ _
    exact fun _ _ _ same => others_next.trans same
  case dropped =>
    intro edited applied nothing
    obtain ⟨⟨name, member⟩, -⟩ | ⟨-, rfl⟩ := apply_cases applied
    · rw [nothing] at member
      exact absurd member (NameSet.not_mem_empty name)
    · exact PolicyDocument.hasSid_eq_false_iff.mpr PolicyDocument.statement?_without
  case filled => exact fun filled => after_induction Filled filled (fun _ _ _ => filled_next) _
  case written =>
    intro unique edited applied guard member named
    have before : (after document earlier).UniqueSids :=
      after_induction PolicyDocument.UniqueSids unique (fun _ _ _ => uniqueSids_next) _
    -- with different identifiers the guard statement is the one that is found
    have found := PolicyDocument.statement?_of_mem (uniqueSids_of_apply before applied) member named
    have filled := filled_of_apply applied (by rw [PolicyDocument.hasSid, found]; rfl)
    rwa [resources_of_statement? found] at filled

end ControlPlane.Protection
