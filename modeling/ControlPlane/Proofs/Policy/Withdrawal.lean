import ControlPlane.Proofs.Policy.GuardedSet

/-!
# What unprotecting takes away

The guard statement of a document is the first one with the identifier of guards; the guarded set is
what it lists. A document is meant to have no other statement with this identifier, but one that is
read may have. While something of the guarded set is left, the others stay as they are; once nothing
is left, all statements with the identifier are deleted, so that the guarded set really is empty
(`second_guard_dropped`). In no other case is more taken away than asked (`unprotecting_keeps`).
-/
namespace ControlPlane

namespace PolicyDocument

variable {sid : String} {statement : Statement} {document : PolicyDocument}

/-- The statements that have an identifier. -/
def named (document : PolicyDocument) (sid : String) : List Statement :=
  document.statements.filter fun statement => statement.sid? = some sid

/-- The first one of them is the one that is found. -/
theorem head?_named : (document.named sid).head? = document.statement? sid := List.head?_filter

/-- A statement that is put takes the place of the first one. -/
theorem named_put (identified : statement.sid? = some sid) :
    (document.put statement).named sid = statement :: (document.named sid).tail := by
  unfold named put
  rw [identified]
  induction document.statements with
  | nil => simp [replaceFirst, identified]
  | cons first rest ih =>
    by_cases same : first.sid? = some sid
    · simp [replaceFirst, same, identified]
    · simpa [replaceFirst, same] using ih

/-- No statement of an identifier that is deleted is left. -/
theorem named_without : (document.without sid).named sid = [] := by
  unfold named without
  simp

end PolicyDocument

namespace Protection

variable {document edited : PolicyDocument} {principal name : String} {set removed : NameSet}

/-- Some statement with the identifier of guards lists a resource. -/
def IsGuarded (document : PolicyDocument) (name : String) : Prop :=
  ∃ guard ∈ document.named sid, name ∈ guard.resources

/-- Whether a resource is guarded can be decided. -/
instance (document : PolicyDocument) (name : String) : Decidable (IsGuarded document name) :=
  inferInstanceAs (Decidable (∃ guard ∈ document.named sid, name ∈ guard.resources))

/-- Guarded is what the first guard statement lists, and what the others list. -/
theorem isGuarded_iff : IsGuarded document name ↔
    name ∈ resources document ∨ ∃ guard ∈ (document.named sid).tail, name ∈ guard.resources := by
  unfold IsGuarded
  cases found : document.named sid with
  | nil =>
    have absent : document.statement? sid = none := by
      rw [← PolicyDocument.head?_named, found, List.head?_nil]
    simp [resources_of_none absent]
  | cons first rest =>
    have known : document.statement? sid = some first := by
      rw [← PolicyDocument.head?_named, found, List.head?_cons]
    simp [resources_of_statement? known]

/-- A guard statement that is written guards its resources, and the others guard theirs as
before. -/
theorem isGuarded_put : IsGuarded (document.put (statement principal set)) name ↔
    name ∈ set ∨ ∃ guard ∈ (document.named sid).tail, name ∈ guard.resources := by
  unfold IsGuarded
  rw [PolicyDocument.named_put sid?_statement]
  simp [resources_statement]

/-- Nothing is guarded once the guard statements are deleted. -/
theorem not_isGuarded_without : ¬ IsGuarded (document.without sid) name := by
  unfold IsGuarded
  simp [PolicyDocument.named_without]

/-- If all identifiers are different, guarded is what the guard statement lists. -/
theorem mem_resources_of_isGuarded (unique : document.UniqueSids)
    (guarded : IsGuarded document name) : name ∈ resources document := by
  obtain ⟨guard, member, listed⟩ := guarded
  obtain ⟨member, identified⟩ := List.mem_filter.mp member
  have found := PolicyDocument.statement?_of_mem unique member (of_decide_eq_true identified)
  rwa [resources_of_statement? found]

/-- While something is left of the guarded set, only what is asked for is taken away. -/
theorem isGuarded_of_apply
    (applied : (Edit.unprotect removed).apply document principal = .ok (some edited))
    (left : ∃ name ∈ resources document, name ∉ removed) (apart : name ∉ removed)
    (guarded : IsGuarded document name) : IsGuarded edited name := by
  obtain ⟨-, rfl⟩ | ⟨empty, -⟩ := apply_cases applied
  · rw [isGuarded_put]
    refine (isGuarded_iff.mp guarded).imp_left fun member => ?_
    exact NameSet.mem_difference.mpr ⟨member, apart⟩
  · obtain ⟨other, member, outside⟩ := left
    have remains : other ∈ (Edit.unprotect removed).change (resources document) :=
      NameSet.mem_difference.mpr ⟨member, outside⟩
    rw [empty] at remains
    exact absurd remains (NameSet.not_mem_empty other)

/-- If nothing is left of the guarded set, all guard statements are deleted. -/
theorem eq_without_of_apply
    (applied : (Edit.unprotect removed).apply document principal = .ok (some edited))
    (covered : ∀ name ∈ resources document, name ∈ removed) : edited = document.without sid := by
  obtain ⟨⟨name, remains⟩, -⟩ | ⟨-, same⟩ := apply_cases applied
  · obtain ⟨member, outside⟩ := NameSet.mem_difference.mp remains
    exact absurd (covered name member) outside
  · exact same

/-- A policy with two guard statements. -/
def doubledText : String :=
  "\x7b\"Statement\":[\x7b\"Sid\":\"ResourceLinkDeleteDenyManagedByLakehub\"," ++
    "\"Effect\":\"Deny\",\"Resource\":\"db/sales\"\x7d," ++
    "\x7b\"Sid\":\"ResourceLinkDeleteDenyManagedByLakehub\"," ++
    "\"Effect\":\"Deny\",\"Resource\":\"db/events\"\x7d]\x7d"

/-- If all that the first guard statement lists is unprotected, the second one is dropped as
well. -/
theorem second_guard_dropped :
    let removed := NameSet.ofList ["db/sales"]
    ∃ document edited, PolicyDocument.read doubledText none none = .ok document ∧
      (Edit.unprotect removed).apply document "sync" = .ok (some edited) ∧
        "db/events" ∉ removed ∧ IsGuarded document "db/events" ∧
          ¬ IsGuarded edited "db/events" := by
  intro removed
  have computed : ((PolicyDocument.read doubledText none none).toOption.any fun document =>
      ((Edit.unprotect removed).apply document "sync").toOption.join.any fun edited =>
        "db/events" ∉ removed ∧ IsGuarded document "db/events" ∧
          ¬ IsGuarded edited "db/events") = true := by decide +kernel
  cases given : PolicyDocument.read doubledText none none with
  | error error => simp [given, Except.toOption] at computed
  | ok document =>
    cases applied : (Edit.unprotect removed).apply document "sync" with
    | error error => simp [given, applied, Except.toOption] at computed
    | ok answer => cases answer with
      | none => simp [given, applied, Except.toOption] at computed
      | some edited =>
        have facts := by simpa [given, applied, Except.toOption] using computed
        exact ⟨document, edited, rfl, applied, facts⟩

/-- Unprotecting takes away no more than asked, unless it is asked for the whole guarded set: then
all guard statements are dropped, and what the others list with them. What is left of the guarded
set stays guarded, and a document whose identifiers are all different has nothing else to lose. -/
theorem unprotecting_keeps
    (applied : (Edit.unprotect removed).apply document principal = .ok (some edited)) :
    ((∀ name, name ∉ removed → IsGuarded document name → IsGuarded edited name) ↔
      (∃ name ∈ resources document, name ∉ removed) ∨
        ∀ name, IsGuarded document name → name ∈ removed) ∧
    ((∀ name ∈ resources document, name ∈ removed) → edited.hasSid sid = false) ∧
    (∀ name, name ∉ removed → name ∈ resources document → name ∈ resources edited) ∧
    (document.UniqueSids →
      ∀ name, name ∉ removed → IsGuarded document name → IsGuarded edited name) := by
  have guarded : ∀ name, name ∉ removed → name ∈ resources document → name ∈ resources edited := by
    intro name apart member
    rw [resources_of_apply applied]
    exact NameSet.mem_difference.mpr ⟨member, apart⟩
  have dropped : (∀ name ∈ resources document, name ∈ removed) → edited.hasSid sid = false := by
    intro covered
    rw [eq_without_of_apply applied covered]
    exact PolicyDocument.hasSid_eq_false_iff.mpr PolicyDocument.statement?_without
  refine ⟨⟨fun keeps => ?_, ?_⟩, dropped, guarded, fun unique name apart before => ?_⟩
  · by_cases left : ∃ name ∈ resources document, name ∉ removed
    · exact .inl left
    · have covered : ∀ name ∈ resources document, name ∈ removed := by simpa using left
      refine .inr fun name before => ?_
      by_contra apart
      have after := keeps name apart before
      rw [eq_without_of_apply applied covered] at after
      exact not_isGuarded_without after
  · rintro (left | all) name apart before
    · exact isGuarded_of_apply applied left apart before
    · exact absurd (all name before) apart
  · have member := guarded name apart (mem_resources_of_isGuarded unique before)
    exact isGuarded_iff.mpr (.inl member)

/-- A second guard statement stays as it is while something is left of the first one. -/
theorem unprotecting_keeps_second :
    let document := PolicyDocument.ofStatements PolicyDocument.defaultVersion
      [statement "sync" (NameSet.ofList ["db/sales", "db/events"]),
        statement "audit" (NameSet.ofList ["db/logs"])] none
    let removed := NameSet.ofList ["db/sales"]
    ∃ edited, (Edit.unprotect removed).apply document "sync" = .ok (some edited) ∧
      IsGuarded document "db/logs" ∧ IsGuarded edited "db/logs" ∧
        "db/events" ∈ resources edited := by
  intro document removed
  have new : ((Edit.unprotect removed).apply document "sync").toOption.join.isSome = true := by
    decide +kernel
  have left : ∃ name ∈ resources document, name ∉ removed := ⟨"db/events", by decide +kernel⟩
  have before : IsGuarded document "db/logs" := by decide +kernel
  cases applied : (Edit.unprotect removed).apply document "sync" with
  | error error => simp [applied, Except.toOption] at new
  | ok answer => cases answer with
    | none => simp [applied, Except.toOption] at new
    | some edited =>
      obtain ⟨keeps, -, guarded, -⟩ := unprotecting_keeps applied
      exact ⟨edited, rfl, before, keeps.mpr (.inl left) "db/logs" (by decide +kernel) before,
        guarded "db/events" (by decide +kernel) (by decide +kernel)⟩

end Protection

end ControlPlane
