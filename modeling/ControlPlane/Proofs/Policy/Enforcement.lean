import ControlPlane.Proofs.Policy.GuardedSet

/-!
# What a protected policy enforces

A protection is enforced by a statement that denies deletion of the resources to a principal
(`Enforces`). Whether there is anything to add is decided by the guarded set alone, that is by the
resources of the first guard statement. Its effect, its actions and its principals are not looked
at, so a guard for another principal stays as it is if it lists the resources already
(`guard_of_another_principal`). A guard that is written does enforce the protection
(`protect_guards`).
-/
namespace ControlPlane

/-- The principals of one type that a statement names. -/
def Statement.principals (statement : Statement) (kind : String) : List String :=
  match Entries.find? statement.principalMembers kind with
  | some value => value.stringOrList
  | none => []

namespace Protection

/-- A guard statement denies deletion to a principal. -/
structure Denies (guard : Statement) (principal : String) : Prop where
  /-- The effect of the statement is to deny. -/
  effect : (guard.find? "Effect").bind Json.asString? = some "Deny"
  /-- The statement names the deletion. -/
  action : guard.names action = true
  /-- The statement names the principal. -/
  principal : principal ∈ guard.principals "AWS"

/-- Whether a guard denies deletion can be decided. -/
instance (guard : Statement) (principal : String) : Decidable (Denies guard principal) :=
  decidable_of_iff
    ((guard.find? "Effect").bind Json.asString? = some "Deny" ∧ guard.names action = true ∧
      principal ∈ guard.principals "AWS")
    ⟨fun ⟨effect, action, principal⟩ => ⟨effect, action, principal⟩,
      fun ⟨effect, action, principal⟩ => ⟨effect, action, principal⟩⟩

/-- A guard statement lists resources. -/
structure Lists (guard : Statement) (wanted : NameSet) : Prop where
  /-- The statement has the identifier of guards. -/
  named : guard.sid? = some sid
  /-- The statement lists each of the resources. -/
  resources : ∀ name ∈ wanted, name ∈ guard.resources

/-- Whether a guard lists resources can be decided. -/
instance (guard : Statement) (wanted : NameSet) : Decidable (Lists guard wanted) :=
  decidable_of_iff (guard.sid? = some sid ∧ wanted.subset guard.resources = true)
    ⟨fun ⟨named, within⟩ => ⟨named, NameSet.subset_iff.mp within⟩,
      fun ⟨named, within⟩ => ⟨named, NameSet.subset_iff.mpr within⟩⟩

/-- A document enforces the protection of resources against a principal. -/
def Enforces (document : PolicyDocument) (principal : String) (wanted : NameSet) : Prop :=
  ∃ guard ∈ document.statements, Lists guard wanted ∧ Denies guard principal

/-- Whether a document enforces a protection can be decided. -/
instance (document : PolicyDocument) (principal : String) (wanted : NameSet) :
    Decidable (Enforces document principal wanted) :=
  inferInstanceAs (Decidable (∃ guard ∈ document.statements, _))

variable {document edited : PolicyDocument} {principal : String} {set wanted added : NameSet}
  {guard : Statement}

/-- The guard statement denies deletion to the principal that it is written for. -/
theorem denies_statement : Denies (statement principal set) principal := by
  constructor
  case effect => simp [find?_statement, Json.asString?]
  case action =>
    simp [Statement.names, Statement.strings, find?_statement, Json.stringOrList, Json.asString?]
  case principal =>
    simp [Statement.principals, Statement.principalMembers, find?_statement, Entries.find?,
      Json.stringOrList, Json.asString?]

/-- The document that protecting resources answers enforces it. -/
theorem enforces_of_apply (wanted : ∃ name, name ∈ added)
    (applied : (Edit.protect added).apply document principal = .ok (some edited)) :
    Enforces edited principal added := by
  obtain ⟨-, rfl⟩ | ⟨empty, -⟩ := apply_cases applied
  · obtain ⟨member, named⟩ := PolicyDocument.mem_of_statement?
      (PolicyDocument.statement?_put sid?_statement)
    refine ⟨_, member, ⟨named, fun name asked => ?_⟩, denies_statement⟩
    rw [resources_statement]
    exact NameSet.mem_union.mpr (.inl asked)
  · obtain ⟨name, member⟩ := wanted
    have guarded : name ∈ (Edit.protect added).change (resources document) :=
      NameSet.mem_union.mpr (.inl member)
    rw [empty] at guarded
    exact absurd guarded (NameSet.not_mem_empty name)

/-- If resources are guarded, the first guard statement lists them. -/
theorem exists_guard (wanted : ∃ name, name ∈ added)
    (covered : ∀ name ∈ added, name ∈ resources document) :
    ∃ guard, document.statement? sid = some guard ∧ Lists guard added := by
  cases found : document.statement? sid with
  | none =>
    obtain ⟨name, member⟩ := wanted
    have guarded := covered name member
    rw [resources_of_none found] at guarded
    exact absurd guarded (NameSet.not_mem_empty name)
  | some guard =>
    obtain ⟨-, named⟩ := PolicyDocument.mem_of_statement? found
    exact ⟨guard, rfl, named, by rwa [← resources_of_statement? found]⟩

/-- A policy whose guard statement is for another principal. -/
def foreignText : String :=
  "\x7b\"Statement\":\x7b\"Sid\":\"ResourceLinkDeleteDenyManagedByLakehub\",\"Effect\":\"Deny\"," ++
    "\"Action\":\"glue:DeleteDatabase\",\"Principal\":\x7b\"AWS\":\"former\"\x7d," ++
    "\"Resource\":\"db/sales\"\x7d\x7d"

/-- A guard statement for another principal is left as it is if it lists the resources: there is
nothing to add, although nothing is denied to the principal. -/
theorem guard_of_another_principal :
    let added := NameSet.ofList ["db/sales"]
    ∃ document, PolicyDocument.read foreignText none none = .ok document ∧
      (Edit.protect added).apply document "sync" = .ok none ∧ ¬ Enforces document "sync" added := by
  intro added
  have computed : (match PolicyDocument.read foreignText none none with
      | .ok document =>
        added.subset (resources document) && !decide (Enforces document "sync" added)
      | .error _ => false) = true := by decide +kernel
  cases given : PolicyDocument.read foreignText none none with
  | error error => simp [given] at computed
  | ok document =>
    simp only [given, Bool.and_eq_true, Bool.not_eq_true', decide_eq_false_iff_not] at computed
    exact ⟨document, rfl, apply_eq_none_iff.mpr (NameSet.union_eq_self_iff.mpr computed.1),
      computed.2⟩

/-- After resources have been protected they are listed by a guard statement. If it is a new one, it
denies their deletion to the principal. Nothing is answered exactly if the guarded set has them all,
and then they are protected against the principal if the guard that is there denies it. -/
theorem protect_guards {answer : Option PolicyDocument} (wanted : ∃ name, name ∈ added)
    (applied : (Edit.protect added).apply document principal = .ok answer) :
    (∃ guard ∈ (answer.getD document).statements, Lists guard added) ∧
      (∀ edited, answer = some edited → Enforces edited principal added) ∧
      (answer = none ↔ ∀ name ∈ added, name ∈ resources document) ∧
      ∀ guard, document.statement? sid = some guard → Denies guard principal →
        Enforces (answer.getD document) principal added := by
  have covered : answer = none ↔ ∀ name ∈ added, name ∈ resources document := by
    rw [← NameSet.subset_iff, ← NameSet.union_eq_self_iff]
    refine Iff.trans ?_ (@apply_eq_none_iff principal document (.protect added))
    rw [applied]
    simp
  cases answer with
  | none =>
    obtain ⟨guard, found, lists⟩ := exists_guard wanted (covered.mp rfl)
    obtain ⟨member, -⟩ := PolicyDocument.mem_of_statement? found
    refine ⟨⟨guard, member, lists⟩, by simp, covered, fun other known denies => ?_⟩
    obtain rfl : guard = other := Option.some.inj (found.symm.trans known)
    exact ⟨guard, member, lists, denies⟩
  | some edited =>
    have enforces := enforces_of_apply wanted applied
    have listed : ∃ guard ∈ edited.statements, Lists guard added :=
      enforces.imp fun _ held => ⟨held.1, held.2.1⟩
    refine ⟨listed, fun other same => ?_, covered, fun _ _ _ => enforces⟩
    obtain rfl := Option.some.inj same
    exact enforces

/-- A guard for another principal is rewritten when a resource is added to it. -/
theorem protect_guards_formerly_other :
    let sales := PolicyDocument.ofStatements PolicyDocument.defaultVersion
      [statement "former" (NameSet.ofList ["db/sales"])] none
    let added := NameSet.ofList ["db/sales", "db/events"]
    (∃ name, name ∈ added) ∧ ∃ edited, (Edit.protect added).apply sales "sync" = .ok (some edited) ∧
      (∃ guard ∈ edited.statements, Lists guard added) ∧ Enforces edited "sync" added := by
  intro sales added
  have wanted : ∃ name, name ∈ added := ⟨"db/events", by decide +kernel⟩
  have new : ((Edit.protect added).apply sales "sync").toOption.join.isSome = true := by
    decide +kernel
  cases applied : (Edit.protect added).apply sales "sync" with
  | error error => simp [applied, Except.toOption] at new
  | ok answer => cases answer with
    | none => simp [applied, Except.toOption] at new
    | some edited =>
      obtain ⟨listed, enforced, -, -⟩ := protect_guards wanted applied
      exact ⟨wanted, edited, rfl, listed, enforced edited rfl⟩

end Protection

end ControlPlane
