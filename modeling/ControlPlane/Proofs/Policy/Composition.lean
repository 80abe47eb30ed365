import ControlPlane.Proofs.Policy.GuardedSet
import ControlPlane.Proofs.Policy.Shrinking

/-!
# Edits of a protection after one another

What an edit writes depends on the changed set only, and the last one that is written is what counts
(`guarding_guarding`). So two edits in a row that both succeed do what one edit with the union of
their resources does (`Composes.effect_of_effects`). Protecting in two steps succeeds if protecting at once
does, because the document in between lies within the last one; unprotecting in two steps may fail
in between, and so promises less (`edits_compose`).
-/
namespace ControlPlane

namespace PolicyDocument

variable {sid : String} {statement other : Statement}

/-- Of two statements that are put under one identifier, the last one counts. -/
theorem replaceFirst_replaceFirst (named : other.sid? = some sid) (statements : List Statement) :
    replaceFirst sid statement (replaceFirst sid other statements) =
      replaceFirst sid statement statements := by
  induction statements with
  | nil => simp [replaceFirst, named]
  | cons first rest ih =>
    by_cases same : first.sid? = some sid
    · simp [replaceFirst, same, named]
    · simp [replaceFirst, same, ih]

/-- Of two statements that are put under one identifier, the last one counts. -/
theorem put_put (otherNamed : other.sid? = some sid) (named : statement.sid? = some sid)
    (document : PolicyDocument) : (document.put other).put statement = document.put statement := by
  have statements : replaceFirst sid statement (replaceFirst sid other document.statements) =
      replaceFirst sid statement document.statements :=
    replaceFirst_replaceFirst otherNamed document.statements
  simp only [put, named, otherNamed, statements]

/-- A statement that is put and deleted again leaves what deleting leaves. -/
theorem without_put (named : statement.sid? = some sid) (document : PolicyDocument) :
    (document.put statement).without sid = document.without sid := by
  have statements : (document.put statement).others sid = document.others sid := others_put named
  exact congrArg (fun left => { document with statements := left }) statements

/-- There is nothing to delete after a deletion. -/
theorem without_without (document : PolicyDocument) (sid : String) :
    (document.without sid).without sid = document.without sid := by
  have statements : (document.without sid).others sid = document.others sid := others_without
  exact congrArg (fun left => { document with statements := left }) statements

end PolicyDocument

namespace Protection

variable {document edited : PolicyDocument} {principal : String} {set : NameSet}
  {edit first second both : Edit}

/-- The document in effect after an edit that succeeds: the same one if it is in effect already. -/
def Edit.effect (edit : Edit) (document : PolicyDocument) (principal : String) :
    Except PolicyError PolicyDocument :=
  (edit.apply document principal).map fun edited => edited.getD document

/-- The document in effect after two edits that succeed. -/
def effects (first second : Edit) (document : PolicyDocument) (principal : String) :
    Except PolicyError PolicyDocument := do
  let between ← first.effect document principal
  second.effect between principal

/-- The candidate that guards exactly a set. -/
def guarding (document : PolicyDocument) (principal : String) (set : NameSet) : PolicyDocument :=
  if set.isEmpty then document.without sid else document.put (statement principal set)

section Guarding

/-- The candidate guards the set. -/
theorem resources_guarding : resources (guarding document principal set) = set := by
  unfold guarding
  split
  · next empty =>
    rw [resources_of_none PolicyDocument.statement?_without, NameSet.eq_empty_of_isEmpty empty]
  · rw [resources_of_statement? (PolicyDocument.statement?_put sid?_statement),
      resources_statement]

/-- Of two sets the last one counts, unless the guard statement is deleted and made again: then it
may move to the end. -/
theorem guarding_guarding {other : NameSet} (kept : set.isEmpty = true → other.isEmpty = true) :
    guarding (guarding document principal set) principal other =
      guarding document principal other := by
  have named (set : NameSet) : (statement principal set).sid? = some sid := sid?_statement
  unfold guarding
  by_cases last : other.isEmpty = true
  · rw [if_pos last, if_pos last]
    split
    · exact PolicyDocument.without_without document sid
    · exact PolicyDocument.without_put (named set) document
  · have filled : ¬ set.isEmpty = true := fun empty => last (kept empty)
    rw [if_neg last, if_neg last, if_neg filled]
    exact PolicyDocument.put_put (named set) (named other) document

/-- The candidate for a part of a set that is not empty lies within that for the set. -/
theorem within_guarding {whole : NameSet} (filled : ¬ set.isEmpty = true)
    (within : set.subset whole = true) :
    PolicyDocument.Within (guarding document principal set)
      (guarding document principal whole) := by
  have fits := statement_fitsFor principal within
  have wholeFilled : ¬ whole.isEmpty = true := by
    intro empty
    refine filled (NameSet.isEmpty_iff.mpr fun name member => ?_)
    exact NameSet.isEmpty_iff.mp empty name (NameSet.subset_iff.mp within name member)
  unfold guarding
  rw [if_neg filled, if_neg wholeFilled]
  exact PolicyDocument.within_put_put sid?_statement sid?_statement fits document

end Guarding

section Effect

/-- An edit that changes nothing is in effect already. -/
theorem effect_of_unchanged (same : edit.change (resources document) = resources document) :
    edit.effect document principal = .ok document := by
  rw [Edit.effect, apply_eq_none_iff.mpr same]
  rfl

/-- An edit that changes the guarded set has the candidate for the changed set checked. -/
theorem effect_of_changed (changed : edit.change (resources document) ≠ resources document) :
    edit.effect document principal =
      (guarding document principal (edit.change (resources document))).check := by
  cases found : edit.candidate? document principal with
  | none => exact absurd (candidate?_eq_none_iff.mp found) changed
  | some candidate =>
    have same : candidate = guarding document principal (edit.change (resources document)) := by
      unfold guarding
      obtain ⟨filled, written⟩ | ⟨empty, deleted⟩ := candidate?_cases found
      · rw [if_neg (by simp [filled]), written]
      · rw [if_pos empty, deleted]
    rw [← same]
    simp only [Edit.effect, Edit.apply, found]
    cases candidate.check <;> rfl

/-- Edits that change the guarded set alike have the same effect. -/
theorem effect_congr {other : Edit}
    (alike : edit.change (resources document) = other.change (resources document)) :
    edit.effect document principal = other.effect document principal := by
  by_cases same : edit.change (resources document) = resources document
  · rw [effect_of_unchanged same, effect_of_unchanged (alike ▸ same)]
  · rw [effect_of_changed same, effect_of_changed (alike ▸ same), alike]

end Effect

/-- Where nothing is guarded after protecting resources, protecting them changed nothing. -/
theorem change_protect_of_isEmpty {added : NameSet}
    (empty : ((Edit.protect added).change set).isEmpty = true) :
    (Edit.protect added).change set = set := by
  refine NameSet.eq_of_mem_iff fun name => ?_
  have absent := NameSet.isEmpty_iff.mp empty name
  have before : name ∉ set := fun member => absent (NameSet.mem_union.mpr (.inr member))
  exact iff_of_false absent before

/-- An edit does what two edits do one after the other, and the second one takes nothing of the first
one back. -/
structure Composes (first second both : Edit) : Prop where
  /-- Both together change a set as one after the other does. -/
  change : ∀ set, both.change set = second.change (first.change set)
  /-- Where both together change nothing, the first one does not. -/
  onward : ∀ set, second.change (first.change set) = set → first.change set = set
  /-- Where the first one takes everything away, the second one leaves it so. -/
  emptied : ∀ set, first.change set ≠ set → (first.change set).isEmpty = true →
    (second.change (first.change set)).isEmpty = true

/-- Protecting resources and then others is protecting their union. -/
theorem composes_protect (first second : NameSet) :
    Composes (.protect first) (.protect second) (.protect (first.union second)) := by
  constructor
  case change =>
    intro set
    refine NameSet.eq_of_mem_iff fun name => ?_
    simp only [Edit.change, NameSet.mem_union]
    tauto
  case onward =>
    intro set same
    refine NameSet.union_eq_self_iff.mpr (NameSet.subset_iff.mpr fun name member => ?_)
    have guarded : name ∈ (set.union first).union second := by
      simp only [NameSet.mem_union, member, true_or, or_true]
    simp only [Edit.change] at same
    rwa [same] at guarded
  case emptied =>
    intro set changed empty
    exact absurd (change_protect_of_isEmpty empty) changed

/-- Unprotecting resources and then others is unprotecting their union. -/
theorem composes_unprotect (first second : NameSet) :
    Composes (.unprotect first) (.unprotect second) (.unprotect (first.union second)) := by
  constructor
  case change =>
    intro set
    refine NameSet.eq_of_mem_iff fun name => ?_
    simp only [Edit.change, NameSet.mem_difference, NameSet.mem_union]
    tauto
  case onward =>
    intro set same
    refine NameSet.eq_of_mem_iff fun name => ?_
    have left : name ∈ (set.difference first).difference second ↔ name ∈ set := by
      simp only [Edit.change] at same
      rw [same]
    simp only [NameSet.mem_difference] at left
    simp only [Edit.change, NameSet.mem_difference]
    tauto
  case emptied =>
    intro set _ empty
    refine NameSet.isEmpty_iff.mpr fun name member => ?_
    exact NameSet.isEmpty_iff.mp empty name (NameSet.mem_difference.mp member).1

/-- If the first edit changes nothing, both together are the second one. -/
theorem Composes.effects_of_unchanged (composes : Composes first second both)
    (same : first.change (resources document) = resources document) :
    effects first second document principal = both.effect document principal := by
  have alike : second.change (resources document) = both.change (resources document) := by
    rw [composes.change, same]
  rw [← effect_congr alike, effects, effect_of_unchanged same]
  rfl

/-- If the first edit changes something, its candidate has to pass the check on the way. -/
theorem Composes.effects_of_changed (composes : Composes first second both)
    (changed : first.change (resources document) ≠ resources document) :
    effects first second document principal =
      (guarding document principal (first.change (resources document))).check.bind
        fun _ => both.effect document principal := by
  have bothChange := composes.change (resources document)
  have bothChanged : both.change (resources document) ≠ resources document := fun same =>
    changed (composes.onward _ (bothChange ▸ same))
  have kept := composes.emptied _ changed
  rw [effects, effect_of_changed changed, effect_of_changed bothChanged, bothChange]
  generalize first.change (resources document) = between at kept ⊢
  have found : resources (guarding document principal between) = between := resources_guarding
  cases checked : (guarding document principal between).check with
  | error error => rfl
  | ok middle =>
    obtain rfl := PolicyDocument.eq_of_check checked
    change second.effect (guarding document principal between) principal =
      (guarding document principal (second.change between)).check
    by_cases same : second.change between = between
    · rw [effect_of_unchanged (found.symm ▸ same), same, checked]
    · rw [effect_of_changed (found.symm ▸ same), found, guarding_guarding kept]

/-- Two edits that succeed have the effect of both together. -/
theorem Composes.effect_of_effects (composes : Composes first second both)
    (done : effects first second document principal = .ok edited) :
    both.effect document principal = .ok edited := by
  by_cases same : first.change (resources document) = resources document
  · rwa [composes.effects_of_unchanged same] at done
  · rw [composes.effects_of_changed same] at done
    cases checked : (guarding document principal (first.change (resources document))).check with
    | error error =>
      rw [checked] at done
      cases done
    | ok between =>
      rw [checked] at done
      exact done

/-- Protecting in two steps succeeds if protecting at once does. -/
theorem effects_of_protect {first second : NameSet}
    (done : (Edit.protect (first.union second)).effect document principal = .ok edited) :
    effects (.protect first) (.protect second) document principal = .ok edited := by
  have composes := composes_protect first second
  by_cases same : (Edit.protect first).change (resources document) = resources document
  · rwa [composes.effects_of_unchanged same]
  · rw [composes.effects_of_changed same, done]
    have bothChange := composes.change (resources document)
    have changed : (Edit.protect (first.union second)).change (resources document) ≠
        resources document := fun alike => same (composes.onward _ (bothChange ▸ alike))
    rw [effect_of_changed changed] at done
    obtain ⟨-, rules⟩ := PolicyDocument.check_eq_ok_iff.mp done
    have filled : ¬ ((resources document).union first).isEmpty = true := fun empty =>
      same (change_protect_of_isEmpty empty)
    have part : ((resources document).union first).subset
        ((resources document).union (first.union second)) = true := by
      refine NameSet.subset_iff.mpr fun name member => ?_
      simp only [NameSet.mem_union] at member ⊢
      tauto
    have within : PolicyDocument.Within
        (guarding document principal ((resources document).union first))
        (guarding document principal ((resources document).union (first.union second))) :=
      within_guarding filled part
    have passed := within.check rules
    simp only [Edit.change, passed, Except.bind]

/-- Protecting resources in two steps comes to the same as protecting their union, so it does not
matter which of them come first. Unprotecting resources in two steps that both succeed comes to the
same as unprotecting their union. -/
theorem edits_compose (document : PolicyDocument) (principal : String) (first second : NameSet) :
    (∀ edited, effects (.protect first) (.protect second) document principal = .ok edited ↔
      (Edit.protect (first.union second)).effect document principal = .ok edited) ∧
    (∀ edited, effects (.protect first) (.protect second) document principal = .ok edited ↔
      effects (.protect second) (.protect first) document principal = .ok edited) ∧
    ∀ edited, effects (.unprotect first) (.unprotect second) document principal = .ok edited →
      (Edit.unprotect (first.union second)).effect document principal = .ok edited := by
  have atOnce (first second : NameSet) (edited : PolicyDocument) :
      effects (.protect first) (.protect second) document principal = .ok edited ↔
        (Edit.protect (first.union second)).effect document principal = .ok edited :=
    ⟨(composes_protect first second).effect_of_effects, effects_of_protect⟩
  have swapped : first.union second = second.union first := by
    refine NameSet.eq_of_mem_iff fun name => ?_
    simp only [NameSet.mem_union]
    exact or_comm
  refine ⟨atOnce first second, fun edited => ?_, fun edited => ?_⟩
  · rw [atOnce first second, atOnce second first, swapped]
  · exact (composes_unprotect first second).effect_of_effects

/-- Two databases are protected one after the other, and unprotected again. -/
theorem edits_compose_databases :
    let sales := NameSet.ofList ["db/sales"]
    let events := NameSet.ofList ["db/events"]
    ∃ guarded cleared,
      effects (.protect sales) (.protect events) blank "sync" = .ok guarded ∧
      (Edit.protect (sales.union events)).effect blank "sync" = .ok guarded ∧
      effects (.unprotect events) (.unprotect sales) guarded "sync" = .ok cleared ∧
      (Edit.unprotect (events.union sales)).effect guarded "sync" = .ok cleared := by
  intro sales events
  have computed : ((effects (.protect sales) (.protect events) blank "sync").toOption.any
      fun guarded => (effects (.unprotect events) (.unprotect sales) guarded
        "sync").toOption.isSome) = true := by decide +kernel
  cases protecting : effects (.protect sales) (.protect events) blank "sync" with
  | error error => simp [protecting, Except.toOption] at computed
  | ok guarded =>
    cases unprotecting : effects (.unprotect events) (.unprotect sales) guarded "sync" with
    | error error => simp [protecting, unprotecting, Except.toOption] at computed
    | ok cleared =>
      obtain ⟨atOnce, -, -⟩ := edits_compose blank "sync" sales events
      obtain ⟨-, -, back⟩ := edits_compose guarded "sync" events sales
      exact ⟨guarded, cleared, rfl, (atOnce guarded).mp protecting, unprotecting,
        back cleared unprotecting⟩

end Protection

end ControlPlane
