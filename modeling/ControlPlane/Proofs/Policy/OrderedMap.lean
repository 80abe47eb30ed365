import ControlPlane.Proofs.Policy.Revision

/-!
# Documents as ordered maps

A document whose identifiers are all different is an ordered map from identifiers to statements,
with nameless statements in between. Adding a statement under an identifier sets the one that is
there, in its place, or appends a new one (`AddsUnder`); deleting takes out the one statement of the
identifier (`Deletes`). Both leave every other statement as it is and where it is among the others,
so whatever revisions are made, the statements that none of them is about stay in their order
(`untouched_sublist`).
-/
namespace ControlPlane.PolicyDocument

variable {document edited : PolicyDocument} {statement : Statement} {sid other : String}
  {revision : Revision}

section Statements

variable {statements : List Statement} {position : Nat} {old : Statement}

/-- With different identifiers, replacing a statement is setting it in its position. -/
theorem replaceFirst_eq_set (unique : (statements.filterMap Statement.sid?).Nodup)
    (held : statements[position]? = some old) (named : old.sid? = some sid) :
    replaceFirst sid statement statements = statements.set position statement := by
  induction statements generalizing position with
  | nil => cases held
  | cons first rest ih =>
    cases position with
    | zero =>
      obtain rfl := Option.some.inj held
      rw [replaceFirst, if_pos named, List.set_cons_zero]
    | succ position =>
      have later : rest[position]? = some old := held
      have listed : sid ∈ rest.filterMap Statement.sid? :=
        List.mem_filterMap.mpr ⟨old, List.mem_of_getElem? later, named⟩
      have different : first.sid? ≠ some sid := by
        intro same
        rw [List.filterMap_cons, same] at unique
        exact (List.nodup_cons.mp unique).1 listed
      have others : (rest.filterMap Statement.sid?).Nodup :=
        unique.sublist ((List.sublist_cons_self first rest).filterMap _)
      rw [replaceFirst, if_neg different, List.set_cons_succ, ih others later]

/-- A statement with a new identifier comes at the end. -/
theorem replaceFirst_eq_append (absent : ∀ held ∈ statements, held.sid? ≠ some sid) :
    replaceFirst sid statement statements = statements ++ [statement] := by
  induction statements with
  | nil => rfl
  | cons first rest ih =>
    obtain ⟨different, others⟩ := List.forall_mem_cons.mp absent
    rw [replaceFirst, if_neg different, ih others, List.cons_append]

end Statements

section Lookups

/-- A statement is looked up among those that do not have another identifier. -/
theorem statement?_eq_find?_others (different : other ≠ sid) :
    document.statement? other =
      (document.others sid).find? fun statement => statement.sid? = some other := by
  rw [others, List.find?_filter]
  refine congrArg (document.statements.find? ·) (funext fun statement => ?_)
  by_cases named : statement.sid? = some other <;> simp [named, different]

/-- The look-up of an identifier depends on the statement that is found. -/
theorem statement_congr {second : PolicyDocument}
    (same : second.statement? sid = document.statement? sid) :
    second.statement sid = document.statement sid := by
  unfold PolicyDocument.statement
  rw [same]

/-- Without a statement of the identifier the look-up fails. -/
theorem statement_of_none (absent : document.statement? sid = none) :
    document.statement sid = .error (.statementNotFound sid) := by
  unfold PolicyDocument.statement
  rw [absent]

/-- The look-up gives the statement that is found. -/
theorem statement_of_some (found : document.statement? sid = some statement) :
    document.statement sid = .ok statement := by
  unfold PolicyDocument.statement
  rw [found]

end Lookups

/-- A statement is added under its identifier. -/
structure AddsUnder (sid : String) (statement : Statement) (before after : PolicyDocument) :
    Prop where
  /-- The statement is found under its identifier. -/
  found : after.statement sid = .ok statement
  /-- If there is a statement of the identifier, the new one is set in its position. -/
  inPlace : ∀ position old, before.statements[position]? = some old → old.sid? = some sid →
    after.statements = before.statements.set position statement
  /-- If there is no statement of the identifier, the new one comes last. -/
  atEnd : before.hasSid sid = false → after.statements = before.statements ++ [statement]
  /-- Under other identifiers the same is found as before. -/
  elsewhere : ∀ other, other ≠ sid → after.statement other = before.statement other
  /-- All other statements are left, in their order. -/
  others : after.others sid = before.others sid

/-- A nameless statement is added. -/
structure AddsNameless (statement : Statement) (before after : PolicyDocument) : Prop where
  /-- The statement comes last. -/
  atEnd : after.statements = before.statements ++ [statement]
  /-- Under every identifier the same is found as before. -/
  elsewhere : ∀ other, after.statement other = before.statement other

/-- The statement of an identifier is deleted, if there is one. -/
structure Deletes (sid : String) (before after : PolicyDocument) : Prop where
  /-- Nothing is found under the identifier. -/
  missing : after.statement sid = .error (.statementNotFound sid)
  /-- Under other identifiers the same is found as before. -/
  elsewhere : ∀ other, other ≠ sid → after.statement other = before.statement other
  /-- All other statements are left, in their order. -/
  others : after.statements = before.others sid

section Edits

/-- A statement with an identifier is put in the place of the first one that has it. -/
theorem statements_put (named : statement.sid? = some sid) :
    (document.put statement).statements = replaceFirst sid statement document.statements := by
  simp only [PolicyDocument.put, named]

/-- A nameless statement is put at the end. -/
theorem statements_put_nameless (nameless : statement.sid? = none) :
    (document.put statement).statements = document.statements ++ [statement] := by
  simp only [PolicyDocument.put, nameless]

/-- Adding a statement that has an identifier. -/
theorem addsUnder (unique : document.UniqueSids) (named : statement.sid? = some sid)
    (added : document.addOrUpdate statement = .ok edited) :
    AddsUnder sid statement document edited := by
  obtain rfl := eq_of_check added
  constructor
  case found => exact statement_of_some (statement?_put named)
  case inPlace =>
    intro position old held same
    rw [statements_put named, replaceFirst_eq_set unique held same]
  case atEnd =>
    intro absent
    have nothing : ∀ held ∈ document.statements, held.sid? ≠ some sid := by
      simpa [statement?] using hasSid_eq_false_iff.mp absent
    rw [statements_put named, replaceFirst_eq_append nothing]
  case elsewhere =>
    intro other different
    refine statement_congr ?_
    rw [statement?_eq_find?_others different, others_put named,
      ← statement?_eq_find?_others different]
  case others => exact others_put named

/-- Adding a nameless statement. -/
theorem addsNameless (nameless : statement.sid? = none)
    (added : document.addOrUpdate statement = .ok edited) :
    AddsNameless statement document edited := by
  obtain rfl := eq_of_check added
  refine ⟨statements_put_nameless nameless, fun other => statement_congr ?_⟩
  simp [statement?, statements_put_nameless nameless, nameless]

/-- Deleting an identifier. -/
theorem deletes (deleted : document.delete sid = .ok edited) : Deletes sid document edited := by
  obtain rfl := eq_of_check deleted
  refine ⟨statement_of_none statement?_without, fun other different => statement_congr ?_, rfl⟩
  rw [statement?_eq_find?_others different, others_without,
    ← statement?_eq_find?_others different]

/-- Adding any statement keeps the identifiers different. -/
theorem UniqueSids.added (unique : document.UniqueSids)
    (added : document.addOrUpdate statement = .ok edited) : edited.UniqueSids := by
  obtain rfl := eq_of_check added
  cases named : statement.sid? with
  | some sid => exact unique.put named
  | none =>
    unfold UniqueSids sids at unique ⊢
    simpa [statements_put_nameless named, named] using unique

/-- A revision keeps the identifiers different. -/
theorem UniqueSids.next (unique : document.UniqueSids) (revision : Revision) :
    (revision.next document).UniqueSids := by
  obtain same | ⟨statement, -, added⟩ | ⟨sid, -, deleted⟩ := revision.next_cases document
  · rwa [same]
  · exact unique.added added
  · rw [eq_of_check deleted]
    exact unique.without sid

end Edits

section Untouched

/-- A revision is not about a statement. -/
def Revision.Spares (revision : Revision) (statement : Statement) : Prop :=
  statement.sid? = none ∨ revision.sid? ≠ statement.sid?

/-- Whether a revision is about a statement can be decided. -/
instance (revision : Revision) (statement : Statement) : Decidable (revision.Spares statement) :=
  inferInstanceAs (Decidable (_ ∨ _))

/-- The statements that no revision is about. -/
def untouched (document : PolicyDocument) (revisions : List Revision) : List Statement :=
  document.statements.filter fun statement => ∀ revision ∈ revisions, revision.Spares statement

/-- A revision leaves the look-ups of other identifiers as they are. -/
theorem statement?_next (unique : document.UniqueSids) (different : revision.sid? ≠ some sid) :
    (revision.next document).statement sid = document.statement sid := by
  obtain same | ⟨statement, about, added⟩ | ⟨key, about, deleted⟩ := revision.next_cases document
  · rw [same]
  · cases named : statement.sid? with
    | none => exact (addsNameless named added).elsewhere sid
    | some key =>
      have apart : sid ≠ key := fun same => different (by rw [← about, named, same])
      exact (addsUnder unique named added).elsewhere sid apart
  · have apart : sid ≠ key := fun same => different (by rw [about, same])
    exact (deletes deleted).elsewhere sid apart

/-- A revision leaves the statements that it is not about, in their order. -/
theorem untouched_sublist_next (unique : document.UniqueSids) :
    (document.statements.filter fun statement => revision.Spares statement).Sublist
      (revision.next document).statements := by
  have spared (key : String) (about : revision.sid? = some key) :
      (document.statements.filter fun statement => revision.Spares statement) =
        document.others key := by
    refine List.filter_congr fun statement _ => decide_eq_decide.mpr ?_
    rw [Revision.Spares, about]
    grind
  obtain same | ⟨statement, about, added⟩ | ⟨key, about, deleted⟩ := revision.next_cases document
  · rw [same]
    exact List.filter_sublist
  · cases named : statement.sid? with
    | none =>
      rw [(addsNameless named added).atEnd]
      exact List.filter_sublist.trans (List.sublist_append_left _ _)
    | some key =>
      rw [spared key (about ▸ named), ← (addsUnder unique named added).others]
      exact List.filter_sublist
  · rw [spared key about, (deletes deleted).others]

/-- Look-ups of identifiers that no revision is about stay as they are. -/
theorem statement_revised (unique : document.UniqueSids) {revisions : List Revision}
    (different : ∀ revision ∈ revisions, revision.sid? ≠ some sid) :
    (document.revised revisions).statement sid = document.statement sid := by
  induction revisions generalizing document with
  | nil => rfl
  | cons first rest ih =>
    obtain ⟨here, later⟩ := List.forall_mem_cons.mp different
    exact (ih (unique.next first) later).trans (statement?_next unique here)

/-- The statements that no revision is about stay in their order. -/
theorem untouched_sublist (unique : document.UniqueSids) (revisions : List Revision) :
    (document.untouched revisions).Sublist (document.revised revisions).statements := by
  induction revisions generalizing document with
  | nil => exact List.filter_sublist
  | cons first rest ih =>
    have split : document.untouched (first :: rest) =
        (document.statements.filter fun statement => first.Spares statement).filter
          fun statement => ∀ revision ∈ rest, revision.Spares statement := by
      simp only [untouched, List.filter_filter, List.forall_mem_cons, Bool.decide_and]
      exact List.filter_congr fun _ _ => Bool.and_comm _ _
    rw [split]
    exact ((untouched_sublist_next unique).filter _).trans (ih (unique.next first))

end Untouched

/-- What the next revision does to the document that earlier ones have made of one, and what is left
of that after all of them. -/
structure ActsAsMap (start : PolicyDocument) (earlier : List Revision) : Prop where
  /-- No two statements have the same identifier. -/
  unique : (start.revised earlier).UniqueSids
  /-- A revision that fails leaves the document as it is. -/
  failed : ∀ revision error, revision.apply (start.revised earlier) = .error error →
    start.revised (earlier ++ [revision]) = start.revised earlier
  /-- A statement with an identifier is added under it. -/
  added : ∀ statement sid edited, statement.sid? = some sid →
    (start.revised earlier).addOrUpdate statement = .ok edited →
      start.revised (earlier ++ [.add statement]) = edited ∧
        AddsUnder sid statement (start.revised earlier) edited
  /-- A statement without an identifier is added at the end. -/
  nameless : ∀ statement edited, statement.sid? = none →
    (start.revised earlier).addOrUpdate statement = .ok edited →
      start.revised (earlier ++ [.add statement]) = edited ∧
        AddsNameless statement (start.revised earlier) edited
  /-- A deletion takes the statement of its identifier away. -/
  deleted : ∀ sid edited, (start.revised earlier).delete sid = .ok edited →
    start.revised (earlier ++ [.delete sid]) = edited ∧
      Deletes sid (start.revised earlier) edited
  /-- Under an identifier that no revision is about the same is found as at first. -/
  elsewhere : ∀ sid, (∀ revision ∈ earlier, revision.sid? ≠ some sid) →
    (start.revised earlier).statement sid = start.statement sid
  /-- The statements that no revision is about are left, in their order. -/
  untouched : (start.untouched earlier).Sublist (start.revised earlier).statements

/-- A document with different identifiers acts as an ordered map, whatever revisions are made. -/
theorem revisions_act_as_map {start : PolicyDocument} (unique : start.UniqueSids)
    (earlier : List Revision) : ActsAsMap start earlier := by
  have before : (start.revised earlier).UniqueSids :=
    revised_induction UniqueSids unique (fun _ revision unique => unique.next revision) earlier
  have last (revision : Revision) : start.revised (earlier ++ [revision]) =
      revision.next (start.revised earlier) := revised_append start earlier [revision]
  constructor
  case unique => exact before
  case failed =>
    intro revision error fails
    rw [last, Revision.next, fails]
  case added =>
    intro statement sid edited named added
    exact ⟨(last _).trans (Revision.next_of_apply added), addsUnder before named added⟩
  case nameless =>
    intro statement edited nameless added
    exact ⟨(last _).trans (Revision.next_of_apply added), addsNameless nameless added⟩
  case deleted =>
    intro sid edited deleted
    exact ⟨(last _).trans (Revision.next_of_apply deleted), deletes deleted⟩
  case elsewhere => exact fun sid different => statement_revised unique different
  case untouched => exact untouched_sublist unique earlier

/-- A document with nameless statements between those that have identifiers. -/
def mixedDocument : PolicyDocument :=
  ofStatements defaultVersion
    [.ofMembers [("Sid", .ofInt 1)], .ofMembers [("Sid", .string "readers")], JsonObject.empty,
      .ofMembers [("Sid", .string "writers")]] none

/-- A statement is replaced between nameless ones, another one is deleted, and a nameless one is
added. -/
theorem revisions_act_as_map_mixed :
    let denied := JsonObject.ofMembers [("Effect", .string "Deny"), ("Sid", .string "readers")]
    let revisions : List Revision := [.add denied, .delete "writers", .add JsonObject.empty]
    mixedDocument.UniqueSids ∧ ActsAsMap mixedDocument revisions ∧
      (mixedDocument.revised revisions).statements =
        [.ofMembers [("Sid", .ofInt 1)], denied, JsonObject.empty, JsonObject.empty] := by
  intro denied revisions
  have unique : mixedDocument.UniqueSids := by
    unfold UniqueSids
    decide
  exact ⟨unique, revisions_act_as_map unique revisions, rfl⟩

end ControlPlane.PolicyDocument
