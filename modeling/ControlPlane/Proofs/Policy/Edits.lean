import ControlPlane.Policy.Document

/-!
# Edits of policy documents

What adding and deleting a statement does to the statements of a document. A statement with an
identifier is put in the place of the first one that has it, so it is the one that is found
afterwards, and the statements with other identifiers keep their order. A document whose
identifiers are all different has at most one statement of each (`statement?_of_mem`), and edits
keep it so (`UniqueSids.put`, `UniqueSids.without`).
-/
namespace ControlPlane.PolicyDocument

variable {sid : String} {statement found : Statement} {document : PolicyDocument}

/-- The statements that do not have an identifier. -/
def others (document : PolicyDocument) (sid : String) : List Statement :=
  document.statements.filter fun statement => statement.sid? ≠ some sid

/-- The identifiers of the statements, in their order. -/
def sids (document : PolicyDocument) : List String := document.statements.filterMap Statement.sid?

/-- No two statements have the same identifier; some may have none. -/
def UniqueSids (document : PolicyDocument) : Prop := document.sids.Nodup

/-- A candidate that keeps to the rules of its kind is the document. -/
theorem eq_of_check {candidate : PolicyDocument} (checked : candidate.check = .ok document) :
    document = candidate := by
  unfold check at checked
  cases kind : candidate.kind with
  | none =>
    rw [kind] at checked
    exact (Except.ok.inj checked).symm
  | some limits =>
    simp only [kind] at checked
    split at checked
    · cases checked
    · split at checked
      · split at checked
        · exact (Except.ok.inj checked).symm
        · cases checked
      · exact (Except.ok.inj checked).symm

/-- A statement that is found stands in the document under the identifier. -/
theorem mem_of_statement? (known : document.statement? sid = some found) :
    found ∈ document.statements ∧ found.sid? = some sid :=
  ⟨List.mem_of_find?_eq_some known, by simpa using List.find?_some known⟩

/-- An identifier is missing exactly if nothing is found under it. -/
theorem hasSid_eq_false_iff : document.hasSid sid = false ↔ document.statement? sid = none := by
  simp [hasSid]

section ReplaceFirst

/-- The statement put in is the first one of its identifier. -/
theorem find?_replaceFirst (named : statement.sid? = some sid) (statements : List Statement) :
    (replaceFirst sid statement statements).find? (fun other => other.sid? = some sid) =
      some statement := by
  induction statements with
  | nil => simp [replaceFirst, named]
  | cons first rest ih =>
    by_cases same : first.sid? = some sid
    · simp [replaceFirst, same, named]
    · simp [replaceFirst, same, ih]

/-- The statements of other identifiers stay as they are, in their order. -/
theorem filter_replaceFirst (named : statement.sid? = some sid) (statements : List Statement) :
    (replaceFirst sid statement statements).filter (fun other => other.sid? ≠ some sid) =
      statements.filter fun other => other.sid? ≠ some sid := by
  induction statements with
  | nil => simp [replaceFirst, named]
  | cons first rest ih =>
    by_cases same : first.sid? = some sid
    · simp [replaceFirst, same, named]
    · simp only [replaceFirst, if_neg same, List.filter_cons, ih]

/-- An identifier that is there stays in its place, and a new one comes at the end. -/
theorem sids_replaceFirst (named : statement.sid? = some sid) (statements : List Statement) :
    (replaceFirst sid statement statements).filterMap Statement.sid? =
      if sid ∈ statements.filterMap Statement.sid? then statements.filterMap Statement.sid?
      else statements.filterMap Statement.sid? ++ [sid] := by
  induction statements with
  | nil => simp [replaceFirst, named]
  | cons first rest ih =>
    by_cases same : first.sid? = some sid
    · simp [replaceFirst, same, named]
    · rw [replaceFirst, if_neg same]
      cases other : first.sid? with
      | none => simp only [List.filterMap_cons, other, ih]
      | some key =>
        have different : sid ≠ key := fun equal => same (by rw [other, equal])
        simp only [List.filterMap_cons, other, ih, List.mem_cons, different, false_or]
        split <;> rfl

end ReplaceFirst

/-- A statement that is put is found by its identifier. -/
theorem statement?_put (named : statement.sid? = some sid) :
    (document.put statement).statement? sid = some statement := by
  unfold statement? put
  rw [named]
  exact find?_replaceFirst named _

/-- Putting a statement leaves those of other identifiers as they are. -/
theorem others_put (named : statement.sid? = some sid) :
    (document.put statement).others sid = document.others sid := by
  unfold others put
  rw [named]
  exact filter_replaceFirst named _

/-- Nothing is found under an identifier that is deleted. -/
theorem statement?_without : (document.without sid).statement? sid = none := by
  unfold statement? without
  simp

/-- Deleting an identifier leaves exactly the statements of others. -/
theorem others_without : (document.without sid).others sid = document.others sid := by
  unfold others without
  simp

/-- If all identifiers are different, a statement is found by its own. -/
theorem statement?_of_mem (unique : document.UniqueSids) (member : found ∈ document.statements)
    (named : found.sid? = some sid) : document.statement? sid = some found := by
  unfold UniqueSids sids at unique
  unfold statement?
  generalize document.statements = statements at unique member
  induction statements with
  | nil => cases member
  | cons first rest ih =>
    rw [List.filterMap_cons] at unique
    obtain rfl | later := List.mem_cons.mp member
    · simp [named]
    · have listed : sid ∈ rest.filterMap Statement.sid? :=
        List.mem_filterMap.mpr ⟨found, later, named⟩
      cases other : first.sid? with
      | none =>
        rw [other] at unique
        simpa [other] using ih unique later
      | some key =>
        rw [other] at unique
        have different : key ≠ sid := fun equal =>
          (List.nodup_cons.mp unique).1 (equal ▸ listed)
        simpa [other, different] using ih (List.nodup_cons.mp unique).2 later

/-- Putting a statement with an identifier keeps the identifiers different. -/
theorem UniqueSids.put (unique : document.UniqueSids) (named : statement.sid? = some sid) :
    (document.put statement).UniqueSids := by
  unfold UniqueSids sids at unique ⊢
  unfold PolicyDocument.put
  rw [named]
  refine (sids_replaceFirst named document.statements).symm ▸ ?_
  split
  · exact unique
  · next absent => exact List.nodup_append.mpr ⟨unique, by simp, by grind⟩

/-- Deleting an identifier keeps the others different. -/
theorem UniqueSids.without (unique : document.UniqueSids) (sid : String) :
    (document.without sid).UniqueSids :=
  unique.sublist (List.filter_sublist.filterMap _)

end ControlPlane.PolicyDocument
