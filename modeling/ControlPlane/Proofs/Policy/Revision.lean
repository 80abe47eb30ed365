import ControlPlane.Proofs.Policy.GuardedSet
import ControlPlane.Proofs.Policy.Rules

/-!
# Revisions of policy documents

A document is made or read, and then revised: statements are added and deleted, and its protection
is edited. A revision that fails leaves the document as it is. Every revision that changes something
is an addition or a deletion (`apply_cases`), so it checks what it gives. Hence a document keeps to
the rules of its kind however often it is revised, and it keeps its version, its kind and its hash
(`revisions_keep_rules`).
-/
namespace ControlPlane.PolicyDocument

/-- How a document comes about at first. -/
inductive Origin where
  /-- It is made of statements. -/
  | made (version : String) (statements : List Statement) (kind : Option PolicyKind)
  /-- It is made for a kind, with the default version. -/
  | madeFor (kind : PolicyKind) (statements : List Statement)
  /-- It is read from a text of the store. -/
  | read (text : String) (kind : Option PolicyKind) (storeHash : Option String)

/-- The document of an origin, unless it breaks a rule. -/
def Origin.document : Origin → Except PolicyError PolicyDocument
  | made version statements kind => (ofStatements version statements kind).check
  | madeFor kind statements => (ofStatements defaultVersion statements (some kind)).check
  | read text kind storeHash => PolicyDocument.read text kind storeHash

/-- The kind that an origin is asked for. -/
def Origin.kind : Origin → Option PolicyKind
  | made _ _ kind | read _ kind _ => kind
  | madeFor kind _ => some kind

/-- The hash that an origin is given: only the store knows one. -/
def Origin.storeHash : Origin → Option String
  | made _ _ _ | madeFor _ _ => none
  | read _ _ storeHash => storeHash

/-- A change of a document. -/
inductive Revision where
  /-- A statement is added, or set in the place of another one. -/
  | add (statement : Statement)
  /-- The statements of an identifier are deleted. -/
  | delete (sid : String)
  /-- The protection is edited for a principal. -/
  | protection (edit : Protection.Edit) (principal : String)

namespace Revision

/-- The revised document. An edit of the protection that is in effect already gives the document
itself. -/
def apply (document : PolicyDocument) : Revision → Except PolicyError PolicyDocument
  | add statement => document.addOrUpdate statement
  | delete sid => document.delete sid
  | protection edit principal =>
    (edit.apply document principal).map fun edited => edited.getD document

/-- The document in effect after a revision: the same one if the revision fails. -/
def next (document : PolicyDocument) (revision : Revision) : PolicyDocument :=
  match revision.apply document with
  | .ok edited => edited
  | .error _ => document

/-- The identifier of the statement that a revision is about, if it has one. -/
def sid? : Revision → Option String
  | add statement => statement.sid?
  | delete sid => some sid
  | protection _ _ => some Protection.sid

end Revision

/-- The document in effect after revisions. -/
def revised (document : PolicyDocument) (revisions : List Revision) : PolicyDocument :=
  revisions.foldl Revision.next document

variable {document edited : PolicyDocument} {revision : Revision}

section Step

/-- The document that an edit of the protection answers has been checked. -/
theorem check_of_apply {edit : Protection.Edit} {principal : String}
    (applied : edit.apply document principal = .ok (some edited)) : edited.check = .ok edited := by
  have found := Protection.candidate?_of_apply applied
  unfold Protection.Edit.apply at applied
  simp only [found] at applied
  cases checked : edited.check with
  | error error =>
    rw [checked] at applied
    cases applied
  | ok other => rw [eq_of_check checked]

/-- A revision changes nothing, or adds or deletes a statement of its identifier. -/
theorem Revision.apply_cases (done : revision.apply document = .ok edited) :
    edited = document ∨
      (∃ statement, statement.sid? = revision.sid? ∧
        document.addOrUpdate statement = .ok edited) ∨
      ∃ sid, revision.sid? = some sid ∧ document.delete sid = .ok edited := by
  cases revision with
  | add statement => exact .inr (.inl ⟨statement, rfl, done⟩)
  | delete sid => exact .inr (.inr ⟨sid, rfl, done⟩)
  | protection edit principal =>
    simp only [apply] at done
    cases applied : edit.apply document principal with
    | error error =>
      rw [applied] at done
      cases done
    | ok answer =>
      rw [applied] at done
      obtain rfl := Except.ok.inj done
      cases answer with
      | none => exact .inl rfl
      | some edited =>
        have checked := check_of_apply applied
        obtain ⟨-, rfl⟩ | ⟨-, rfl⟩ := Protection.apply_cases applied
        · exact .inr (.inl ⟨_, Protection.sid?_statement, checked⟩)
        · exact .inr (.inr ⟨_, rfl, checked⟩)

/-- After a revision that succeeds its answer is in effect. -/
theorem Revision.next_of_apply (done : revision.apply document = .ok edited) :
    revision.next document = edited := by
  rw [Revision.next, done]

/-- The document after a revision is the one before, or one with a statement of its identifier
added or deleted. -/
theorem Revision.next_cases (revision : Revision) (document : PolicyDocument) :
    revision.next document = document ∨
      (∃ statement, statement.sid? = revision.sid? ∧
        document.addOrUpdate statement = .ok (revision.next document)) ∨
      ∃ sid, revision.sid? = some sid ∧ document.delete sid = .ok (revision.next document) := by
  cases done : revision.apply document with
  | error error => exact .inl (by rw [Revision.next, done])
  | ok edited =>
    rw [Revision.next_of_apply done]
    exact Revision.apply_cases done

end Step

/-- What holds of a document and is kept by each revision holds after any revisions. -/
theorem revised_induction (holds : PolicyDocument → Prop) (initial : holds document)
    (step : ∀ document revision, holds document → holds (Revision.next document revision))
    (revisions : List Revision) : holds (document.revised revisions) := by
  induction revisions generalizing document with
  | nil => exact initial
  | cons first rest ih => exact ih (step document first initial)

/-- Revisions after one another. -/
theorem revised_append (document : PolicyDocument) (earlier later : List Revision) :
    document.revised (earlier ++ later) = (document.revised earlier).revised later :=
  List.foldl_append

section Rules

/-- A document that a reader finds has the kind and the hash that the reader was given. -/
theorem exists_eq_of_ofJson {value : Json} {kind : Option PolicyKind} {storeHash : Option String}
    (found : ofJson value kind storeHash = .ok document) :
    ∃ version statements, document = ⟨version, statements, kind, storeHash⟩ := by
  unfold ofJson at found
  simp only [bind, Except.bind, pure, Except.pure] at found
  -- Each way through the reader ends in an error or gives the document.
  repeat' split at found
  all_goals cases found
  all_goals exact ⟨_, _, rfl⟩

/-- The document of an origin is a candidate that keeps to the rules. -/
theorem Origin.of_document {origin : Origin} (given : origin.document = .ok document) :
    document.KeepsRules ∧ document.kind = origin.kind ∧ document.storeHash = origin.storeHash := by
  cases origin with
  | made version statements kind =>
    obtain ⟨rfl, rules⟩ := check_eq_ok_iff.mp given
    exact ⟨rules, rfl, rfl⟩
  | madeFor kind statements =>
    have checked : (ofStatements defaultVersion statements (some kind)).check = .ok document :=
      given
    obtain ⟨rfl, rules⟩ := check_eq_ok_iff.mp checked
    exact ⟨rules, rfl, rfl⟩
  | read text kind storeHash =>
    simp only [Origin.document, PolicyDocument.read] at given
    cases found : ofText text kind storeHash with
    | error error =>
      rw [found] at given
      cases given
    | ok candidate =>
      rw [found] at given
      obtain ⟨rfl, rules⟩ := check_eq_ok_iff.mp given
      unfold ofText at found
      split at found
      · obtain ⟨version, statements, rfl⟩ := exists_eq_of_ofJson found
        exact ⟨rules, rfl, rfl⟩
      · cases found

/-- A document keeps to the rules of its kind, and differs from another one in its statements
only. -/
structure StaysWithin (start document : PolicyDocument) : Prop where
  /-- The document keeps to the rules of its kind. -/
  rules : document.KeepsRules
  /-- The version is the same. -/
  version : document.version = start.version
  /-- The kind is the same. -/
  kind : document.kind = start.kind
  /-- The hash of the store is the same. -/
  storeHash : document.storeHash = start.storeHash

/-- What is checked after an addition or a deletion stays within the rules. -/
theorem StaysWithin.next {start : PolicyDocument} (stays : StaysWithin start document)
    (revision : Revision) : StaysWithin start (revision.next document) := by
  have cases := revision.next_cases document
  generalize revision.next document = edited at cases
  obtain rfl | ⟨statement, -, added⟩ | ⟨sid, -, deleted⟩ := cases
  · exact stays
  · obtain ⟨rfl, rules⟩ := check_eq_ok_iff.mp added
    exact ⟨rules, stays.version, stays.kind, stays.storeHash⟩
  · obtain ⟨rfl, rules⟩ := check_eq_ok_iff.mp deleted
    exact ⟨rules, stays.version, stays.kind, stays.storeHash⟩

/-- However a document comes about and is revised, it keeps to the rules of its kind, and it has
the version, the kind and the hash that it had at first. -/
theorem revisions_keep_rules {origin : Origin} {start : PolicyDocument}
    (given : origin.document = .ok start) (revisions : List Revision) :
    StaysWithin start (start.revised revisions) ∧ start.kind = origin.kind ∧
      start.storeHash = origin.storeHash := by
  obtain ⟨rules, kind, storeHash⟩ := Origin.of_document given
  refine ⟨?_, kind, storeHash⟩
  exact revised_induction (StaysWithin start) ⟨rules, rfl, rfl, rfl⟩
    (fun _ revision stays => stays.next revision) revisions

/-- The policy of a topic, as the store has it. -/
def topicText : String := "\x7b\"Version\":\"2008-10-17\"\x7d"

/-- Revisions of the policy of a topic: a statement without effect is refused, and a guard statement
is added. -/
def topicRevisions : List Revision :=
  [.add (.ofMembers [("Sid", .string "incomplete")]),
    .protection (.protect (NameSet.ofList ["db/sales"])) "sync"]

/-- The policy of a topic is read and revised, and the guard statement is all that it gets. -/
theorem revisions_keep_rules_topic :
    ∃ start, Origin.document (.read topicText (some .topic) (some "1f")) = .ok start ∧
      StaysWithin start (start.revised topicRevisions) ∧ start.kind = some .topic ∧
      start.storeHash = some "1f" ∧
      (start.revised topicRevisions).sids = [Protection.sid] := by
  have computed : (match Origin.document (.read topicText (some .topic) (some "1f")) with
      | .ok start => decide ((start.revised topicRevisions).sids = [Protection.sid])
      | .error _ => false) = true := by decide +kernel
  cases given : Origin.document (.read topicText (some .topic) (some "1f")) with
  | error error => simp [given] at computed
  | ok start =>
    obtain ⟨stays, kind, storeHash⟩ := revisions_keep_rules given topicRevisions
    rw [given] at computed
    exact ⟨start, rfl, stays, kind, storeHash, of_decide_eq_true computed⟩

end Rules

end ControlPlane.PolicyDocument
