import ControlPlane.Proofs.Json.Size
import ControlPlane.Proofs.Policy.GuardStatement
import ControlPlane.Proofs.Policy.RoundTrip
import ControlPlane.Proofs.Policy.Rules

/-!
# Documents that shrink

A document lies within another one if it has fewer statements, or some that fit in the place of the
ones that they replace (`Within`). Then it keeps to every rule that the other one keeps to: its
written form is no larger, and a topic may have its statements. Deleting a statement leads to a
document within the one before, and so does taking resources out of a guard statement. Hence neither
ever fails (`removal_succeeds`), even if the document is as large as its kind admits.
-/
namespace ControlPlane

/-- A statement fits in the place of another one. -/
structure Statement.FitsFor (smaller larger : Statement) : Prop where
  /-- It is no larger. -/
  size : smaller.toJson.size ≤ larger.toJson.size
  /-- A topic may have it if it may have the other one. -/
  topic : larger.FitsTopic → smaller.FitsTopic

/-- A statement fits in its own place. -/
instance : Std.Refl Statement.FitsFor := ⟨fun _ => ⟨Nat.le_refl _, id⟩⟩

/-- The names of a part of a set are among those of the set, in the same order. -/
theorem NameSet.names_sublist {part whole : NameSet} (within : part.subset whole = true) :
    part.names.Sublist whole.names := by
  have listed : part.names ⊆ whole.names := fun name member =>
    mem_names.mpr (subset_iff.mp within name (mem_names.mp member))
  have distinct : part.names.Nodup := part.pairwise_names.imp fun before => ne_of_lt before
  have fewer : part.names.Subperm whole.names := List.subperm_of_subset distinct listed
  exact List.sublist_of_subperm_of_pairwise fewer part.pairwise_names whole.pairwise_names

namespace PolicyDocument

variable {document smaller larger : PolicyDocument} {statement small large : Statement}
  {sid : String}

/-- A document lies within another one. -/
structure Within (smaller larger : PolicyDocument) : Prop where
  /-- The version is the same. -/
  version : smaller.version = larger.version
  /-- The kind is the same. -/
  kind : smaller.kind = larger.kind
  /-- Each statement stands in the place of one that it fits for, and other places may be empty. -/
  statements : List.SublistForall₂ Statement.FitsFor smaller.statements larger.statements

/-- The size of a document is that of its list of statements and of its version, with their keys. -/
theorem size_eq (document : PolicyDocument) :
    document.size = (Json.array (document.statements.map JsonObject.toJson)).size +
      (Json.string document.version).size + 25 := by
  have written : document.size = document.toJson.size := Json.utf8ByteSize_compact _
  have listKey : String.utf8Len (Json.quoted "Statement") = 11 := by decide
  have versionKey : String.utf8Len (Json.quoted "Version") = 9 := by decide
  rw [written, toJson, Json.size_object]
  simp only [Json.membersSize, listKey, versionKey]
  omega

/-- A document within another one is no larger. -/
theorem Within.size_le (within : Within smaller larger) : smaller.size ≤ larger.size := by
  have statements : (Json.array (smaller.statements.map JsonObject.toJson)).size ≤
      (Json.array (larger.statements.map JsonObject.toJson)).size := by
    refine Json.size_array_le ?_
    rw [List.sublistForall₂_map_left_iff, List.sublistForall₂_map_right_iff]
    obtain ⟨replaced, fits, fewer⟩ := List.sublistForall₂_iff.mp within.statements
    exact List.sublistForall₂_iff.mpr ⟨replaced, fits.imp fun _ _ fits => fits.size, fewer⟩
  rw [size_eq, size_eq, within.version]
  omega

/-- A topic may have the statements of a document within one whose statements it may have. -/
theorem Within.fitsTopic (within : Within smaller larger)
    (topic : ∀ statement ∈ larger.statements, statement.FitsTopic) :
    ∀ statement ∈ smaller.statements, statement.FitsTopic := by
  have statements := within.statements
  generalize smaller.statements = few at statements ⊢
  generalize larger.statements = many at statements topic
  induction statements with
  | nil => exact List.forall_mem_nil _
  | cons fits _ ih =>
    obtain ⟨first, rest⟩ := List.forall_mem_cons.mp topic
    exact List.forall_mem_cons.mpr ⟨fits.topic first, ih rest⟩
  | cons_right _ ih => exact ih (List.forall_mem_cons.mp topic).2

/-- A document within one that keeps to the rules of its kind keeps to them. -/
theorem Within.keepsRules (within : Within smaller larger) (rules : larger.KeepsRules) :
    smaller.KeepsRules := by
  constructor
  case size =>
    intro kind own
    have limit := rules.size kind (within.kind ▸ own)
    exact within.size_le.trans limit
  case topic =>
    intro own
    exact within.fitsTopic (rules.topic (within.kind ▸ own))

/-- A document within one that keeps to the rules of its kind passes the check. -/
theorem Within.check (within : Within smaller larger) (rules : larger.KeepsRules) :
    smaller.check = .ok smaller :=
  check_eq_ok_iff.mpr ⟨rfl, within.keepsRules rules⟩

/-- A document without the statements of an identifier lies within the document. -/
theorem within_without (document : PolicyDocument) (sid : String) :
    Within (document.without sid) document :=
  ⟨rfl, rfl, List.filter_sublist.sublistForall₂⟩

/-- Of two statements with one identifier, the one that fits for the other gives a document within
the other's. -/
theorem within_put_put (smallNamed : small.sid? = some sid) (largeNamed : large.sid? = some sid)
    (fits : small.FitsFor large) (document : PolicyDocument) :
    Within (document.put small) (document.put large) := by
  refine ⟨rfl, rfl, ?_⟩
  simp only [put, smallNamed, largeNamed]
  induction document.statements with
  | nil => exact .cons fits .nil
  | cons first rest ih =>
    have others : List.SublistForall₂ Statement.FitsFor rest rest := Std.Refl.refl rest
    by_cases same : first.sid? = some sid
    · simpa only [replaceFirst, if_pos same] using .cons fits others
    · simpa only [replaceFirst, if_neg same] using .cons (Std.Refl.refl first) ih

/-- Replacing the first statement of an identifier by itself changes nothing. -/
theorem replaceFirst_eq_self {statements : List Statement}
    (found : statements.find? (fun other => other.sid? = some sid) = some statement) :
    replaceFirst sid statement statements = statements := by
  induction statements with
  | nil => cases found
  | cons first rest ih =>
    by_cases here : first.sid? = some sid
    · have same : first = statement := by simpa [here] using found
      rw [replaceFirst, if_pos here, same]
    · have later : rest.find? (fun other => other.sid? = some sid) = some statement := by
        simpa [here] using found
      rw [replaceFirst, if_neg here, ih later]

/-- Putting the statement that is found changes nothing. -/
theorem put_eq_self (found : document.statement? sid = some statement) :
    document.put statement = document := by
  have named := (mem_of_statement? found).2
  have same : replaceFirst sid statement document.statements = document.statements :=
    replaceFirst_eq_self found
  simp only [put, named, same]

/-- A statement that fits for the one that is found gives a document within the document. -/
theorem within_put (found : document.statement? sid = some large)
    (named : small.sid? = some sid) (fits : small.FitsFor large) :
    Within (document.put small) document := by
  have within := within_put_put named (mem_of_statement? found).2 fits document
  rwa [put_eq_self found] at within

end PolicyDocument

namespace Protection

variable {document : PolicyDocument} {part whole : NameSet}

/-- A topic may have a guard statement. -/
theorem fitsTopic_statement (principal : String) (set : NameSet) :
    (statement principal set).FitsTopic := by
  constructor
  case complete => simp [find?_statement]
  case known => simp [JsonObject.keys, members_statement]
  case effect => simp [find?_statement]
  case principal => simp [find?_statement]

/-- The guard statement for a part of a set fits in the place of the one for the set. -/
theorem statement_fitsFor (principal : String) (within : part.subset whole = true) :
    (statement principal part).FitsFor (statement principal whole) := by
  have names : List.SublistForall₂ (fun small large => Json.size small ≤ Json.size large)
      (part.names.map .string) (whole.names.map .string) :=
    ((NameSet.names_sublist within).map _).sublistForall₂
  have resources := Json.size_array_le names
  refine ⟨?_, fun _ => fitsTopic_statement principal part⟩
  simp only [JsonObject.toJson, Json.size_object, members_statement, Json.membersSize]
  omega

/-- Taking resources out of the guard statement of a principal is accepted, and leads to a document
within the one before. -/
theorem exists_unprotected {principal : String} {guarded : NameSet} (rules : document.KeepsRules)
    (found : document.statement? sid = some (statement principal guarded)) (removed : NameSet) :
    ∃ answer, (Edit.unprotect removed).apply document principal = .ok answer ∧
      PolicyDocument.Within (answer.getD document) document := by
  have known : resources document = guarded := by
    rw [resources_of_statement? found, resources_statement]
  cases candidate : (Edit.unprotect removed).candidate? document principal with
  | none =>
    have applied : (Edit.unprotect removed).apply document principal = .ok none := by
      rw [Edit.apply, candidate]
    exact ⟨none, applied, rfl, rfl, Std.Refl.refl _⟩
  | some edited =>
    have within : PolicyDocument.Within edited document := by
      obtain ⟨-, rfl⟩ | ⟨-, rfl⟩ := candidate?_cases candidate
      · have part : (guarded.difference removed).subset guarded = true :=
          NameSet.subset_iff.mpr fun name member => (NameSet.mem_difference.mp member).1
        rw [known]
        exact PolicyDocument.within_put found sid?_statement (statement_fitsFor principal part)
      · exact PolicyDocument.within_without document sid
    have applied : (Edit.unprotect removed).apply document principal = .ok (some edited) := by
      simp only [Edit.apply, candidate, within.check rules, Except.map]
    exact ⟨some edited, applied, within⟩

/-- From a document that came about, any statement can be deleted, and any resources can be taken out
of its guard statement if that is the one of the principal. Neither makes it larger. -/
theorem removal_succeeds (reachable : PolicyDocument.Reachable document) :
    (∀ sid, ∃ edited, document.delete sid = .ok edited ∧ edited.size ≤ document.size) ∧
    ∀ principal guarded, document.statement? sid = some (statement principal guarded) →
      ∀ removed, ∃ answer, (Edit.unprotect removed).apply document principal = .ok answer ∧
        (answer.getD document).size ≤ document.size := by
  have rules : document.KeepsRules := (PolicyDocument.check_eq_ok_iff.mp reachable.check).2
  constructor
  · intro sid
    have within := PolicyDocument.within_without document sid
    exact ⟨document.without sid, within.check rules, within.size_le⟩
  · intro principal guarded found removed
    obtain ⟨answer, applied, within⟩ := exists_unprotected rules found removed
    exact ⟨answer, applied, within.size_le⟩

section Full

/-- A name of a given length. -/
def longName (length : Nat) : String := String.ofList (List.replicate length 'x')

/-- The databases of a guard statement. -/
def twoDatabases : NameSet := .ofList ["db/sales", "db/events"]

/-- A policy with a guard statement for a principal. -/
def guardedPolicy (principal : String) : PolicyDocument :=
  .ofStatements PolicyDocument.defaultVersion [statement principal twoDatabases] (some .managed)

/-- A name is written as it is, in quotes. -/
theorem size_longName (length : Nat) : (Json.string (longName length)).size = length + 2 := by
  have quote : Char.utf8Size '"' = 1 := by decide
  have plain : String.utf8Len (Json.escaped (List.replicate length 'x')) = length := by
    induction length with
    | zero => rfl
    | succ length ih =>
      have letter : String.utf8Len (Json.escape 'x') = 1 := by decide
      rw [Json.escaped] at ih ⊢
      rw [List.replicate_succ, List.flatMap_cons, String.utf8Len_append, letter, ih]
      omega
  simp only [Json.size, Json.text, Json.quoted, longName, String.toList_ofList,
    String.utf8Len_cons, String.utf8Len_append, String.utf8Len_nil, quote, plain]

/-- The size of the policy grows with the name of the principal. -/
theorem size_guardedPolicy (length : Nat) :
    (guardedPolicy (longName length)).size = (guardedPolicy "").size + length := by
  have name := size_longName length
  have noName : (Json.string "").size = 2 := by decide
  simp only [PolicyDocument.size_eq, guardedPolicy, PolicyDocument.ofStatements, List.map_cons,
    List.map_nil, Json.size_array, Json.itemsSize, JsonObject.toJson, Json.size_object,
    members_statement, Json.membersSize, name, noName]
  omega

/-- A managed policy as large as it may be. -/
def fullPolicy : PolicyDocument := guardedPolicy (longName 5947)

/-- The full policy still gives up its guard statement, and one of its two databases. -/
theorem removal_succeeds_full :
    fullPolicy.size = PolicyKind.managed.limit ∧ PolicyDocument.Reachable fullPolicy ∧
      fullPolicy.statement? sid = some (statement (longName 5947) twoDatabases) ∧
      (∃ edited, fullPolicy.delete sid = .ok edited ∧ edited.size ≤ fullPolicy.size) ∧
      ∃ answer, (Edit.unprotect (.ofList ["db/sales"])).apply fullPolicy (longName 5947) =
        .ok answer ∧ (answer.getD fullPolicy).size ≤ fullPolicy.size := by
  have unnamed : (guardedPolicy "").size = 197 := by decide +kernel
  have full : fullPolicy.size = PolicyKind.managed.limit := by
    rw [fullPolicy, size_guardedPolicy, unnamed]
    rfl
  have checked : fullPolicy.check = .ok fullPolicy :=
    PolicyDocument.check_of_size_le rfl nofun (Nat.le_of_eq full)
  have reachable : PolicyDocument.Reachable fullPolicy := .made checked
  have found : fullPolicy.statement? sid = some (statement (longName 5947) twoDatabases) := by
    simp [PolicyDocument.statement?, fullPolicy, guardedPolicy, PolicyDocument.ofStatements,
      sid?_statement]
  obtain ⟨deleting, unprotecting⟩ := removal_succeeds reachable
  exact ⟨full, reachable, found, deleting sid, unprotecting _ _ found _⟩

end Full

end Protection

end ControlPlane
