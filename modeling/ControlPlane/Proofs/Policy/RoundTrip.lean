import ControlPlane.Policy.Protection
import ControlPlane.Proofs.Json.RoundTrip
import ControlPlane.Proofs.Policy.Edits

/-!
# Policies read back from their written form

A policy document that came about by the operations on documents keeps to the rules of its kind
(`Reachable.check`). So its written form is read back as the same document, statements with all
their members included, if it has no binary64 numbers and nests no deeper than readers go
(`read_encode`): reading finds the candidate of the written form, which is the document, and checks
it once more.
-/
namespace ControlPlane.PolicyDocument

variable {document : PolicyDocument}

/-- A document comes about by the operations on documents. -/
inductive Reachable : PolicyDocument → Prop where
  /-- It is made of statements. -/
  | made {version : String} {statements : List Statement} {kind : Option PolicyKind}
      {document : PolicyDocument}
      (checked : (ofStatements version statements kind).check = .ok document) : Reachable document
  /-- It is read from a text. -/
  | read {text : String} {kind : Option PolicyKind} {storeHash : Option String}
      {document : PolicyDocument} (given : PolicyDocument.read text kind storeHash = .ok document) :
      Reachable document
  /-- A statement is added to one that came about. -/
  | added {document edited : PolicyDocument} {statement : Statement} (earlier : Reachable document)
      (done : document.addOrUpdate statement = .ok edited) : Reachable edited
  /-- An identifier is deleted from one that came about. -/
  | deleted {document edited : PolicyDocument} {sid : String} (earlier : Reachable document)
      (done : document.delete sid = .ok edited) : Reachable edited
  /-- The protection of one that came about is edited. -/
  | guarded {document edited : PolicyDocument} {edit : Protection.Edit} {principal : String}
      (earlier : Reachable document)
      (done : edit.apply document principal = .ok (some edited)) : Reachable edited

/-- A document that was checked keeps to the rules of its kind. -/
theorem check_of_check {candidate : PolicyDocument} (checked : candidate.check = .ok document) :
    document.check = .ok document := by
  obtain rfl := eq_of_check checked
  exact checked

/-- Only topics want more than a size within the limit. -/
theorem check_of_size_le {kind : PolicyKind} (own : document.kind = some kind)
    (noTopic : kind ≠ .topic) (within : document.size ≤ kind.limit) :
    document.check = .ok document := by
  simp only [check, own]
  rw [if_neg (Nat.not_lt.mpr within), if_neg noTopic]

/-- Whatever comes about keeps to the rules of its kind. -/
theorem Reachable.check (reachable : Reachable document) : document.check = .ok document := by
  cases reachable with
  | made checked => exact check_of_check checked
  | @read text kind storeHash _ given =>
    unfold PolicyDocument.read at given
    cases found : ofText text kind storeHash with
    | error error =>
      rw [found] at given
      cases given
    | ok candidate =>
      rw [found] at given
      exact check_of_check given
  | added _ done => exact check_of_check done
  | deleted _ done => exact check_of_check done
  | @guarded document _ edit principal _ done =>
    unfold Protection.Edit.apply at done
    cases found : edit.candidate? document principal with
    | none =>
      rw [found] at done
      cases done
    | some candidate =>
      simp only [found] at done
      cases checked : candidate.check with
      | error error =>
        rw [checked] at done
        cases done
      | ok same =>
        rw [checked] at done
        cases done
        exact check_of_check checked

/-- A document as a value has its members in order, at every depth. -/
theorem ordered_toJson (document : PolicyDocument) : document.toJson.Ordered := by
  have statements : Json.ItemsOrdered (document.statements.map JsonObject.toJson) := by
    induction document.statements with
    | nil => trivial
    | cons statement rest ih => exact ⟨statement.ordered, ih⟩
  have before : "Statement" < "Version" := by decide
  have ascending : Entries.Ascending
      [("Statement", Json.array (document.statements.map JsonObject.toJson)),
        ("Version", .string document.version)] := List.pairwise_pair.mpr before
  exact ⟨ascending, statements, trivial, trivial⟩

/-- A document has no binary64 numbers if its statements have none. -/
theorem isIntegral_toJson
    (integral : ∀ statement ∈ document.statements, statement.toJson.isIntegral = true) :
    document.toJson.isIntegral = true := by
  have statements : Json.itemsIntegral (document.statements.map JsonObject.toJson) = true := by
    refine Json.itemsIntegral_iff.mpr fun item member => ?_
    obtain ⟨statement, listed, rfl⟩ := List.mem_map.mp member
    exact integral statement listed
  simp [toJson, Json.isIntegral, Json.membersIntegral, statements]

/-- The statements of a document are found among its values. -/
theorem statementsOfItems_map (statements : List Statement) :
    statementsOfItems (statements.map JsonObject.toJson) = .ok statements := by
  induction statements with
  | nil => rfl
  | cons statement rest ih =>
    change (do
      let others ← statementsOfItems (rest.map JsonObject.toJson)
      return JsonObject.ofMembers statement.members :: others) = _
    rw [ih, statement.ofMembers_members]
    rfl

/-- The value of a document is that of the document. -/
theorem ofJson_toJson (document : PolicyDocument) :
    ofJson document.toJson document.kind document.storeHash = .ok document := by
  have statements := statementsOfItems_map document.statements
  have version : Entries.find?
      [("Statement", Json.array (document.statements.map JsonObject.toJson)),
        ("Version", .string document.version)] "Version" = some (.string document.version) := rfl
  have listed : Entries.find?
      [("Statement", Json.array (document.statements.map JsonObject.toJson)),
        ("Version", .string document.version)] "Statement" =
          some (.array (document.statements.map JsonObject.toJson)) := rfl
  unfold ofJson toJson
  simp only [version, listed, statements]
  rfl

/-- A document is read back from its written form as it is, so its written form stays the same. -/
theorem read_encode (document : PolicyDocument) (reachable : Reachable document)
    (integral : ∀ statement ∈ document.statements, statement.toJson.isIntegral = true)
    (shallow : document.toJson.nesting ≤ JsonReader.depthLimit) :
    PolicyDocument.read document.encode document.kind document.storeHash = .ok document := by
  have parsed := Json.parse_compact (isIntegral_toJson integral) shallow
  rw [Json.normalize_eq_self document.ordered_toJson] at parsed
  have candidate : ofText document.encode document.kind document.storeHash = .ok document := by
    unfold ofText encode
    rw [parsed]
    exact ofJson_toJson document
  unfold PolicyDocument.read
  rw [candidate]
  exact reachable.check

/-- A statement with members that are not known, nested ones and texts with escapes among them. -/
def sampleStatement : Statement :=
  .ofMembers [("Sid", .string "own \"note\"\n"), ("Effect", .string "Allow"),
    ("Limits", .array [.ofInt 18446744073709551615, .ofInt (-9223372036854775808), .object [],
      .null])]

/-- A bucket policy without statements. -/
def emptyBucket : PolicyDocument := ofStatements defaultVersion [] (some .bucket)

/-- A bucket policy that a statement was added to. -/
def sampleBucket : PolicyDocument := emptyBucket.put sampleStatement

/-- An edited bucket policy is read back. -/
theorem read_encode_sampleBucket :
    Reachable sampleBucket ∧
      (∀ statement ∈ sampleBucket.statements, statement.toJson.isIntegral = true) ∧
        sampleBucket.toJson.nesting ≤ JsonReader.depthLimit ∧
          PolicyDocument.read sampleBucket.encode sampleBucket.kind sampleBucket.storeHash =
            .ok sampleBucket := by
  have empty : emptyBucket.check = .ok emptyBucket :=
    check_of_size_le rfl (by decide) (by decide +kernel)
  have filled : sampleBucket.check = .ok sampleBucket :=
    check_of_size_le rfl (by decide) (by decide +kernel)
  have reachable : Reachable sampleBucket := .added (.made empty) filled
  have integral : ∀ statement ∈ sampleBucket.statements, statement.toJson.isIntegral = true := by
    decide
  have shallow : sampleBucket.toJson.nesting ≤ JsonReader.depthLimit := by decide
  exact ⟨reachable, integral, shallow, read_encode sampleBucket reachable integral shallow⟩

end ControlPlane.PolicyDocument
