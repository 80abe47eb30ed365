import ControlPlane.Proofs.Policy.Edits

/-!
# The rules of policy documents

A document keeps to the rules of its kind if its written form is within the limit of the kind and,
for notification topics, every statement is one that a topic may have (`KeepsRules`). Checking a
candidate decides exactly this, and it gives the candidate itself (`check_eq_ok_iff`).
-/
namespace ControlPlane

/-- A statement that the policy of a notification topic may have. -/
structure Statement.FitsTopic (statement : Statement) : Prop where
  /-- All required keys are there. -/
  complete : ∀ key ∈ ["Sid", "Effect", "Principal", "Action", "Resource"],
    ∃ value, statement.find? key = some value
  /-- There are no keys but these and one more. -/
  known : ∀ key ∈ statement.keys,
    key ∈ ["Sid", "Effect", "Principal", "Action", "Resource", "Condition"]
  /-- The effect is one of two texts. -/
  effect : statement.find? "Effect" = some (.string "Allow") ∨
    statement.find? "Effect" = some (.string "Deny")
  /-- The principals are of two types. -/
  principal : ∃ members, statement.find? "Principal" = some (.object members) ∧
    ∀ member ∈ members, member.1 = "AWS" ∨ member.1 = "Federated"

namespace StatementDefect

variable {statement : Statement}

/-- The valid effects are the two texts. -/
theorem effectIsValid_iff :
    effectIsValid statement = true ↔
      statement.find? "Effect" = some (.string "Allow") ∨
        statement.find? "Effect" = some (.string "Deny") := by
  unfold effectIsValid
  split
  · next effect found => simp [found, effects]
  · next other =>
    constructor
    · intro valid
      cases valid
    · rintro (allowed | denied)
      · exact absurd allowed (other _)
      · exact absurd denied (other _)

/-- Valid principals are an object with known types as its keys. -/
theorem principalIsValid_iff :
    principalIsValid statement = true ↔
      ∃ members, statement.find? "Principal" = some (.object members) ∧
        ∀ member ∈ members, member.1 = "AWS" ∨ member.1 = "Federated" := by
  unfold principalIsValid
  split
  · next members found => simp [found, principalTypes]
  · next other =>
    constructor
    · intro valid
      cases valid
    · rintro ⟨members, found, -⟩
      exact absurd found (other members)

/-- A statement has no defect exactly if a topic may have it. -/
theorem of?_eq_none_iff : of? statement = none ↔ statement.FitsTopic := by
  have complete : (requiredKeys.all fun key => (statement.find? key).isSome) = true ↔
      ∀ key ∈ ["Sid", "Effect", "Principal", "Action", "Resource"],
        ∃ value, statement.find? key = some value := by
    simp only [List.all_eq_true, requiredKeys, Option.isSome_iff_exists]
  have known : (statement.keys.all fun key =>
      requiredKeys.contains key || optionalKeys.contains key) = true ↔
      ∀ key ∈ statement.keys,
        key ∈ ["Sid", "Effect", "Principal", "Action", "Resource", "Condition"] := by
    simp [List.all_eq_true, requiredKeys, optionalKeys, or_assoc]
  have all : of? statement = none ↔
      (requiredKeys.all fun key => (statement.find? key).isSome) = true ∧
        (statement.keys.all fun key =>
          requiredKeys.contains key || optionalKeys.contains key) = true ∧
        effectIsValid statement = true ∧ principalIsValid statement = true := by
    unfold of?
    grind
  rw [all, complete, known, effectIsValid_iff, principalIsValid_iff]
  constructor
  · rintro ⟨complete, known, effect, principal⟩
    exact ⟨complete, known, effect, principal⟩
  · rintro ⟨complete, known, effect, principal⟩
    exact ⟨complete, known, effect, principal⟩

end StatementDefect

namespace PolicyDocument

variable {document candidate : PolicyDocument}

/-- A document is as the kind of its policy wants it. -/
structure KeepsRules (document : PolicyDocument) : Prop where
  /-- The written form is within the limit. -/
  size : ∀ kind, document.kind = some kind → document.encode.utf8ByteSize ≤ kind.limit
  /-- A topic has no statements but those that it may have. -/
  topic : document.kind = some .topic → ∀ statement ∈ document.statements, statement.FitsTopic

/-- Statements are accepted exactly if a topic may have each of them. -/
theorem checkStatements_eq_ok_iff {statements : List Statement} :
    checkStatements statements = .ok () ↔ ∀ statement ∈ statements, statement.FitsTopic := by
  induction statements with
  | nil => simp [checkStatements]
  | cons first rest ih =>
    rw [List.forall_mem_cons, ← StatementDefect.of?_eq_none_iff, ← ih, checkStatements]
    cases StatementDefect.of? first <;> simp

/-- The rules for a document of a kind, as they are checked. -/
theorem keepsRules_iff {kind : PolicyKind} (own : document.kind = some kind) :
    document.KeepsRules ↔ document.size ≤ kind.limit ∧
      (kind = .topic → checkStatements document.statements = .ok ()) := by
  constructor
  · rintro ⟨size, topic⟩
    refine ⟨size kind own, ?_⟩
    rintro rfl
    exact checkStatements_eq_ok_iff.mpr (topic own)
  · rintro ⟨size, topic⟩
    refine ⟨fun other found => ?_, fun found => ?_⟩
    · obtain rfl := Option.some.inj (own.symm.trans found)
      exact size
    · exact checkStatements_eq_ok_iff.mp (topic (Option.some.inj (own.symm.trans found)))

/-- A document without a kind has no rules to break. -/
theorem keepsRules_of_none (free : document.kind = none) : document.KeepsRules := by
  constructor <;> simp [free]

/-- Checking accepts exactly the documents that keep to the rules, and changes nothing. -/
theorem check_eq_ok_iff :
    candidate.check = .ok document ↔ document = candidate ∧ candidate.KeepsRules := by
  have accepted : candidate.check = .ok candidate ↔ candidate.KeepsRules := by
    unfold check
    cases own : candidate.kind with
    | none => exact iff_of_true rfl (keepsRules_of_none own)
    | some kind =>
      rw [keepsRules_iff own, ← Nat.not_lt]
      by_cases large : kind.limit < candidate.size
      · simp [large]
      by_cases topic : kind = .topic
      · subst topic
        cases checkStatements candidate.statements <;> simp [large]
      · simp [large, topic]
  constructor
  · intro checked
    obtain rfl := eq_of_check checked
    exact ⟨rfl, accepted.mp checked⟩
  · rintro ⟨rfl, rules⟩
    exact accepted.mpr rules

end PolicyDocument

end ControlPlane
