import ControlPlane.Proofs.Policy.Enforcement
import Mathlib.Data.List.Flatten

/-!
# The principals of an action

The principals that are listed for an action are those of the statements that name it, in their
order, type by type (`listed_eq`). A statement that names an action need not grant it: one that
denies it is gathered as well (`denied_principal_listed`). No principal that the action is granted
to is left out, and nothing else is listed exactly if no other statement that names the action has
principals of the type (`granted_exactly_iff`).
-/
namespace ControlPlane

/-- A value in an ordered object is ordered. -/
theorem Json.ordered_of_find? {members : Entries Json} {key : String} {value : Json}
    (ordered : Json.MembersOrdered members) (found : members.find? key = some value) :
    value.Ordered := by
  induction members with
  | nil => cases found
  | cons head rest ih =>
    obtain ⟨first, held⟩ := head
    rw [Json.MembersOrdered] at ordered
    rw [Entries.find?] at found
    split at found
    · obtain rfl := Option.some.inj found
      exact ordered.1
    · exact ih ordered.2 found

namespace Statement

/-- Whether the effect of a statement is to allow. -/
def allows (statement : Statement) : Bool :=
  (statement.find? "Effect").bind Json.asString? = some "Allow"

/-- Whether a statement grants an action: it names the action, and it allows it. -/
def grants (statement : Statement) (action : String) : Bool :=
  statement.allows && statement.names action

/-- Whether a statement has principals of a type, if only an empty list of them. -/
def hasPrincipals (statement : Statement) (kind : String) : Bool :=
  (Entries.find? statement.principalMembers kind).isSome

/-- The types of principals of a statement rise strictly. -/
theorem ascending_principalMembers (statement : Statement) :
    Entries.Ascending statement.principalMembers := by
  have ordered : Json.MembersOrdered statement.members := by
    have whole := statement.ordered
    rw [Json.Ordered] at whole
    exact whole.2
  unfold principalMembers
  split
  next members found =>
    have inner := Json.ordered_of_find? ordered found
    rw [Json.Ordered] at inner
    exact inner.1
  next => exact Entries.ascending_nil

/-- A statement without principals of a type names none. -/
theorem principals_of_not_hasPrincipals {statement : Statement} {kind : String}
    (absent : statement.hasPrincipals kind = false) : statement.principals kind = [] := by
  have missing : Entries.find? statement.principalMembers kind = none := by
    simpa [hasPrincipals] using absent
  rw [principals, missing]

end Statement

namespace PolicyDocument

variable {document : PolicyDocument} {action kind : String}

/-- The principals of a type that are listed for an action. -/
def listed (document : PolicyDocument) (action kind : String) : List String :=
  ((document.principalsNaming action).find? kind).getD []

/-- The principals of a type that an action is granted to: those of the statements that grant it, in
their order. -/
def grantees (document : PolicyDocument) (action kind : String) : List String :=
  (document.statements.filter fun statement => statement.grants action).flatMap fun statement =>
    statement.principals kind

section Gathering

variable {gathered : Dictionary (List String)}

/-- The principals of a statement are added type by type. -/
theorem find?_foldl_gatherPrincipal {members : Entries Json} (ascending : members.Ascending)
    (gathered : Dictionary (List String)) (kind : String) :
    (members.foldl gatherPrincipal gathered).find? kind =
      match members.find? kind with
      | some value => some ((gathered.find? kind).getD [] ++ value.stringOrList)
      | none => gathered.find? kind := by
  induction members generalizing gathered with
  | nil => rfl
  | cons head rest ih =>
    obtain ⟨first, value⟩ := head
    obtain ⟨later, restAscending⟩ := List.pairwise_cons.mp ascending
    rw [List.foldl_cons, ih restAscending, gatherPrincipal, Dictionary.find?_insert, Entries.find?]
    by_cases same : first = kind
    · -- the type comes only once in a statement
      subst same
      have absent : Entries.find? rest first = none := Entries.find?_eq_none_of_lt later
      simp [absent]
    · simp [same]

/-- A statement that names the action adds its principals, and any other one nothing. -/
theorem find?_gatherPrincipals (action : String) (gathered : Dictionary (List String))
    (statement : Statement) (kind : String) :
    (gatherPrincipals action gathered statement).find? kind =
      if statement.names action && statement.hasPrincipals kind then
        some ((gathered.find? kind).getD [] ++ statement.principals kind)
      else gathered.find? kind := by
  unfold gatherPrincipals
  by_cases named : statement.names action = true
  · rw [if_pos named, find?_foldl_gatherPrincipal statement.ascending_principalMembers]
    unfold Statement.hasPrincipals Statement.principals
    cases Entries.find? statement.principalMembers kind with
    | none => simp
    | some value => simp [named]
  · simp [named]

/-- What is listed grows by the principals of each statement that names the action. -/
theorem getD_foldl_gatherPrincipals (action : String) (statements : List Statement)
    (gathered : Dictionary (List String)) (kind : String) :
    ((statements.foldl (gatherPrincipals action) gathered).find? kind).getD [] =
      (gathered.find? kind).getD [] ++
        (statements.filter fun statement => statement.names action).flatMap fun statement =>
          statement.principals kind := by
  induction statements generalizing gathered with
  | nil => simp
  | cons first rest ih =>
    have added : ((gatherPrincipals action gathered first).find? kind).getD [] =
        (gathered.find? kind).getD [] ++
          if first.names action then first.principals kind else [] := by
      rw [find?_gatherPrincipals]
      cases named : first.names action with
      | false => simp
      | true =>
        cases present : first.hasPrincipals kind with
        | false => simp [Statement.principals_of_not_hasPrincipals present]
        | true => simp
    rw [List.foldl_cons, ih, added, List.append_assoc, List.filter_cons]
    split <;> simp

/-- A type is listed once a statement that names the action has it. -/
theorem isSome_foldl_gatherPrincipals (action : String) (statements : List Statement)
    (gathered : Dictionary (List String)) (kind : String) :
    ((statements.foldl (gatherPrincipals action) gathered).find? kind).isSome =
      ((gathered.find? kind).isSome || statements.any fun statement =>
        statement.names action && statement.hasPrincipals kind) := by
  induction statements generalizing gathered with
  | nil => simp
  | cons first rest ih =>
    rw [List.foldl_cons, ih, find?_gatherPrincipals, List.any_cons]
    cases first.names action && first.hasPrincipals kind <;> simp

end Gathering

/-- Listed are the principals of the statements that name the action, whatever their effect. -/
theorem listed_eq (document : PolicyDocument) (action kind : String) :
    document.listed action kind =
      (document.statements.filter fun statement => statement.names action).flatMap fun statement =>
        statement.principals kind := by
  have gathered :=
    getD_foldl_gatherPrincipals action document.statements Dictionary.empty kind
  rwa [Dictionary.find?_empty, Option.getD_none, List.nil_append] at gathered

/-- The statements that grant an action are those that name it and allow it. -/
theorem grantees_eq (document : PolicyDocument) (action kind : String) :
    document.grantees action kind =
      ((document.statements.filter fun statement => statement.names action).filter
        Statement.allows).flatMap fun statement => statement.principals kind := by
  rw [List.filter_filter]
  rfl

/-- Taking elements out of a list takes nothing out of what they yield exactly if they yield
nothing. -/
theorem flatMap_eq_flatMap_filter_iff {α β : Type} (yield : α → List β) (keep : α → Bool)
    (elements : List α) :
    elements.flatMap yield = (elements.filter keep).flatMap yield ↔
      ∀ element ∈ elements, keep element = false → yield element = [] := by
  induction elements with
  | nil => simp
  | cons first rest ih =>
    rw [List.forall_mem_cons, ← ih, List.filter_cons, List.flatMap_cons]
    cases kept : keep first with
    | true => simp
    | false =>
      rw [if_neg Bool.false_ne_true]
      -- what is left yields no more than before, so nothing can make up for the first element
      have fewer : ((rest.filter keep).flatMap yield).length ≤ (rest.flatMap yield).length :=
        (List.filter_sublist.flatMap yield).length_le
      constructor
      · intro same
        have lengths := congrArg List.length same
        rw [List.length_append] at lengths
        have nothing : yield first = [] := List.eq_nil_of_length_eq_zero (by omega)
        exact ⟨fun _ => nothing, by simpa [nothing] using same⟩
      · rintro ⟨nothing, same⟩
        simp [nothing rfl, same]

/-- A principal whose deletion of databases is denied by the only statement of a policy is listed
for this action. -/
theorem denied_principal_listed :
    ∃ document, read Protection.foreignText none none = .ok document ∧
      document.listed Protection.action "AWS" = ["former"] ∧
      document.grantees Protection.action "AWS" = [] ∧
      ∀ statement ∈ document.statements,
        (statement.find? "Effect").bind Json.asString? = some "Deny" := by
  have computed : (match read Protection.foreignText none none with
      | .ok document =>
        decide (document.listed Protection.action "AWS" = ["former"] ∧
          document.grantees Protection.action "AWS" = [] ∧
          ∀ statement ∈ document.statements,
            (statement.find? "Effect").bind Json.asString? = some "Deny")
      | .error _ => false) = true := by decide +kernel
  cases given : read Protection.foreignText none none with
  | error error => simp [given] at computed
  | ok document =>
    simp only [given, decide_eq_true_eq] at computed
    exact ⟨document, rfl, computed⟩

/-- Listed are, in their order and type by type, the principals of the statements that name the
action. Whoever is granted the action is listed; and only those are, exactly if no statement that
names the action without allowing it has principals of the type. -/
theorem granted_exactly_iff (document : PolicyDocument) (action kind : String) :
    document.listed action kind =
      ((document.statements.filter fun statement => statement.names action).flatMap fun statement =>
        statement.principals kind) ∧
    (((document.principalsNaming action).find? kind).isSome = true ↔
      ∃ statement ∈ document.statements,
        statement.names action = true ∧ statement.hasPrincipals kind = true) ∧
    (document.grantees action kind).Sublist (document.listed action kind) ∧
    (document.listed action kind = document.grantees action kind ↔
      ∀ statement ∈ document.statements, statement.names action = true →
        statement.allows = false → statement.principals kind = []) := by
  have listed := listed_eq document action kind
  refine ⟨listed, ?_, ?_, ?_⟩
  · have present :=
      isSome_foldl_gatherPrincipals action document.statements Dictionary.empty kind
    rw [Dictionary.find?_empty, Option.isSome_none, Bool.false_or] at present
    rw [principalsNaming, present]
    simp
  · rw [listed, grantees_eq]
    exact List.filter_sublist.flatMap _
  · rw [listed, grantees_eq, flatMap_eq_flatMap_filter_iff]
    simp

end PolicyDocument

end ControlPlane
