import ControlPlane.Dictionary

/-!
# Sets of names

A finite set of names, listed in ascending order without repetition. The resources guarded
against deletion form such a set, and listing them in order makes equal sets read the same.
Membership after each operation is stated by one equation.
-/
namespace ControlPlane

/-- A finite set of names. -/
structure NameSet where
  /-- The members, as the keys of a dictionary. -/
  members : Dictionary Unit

namespace NameSet

/-- The set without members. -/
def empty : NameSet := ⟨Dictionary.empty⟩

/-- There is at least the empty set. -/
instance : Inhabited NameSet := ⟨empty⟩

/-- Whether a name is a member. -/
def contains (set : NameSet) (name : String) : Bool := (set.members.find? name).isSome

/-- The members are the names that the set contains. -/
instance : Membership String NameSet := ⟨fun set name => set.contains name = true⟩

/-- Whether a name is a member can be decided. -/
instance (name : String) (set : NameSet) : Decidable (name ∈ set) :=
  inferInstanceAs (Decidable (set.contains name = true))

/-- Add one name. -/
def insert (set : NameSet) (name : String) : NameSet := ⟨set.members.insert name ()⟩

/-- The members in ascending order. -/
def names (set : NameSet) : List String := set.members.keys

/-- The set of the names in a list. -/
def ofList (names : List String) : NameSet := names.foldl insert empty

/-- The names that are in at least one of two sets. -/
def union (first second : NameSet) : NameSet := second.names.foldl insert first

/-- The names of the first set that are not in the second. -/
def difference (first second : NameSet) : NameSet :=
  second.names.foldl (fun set name => ⟨set.members.erase name⟩) first

/-- Whether the set has no members. -/
def isEmpty (set : NameSet) : Bool := set.names.isEmpty

/-- Whether every member of the first set is in the second. -/
def subset (first second : NameSet) : Bool := first.names.all second.contains

/-- Whether two sets have no member in common. -/
def disjoint (first second : NameSet) : Bool := first.names.all fun name => !second.contains name

/-- Sets with the same members are equal. -/
@[ext] theorem ext {first second : NameSet}
    (same : first.members.entries = second.members.entries) : first = second := by
  cases first; cases second; exact congrArg NameSet.mk (Dictionary.ext same)

/-- The members are the names that the set contains. -/
theorem mem_iff {set : NameSet} {name : String} : name ∈ set ↔ set.contains name = true := Iff.rfl

/-- The empty set has no members. -/
@[simp] theorem not_mem_empty (name : String) : name ∉ empty := by
  simp [mem_iff, contains, empty]

/-- After an insertion the members are the new name and the old ones. -/
@[simp] theorem mem_insert {set : NameSet} {name added : String} :
    name ∈ set.insert added ↔ added = name ∨ name ∈ set := by
  simp only [mem_iff, contains, insert, Dictionary.find?_insert]
  split <;> simp_all

/-- Inserting names one after another makes them all members. -/
theorem mem_foldl_insert {names : List String} {set : NameSet} {name : String} :
    name ∈ names.foldl insert set ↔ name ∈ names ∨ name ∈ set := by
  induction names generalizing set with
  | nil => simp
  | cons head rest ih => simp only [List.foldl_cons, ih, mem_insert, List.mem_cons]; grind

/-- The set of a list has exactly the names of the list. -/
@[simp] theorem mem_ofList {names : List String} {name : String} :
    name ∈ ofList names ↔ name ∈ names := by
  simp [ofList, mem_foldl_insert]

/-- The keys are those that something is found under. -/
theorem mem_keys_iff {entries : Entries Unit} {name : String} :
    name ∈ entries.map (·.1) ↔ (entries.find? name).isSome = true := by
  induction entries with
  | nil => simp [Entries.find?]
  | cons head rest ih =>
    obtain ⟨first, held⟩ := head
    simp only [List.map_cons, List.mem_cons, Entries.find?, ih]
    grind

/-- The listed names are exactly the members. -/
@[simp] theorem mem_names {set : NameSet} {name : String} : name ∈ set.names ↔ name ∈ set :=
  mem_keys_iff

/-- The members of a union are those of the two sets. -/
@[simp] theorem mem_union {first second : NameSet} {name : String} :
    name ∈ first.union second ↔ name ∈ second ∨ name ∈ first := by
  simp [union, mem_foldl_insert]

/-- Erasing names one after another leaves the members that are none of them. -/
theorem mem_foldl_erase {names : List String} {set : NameSet} {name : String} :
    name ∈ names.foldl (fun set name => ⟨set.members.erase name⟩) set ↔
      name ∈ set ∧ name ∉ names := by
  induction names generalizing set with
  | nil => simp
  | cons head rest ih =>
    have erased : name ∈ (⟨set.members.erase head⟩ : NameSet) ↔ head ≠ name ∧ name ∈ set := by
      simp only [mem_iff, contains, Dictionary.find?_erase]
      split <;> simp_all
    simp only [List.foldl_cons, ih, erased, List.mem_cons]
    grind

/-- The members of a difference are those of the first set that are not in the second. -/
@[simp] theorem mem_difference {first second : NameSet} {name : String} :
    name ∈ first.difference second ↔ name ∈ first ∧ name ∉ second := by
  simp [difference, mem_foldl_erase]

/-- A set is part of another one if its members are. -/
theorem subset_iff {first second : NameSet} :
    first.subset second = true ↔ ∀ name ∈ first, name ∈ second := by
  simp [subset, List.all_eq_true, mem_iff]

/-- Two sets are disjoint if no member of the first is in the second. -/
theorem disjoint_iff {first second : NameSet} :
    first.disjoint second = true ↔ ∀ name ∈ first, name ∉ second := by
  simp [disjoint, List.all_eq_true, mem_iff]

/-- A set is empty if nothing is a member. -/
theorem isEmpty_iff {set : NameSet} : set.isEmpty = true ↔ ∀ name, name ∉ set := by
  simp only [isEmpty, List.isEmpty_iff, List.eq_nil_iff_forall_not_mem, mem_names]

end NameSet

end ControlPlane
