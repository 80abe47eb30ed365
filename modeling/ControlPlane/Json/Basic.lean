import ControlPlane.Dictionary
import ControlPlane.Number.Binary64

/-!
# JSON values

A value is a tree whose numbers are either integers of the 64-bit ranges or binary64 numbers. An
object lists its members in ascending key order; `Json.Ordered` says so of every object in a
value, and `Json.normalize` brings any tree into that form, the last of several members with one
key winning (`ordered_normalize`, `normalize_eq_self`). A `JsonObject` carries the order with it.
-/
namespace ControlPlane

/-- A JSON number. -/
inductive JsonNumber where
  /-- An integer between the least signed and the greatest unsigned 64-bit integer. -/
  | integer (value : { value : Int // -9223372036854775808 ≤ value ∧ value < 18446744073709551616 })
  /-- Any other number, rounded to binary64. -/
  | real (value : Binary64)
deriving DecidableEq

namespace JsonNumber

/-- The number of an integer: exact within the 64-bit ranges, rounded beyond them. -/
def ofInt (value : Int) : JsonNumber :=
  if bounds : -9223372036854775808 ≤ value ∧ value < 18446744073709551616 then .integer ⟨value, bounds⟩
  else .real ((Binary64.ofRatio? (value < 0) value.natAbs 1).getD (Binary64.zero false))

/-- Equality of values: an integer never equals a binary64 number. -/
def same : JsonNumber → JsonNumber → Bool
  | .integer first, .integer second => first == second
  | .real first, .real second => first.same second
  | _, _ => false

end JsonNumber

/-- A JSON value. -/
inductive Json where
  | null
  | bool (value : Bool)
  | number (value : JsonNumber)
  | string (value : String)
  | array (items : List Json)
  | object (members : List (String × Json))

namespace Json

/-- There is at least the value `null`. -/
instance : Inhabited Json := ⟨null⟩

mutual

/-- The members of every object rise strictly in key order. -/
def Ordered : Json → Prop
  | null | bool _ | number _ | string _ => True
  | array items => ItemsOrdered items
  | object members => Entries.Ascending members ∧ MembersOrdered members

/-- Every item is ordered. -/
def ItemsOrdered : List Json → Prop
  | [] => True
  | item :: rest => Ordered item ∧ ItemsOrdered rest

/-- Every member's value is ordered. -/
def MembersOrdered : List (String × Json) → Prop
  | [] => True
  | (_, value) :: rest => Ordered value ∧ MembersOrdered rest

end

mutual

/-- The same value with its members in key order, the last one of a key winning. -/
def normalize : Json → Json
  | null => null
  | bool value => bool value
  | number value => number value
  | string value => string value
  | array items => array (normalizeItems items)
  | object members => object (normalizeMembers members [])

/-- The normal form of every item. -/
def normalizeItems : List Json → List Json
  | [] => []
  | item :: rest => normalize item :: normalizeItems rest

/-- Insert the normal form of every member into the members gathered so far. -/
def normalizeMembers : List (String × Json) → Entries Json → Entries Json
  | [], gathered => gathered
  | (key, value) :: rest, gathered =>
    normalizeMembers rest (gathered.insert key (normalize value))

end

mutual

/-- Equality of values, in which the two zeros are equal. -/
def same : Json → Json → Bool
  | null, null => true
  | bool first, bool second => first == second
  | number first, number second => first.same second
  | string first, string second => first == second
  | array first, array second => sameItems first second
  | object first, object second => sameMembers first second
  | _, _ => false

/-- Equality of items one by one. -/
def sameItems : List Json → List Json → Bool
  | [], [] => true
  | first :: firsts, second :: seconds => same first second && sameItems firsts seconds
  | _, _ => false

/-- Equality of members one by one. -/
def sameMembers : List (String × Json) → List (String × Json) → Bool
  | [], [] => true
  | (firstKey, first) :: firsts, (secondKey, second) :: seconds =>
    firstKey == secondKey && same first second && sameMembers firsts seconds
  | _, _ => false

end

/-- Inserting a member keeps the members in order. -/
theorem membersOrdered_insert {members : Entries Json} (ordered : MembersOrdered members)
    (key : String) {value : Json} (valueOrdered : Ordered value) :
    MembersOrdered (Entries.insert members key value) := by
  induction members with
  | nil => simp [Entries.insert, MembersOrdered, valueOrdered]
  | cons head rest ih =>
    obtain ⟨first, held⟩ := head
    simp only [MembersOrdered] at ordered
    simp only [Entries.insert]
    split
    · simp [MembersOrdered, valueOrdered, ordered]
    · split
      · simp [MembersOrdered, valueOrdered, ordered]
      · simp [MembersOrdered, ordered, ih ordered.2]

mutual

/-- The normal form is ordered. -/
theorem ordered_normalize : ∀ value : Json, Ordered (normalize value)
  | null | bool _ | number _ | string _ => by simp [normalize, Ordered]
  | array items => by
    simp only [normalize, Ordered]
    exact itemsOrdered_normalizeItems items
  | object members => by
    simp only [normalize, Ordered]
    exact ordered_normalizeMembers members Entries.ascending_nil trivial

/-- Every item of a normal form is ordered. -/
theorem itemsOrdered_normalizeItems : ∀ items : List Json, ItemsOrdered (normalizeItems items)
  | [] => by simp [normalizeItems, ItemsOrdered]
  | item :: rest => by
    simp only [normalizeItems, ItemsOrdered]
    exact ⟨ordered_normalize item, itemsOrdered_normalizeItems rest⟩

/-- Gathering members keeps them ordered. -/
theorem ordered_normalizeMembers : ∀ (members : List (String × Json)) {gathered : Entries Json},
    gathered.Ascending → MembersOrdered gathered →
      (normalizeMembers members gathered).Ascending ∧
        MembersOrdered (normalizeMembers members gathered)
  | [], _, ascending, ordered => by
    simp only [normalizeMembers]
    exact ⟨ascending, ordered⟩
  | (key, value) :: rest, _, ascending, ordered => by
    simp only [normalizeMembers]
    exact ordered_normalizeMembers rest (Entries.ascending_insert ascending _ _)
      (membersOrdered_insert ordered _ (ordered_normalize value))

end

/-- A key that comes after all others is inserted at the end. -/
theorem insert_of_all_lt {gathered : Entries Json} {key : String} {value : Json}
    (before : ∀ entry ∈ gathered, entry.1 < key) :
    gathered.insert key value = gathered ++ [(key, value)] := by
  induction gathered with
  | nil => rfl
  | cons head rest ih =>
    obtain ⟨first, held⟩ := head
    have earlier : first < key := before _ (List.mem_cons_self ..)
    have notAfter : ¬ key < first := String.lt_asymm earlier
    have different : key ≠ first := fun same => String.lt_irrefl key (same ▸ earlier)
    simp only [Entries.insert, if_neg notAfter, if_neg different, List.cons_append]
    rw [ih fun entry member => before entry (List.mem_cons_of_mem _ member)]

mutual

/-- An ordered value is its own normal form. -/
theorem normalize_eq_self : ∀ {value : Json}, Ordered value → normalize value = value
  | null, _ | bool _, _ | number _, _ | string _, _ => by simp [normalize]
  | array items, ordered => by
    simp only [Ordered] at ordered
    simp only [normalize, normalizeItems_eq_self ordered]
  | object members, ordered => by
    simp only [Ordered] at ordered
    simp only [normalize]
    rw [normalizeMembers_eq_append ordered.2 ordered.1 (by simp), List.nil_append]

/-- Ordered items are their own normal forms. -/
theorem normalizeItems_eq_self : ∀ {items : List Json}, ItemsOrdered items →
    normalizeItems items = items
  | [], _ => by simp [normalizeItems]
  | item :: rest, ordered => by
    simp only [ItemsOrdered] at ordered
    simp only [normalizeItems, normalize_eq_self ordered.1, normalizeItems_eq_self ordered.2]

/-- Ordered members that come after the gathered ones are appended to them. -/
theorem normalizeMembers_eq_append : ∀ {members : List (String × Json)} {gathered : Entries Json},
    MembersOrdered members → Entries.Ascending members →
      (∀ entry ∈ gathered, ∀ member ∈ members, entry.1 < member.1) →
        normalizeMembers members gathered = gathered ++ members
  | [], gathered, _, _, _ => by simp [normalizeMembers]
  | (key, value) :: rest, gathered, ordered, ascending, before => by
    simp only [MembersOrdered] at ordered
    have tail := List.pairwise_cons.1 ascending
    have head : ∀ entry ∈ gathered, entry.1 < key :=
      fun entry member => before entry member _ (List.mem_cons_self ..)
    simp only [normalizeMembers, normalize_eq_self ordered.1]
    rw [insert_of_all_lt head, normalizeMembers_eq_append ordered.2 tail.2, List.append_assoc,
      List.singleton_append]
    intro entry member later laterMember
    rcases List.mem_append.1 member with old | new
    · exact before entry old later (List.mem_cons_of_mem _ laterMember)
    · rw [List.mem_singleton] at new
      subst new
      exact tail.1 later laterMember

end

/-- The text of a string value. -/
def asString? : Json → Option String
  | string value => some value
  | _ => none

/-- The number of an integer value. -/
def ofInt (value : Int) : Json := number (.ofInt value)

/-- A string or a list of strings as a list: of any other value nothing, and of a list only its
strings. -/
def stringOrList : Json → List String
  | string value => [value]
  | array items => items.filterMap asString?
  | _ => []

end Json

/-- A JSON object whose members, at every depth, are in key order. -/
structure JsonObject where
  /-- The members in key order. -/
  members : Entries Json
  /-- The order holds at every depth. -/
  ordered : (Json.object members).Ordered

namespace JsonObject

/-- The object without members. -/
def empty : JsonObject := ⟨[], by simp [Json.Ordered, Json.MembersOrdered, Entries.ascending_nil]⟩

/-- There is at least the empty object. -/
instance : Inhabited JsonObject := ⟨empty⟩

/-- The object of any list of members, the last one of a key winning. -/
def ofMembers (members : List (String × Json)) : JsonObject :=
  ⟨Json.normalizeMembers members [], by
    have ordered := Json.ordered_normalize (.object members)
    simpa only [Json.normalize] using ordered⟩

/-- The object as a value. -/
def toJson (object : JsonObject) : Json := .object object.members

/-- The value of a key. -/
def find? (object : JsonObject) (key : String) : Option Json := object.members.find? key

/-- The keys in ascending order. -/
def keys (object : JsonObject) : List String := object.members.map (·.1)

/-- Equality of values, in which the two zeros are equal. -/
def same (first second : JsonObject) : Bool := first.toJson.same second.toJson

/-- Objects with the same members are equal. -/
@[ext] theorem ext {first second : JsonObject} (same : first.members = second.members) :
    first = second := by
  cases first; cases second; cases same; rfl

/-- The members of an object are already in normal form. -/
theorem ofMembers_members (object : JsonObject) : ofMembers object.members = object := by
  have same := Json.normalize_eq_self object.ordered
  simp only [Json.normalize, Json.object.injEq] at same
  exact ext same

end JsonObject

end ControlPlane
