import ControlPlane.Dictionary

/-!
# Dictionaries with other values

Every entry of a dictionary is found under its key, and what is found is an entry. A change of all
values goes along with looking up, inserting and erasing (`Dictionary.map`).
-/
namespace ControlPlane

namespace Entries

variable {α β : Type}

/-- The same keys with other values. -/
def mapValues (change : α → β) (entries : Entries α) : Entries β :=
  entries.map fun entry => (entry.1, change entry.2)

/-- Other values keep the keys in order. -/
theorem ascending_mapValues {change : α → β} {entries : Entries α} (ascending : entries.Ascending) :
    Ascending (entries.mapValues change) :=
  List.pairwise_map.mpr ascending

/-- What is found among other values. -/
theorem find?_mapValues (change : α → β) (entries : Entries α) (key : String) :
    (entries.mapValues change).find? key = (entries.find? key).map change := by
  induction entries with
  | nil => rfl
  | cons head rest ih =>
    obtain ⟨first, held⟩ := head
    change (if first = key then some (change held) else find? (mapValues change rest) key) = _
    rw [ih, find?]
    split <;> rfl

/-- What is found is an entry. -/
theorem mem_of_find? {entries : Entries α} {key : String} {value : α}
    (found : entries.find? key = some value) : (key, value) ∈ entries := by
  induction entries with
  | nil => cases found
  | cons head rest ih =>
    obtain ⟨first, held⟩ := head
    rw [find?] at found
    split at found
    next same =>
      cases found
      subst same
      exact List.mem_cons_self ..
    next => exact List.mem_cons_of_mem _ (ih found)

/-- Every entry is found under its key. -/
theorem find?_of_mem {entries : Entries α} (ascending : entries.Ascending) {key : String}
    {value : α} (member : (key, value) ∈ entries) : entries.find? key = some value := by
  induction entries with
  | nil => cases member
  | cons head rest ih =>
    obtain ⟨first, held⟩ := head
    have tail := List.pairwise_cons.1 ascending
    rw [find?]
    rcases List.mem_cons.1 member with same | later
    · cases same
      exact if_pos rfl
    · have before : first < key := tail.1 _ later
      have different : first ≠ key := fun same => String.lt_irrefl key (same ▸ before)
      rw [if_neg different]
      exact ih tail.2 later

/-- Inserting goes on among other values. -/
theorem mapValues_insert (change : α → β) (entries : Entries α) (key : String) (value : α) :
    (entries.insert key value).mapValues change =
      (entries.mapValues change).insert key (change value) := by
  induction entries with
  | nil => rfl
  | cons head rest ih =>
    obtain ⟨first, held⟩ := head
    change mapValues change (if key < first then (key, value) :: (first, held) :: rest
      else if key = first then (key, value) :: rest
      else (first, held) :: insert rest key value) =
        if key < first then (key, change value) :: (first, change held) :: mapValues change rest
        else if key = first then (key, change value) :: mapValues change rest
        else (first, change held) :: insert (mapValues change rest) key (change value)
    rw [← ih]
    repeat' split
    all_goals rfl

/-- Erasing goes on among other values. -/
theorem mapValues_erase (change : α → β) (entries : Entries α) (key : String) :
    (entries.erase key).mapValues change = (entries.mapValues change).erase key := by
  induction entries with
  | nil => rfl
  | cons head rest ih =>
    obtain ⟨first, held⟩ := head
    change mapValues change (if first = key then rest else (first, held) :: erase rest key) =
      if first = key then mapValues change rest
      else (first, change held) :: erase (mapValues change rest) key
    rw [← ih]
    split <;> rfl

end Entries

namespace Dictionary

variable {α β : Type}

/-- The same keys with other values. -/
def map (change : α → β) (dictionary : Dictionary α) : Dictionary β :=
  ⟨dictionary.entries.mapValues change, Entries.ascending_mapValues dictionary.ascending⟩

/-- What is found after a change of all values is the changed value. -/
theorem find?_map (change : α → β) (dictionary : Dictionary α) (key : String) :
    (dictionary.map change).find? key = (dictionary.find? key).map change :=
  Entries.find?_mapValues change dictionary.entries key

/-- An insertion may come before a change of all values or after it. -/
theorem map_insert (change : α → β) (dictionary : Dictionary α) (key : String) (value : α) :
    (dictionary.insert key value).map change = (dictionary.map change).insert key (change value) :=
  ext (Entries.mapValues_insert change dictionary.entries key value)

/-- A removal may come before a change of all values or after it. -/
theorem map_erase (change : α → β) (dictionary : Dictionary α) (key : String) :
    (dictionary.erase key).map change = (dictionary.map change).erase key :=
  ext (Entries.mapValues_erase change dictionary.entries key)

/-- A change of all values changes each of them. -/
theorem values_map (change : α → β) (dictionary : Dictionary α) :
    (dictionary.map change).values = dictionary.values.map change := by
  simp [values, map, Entries.mapValues]

end Dictionary

end ControlPlane
