/-!
# Dictionaries

A dictionary is a list of entries in strictly ascending key order, so each key occurs at most
once and two dictionaries with the same look-ups are the same list. JSON objects, lock rows and
policy stores are kept in this form. Keys are compared by code points, which for text is also
the order of its UTF-8 bytes.

Insertion and removal keep the order (`ascending_insert`, `ascending_erase`), and every look-up
after either is stated by one equation (`find?_insert`, `find?_erase`). So is every sum over the
values (`total_insert`, `total_erase`).
-/
namespace ControlPlane

/-- Entries in the order in which they are listed. -/
abbrev Entries (α : Type) := List (String × α)

namespace Entries

variable {α : Type}

/-- The keys rise strictly from entry to entry. -/
def Ascending (entries : Entries α) : Prop :=
  entries.Pairwise fun first second => first.1 < second.1

/-- Whether entries are in order can be decided. -/
instance (entries : Entries α) : Decidable entries.Ascending :=
  inferInstanceAs (Decidable (List.Pairwise _ entries))

/-- The value stored under a key. -/
def find? : Entries α → String → Option α
  | [], _ => none
  | (key, value) :: rest, wanted => if key = wanted then some value else find? rest wanted

/-- Store a value under a key, replacing the value stored there before. -/
def insert : Entries α → String → α → Entries α
  | [], key, value => [(key, value)]
  | (first, held) :: rest, key, value =>
    if key < first then (key, value) :: (first, held) :: rest
    else if key = first then (key, value) :: rest
    else (first, held) :: insert rest key value

/-- Remove the entry of a key, if there is one. -/
def erase : Entries α → String → Entries α
  | [], _ => []
  | (first, held) :: rest, key => if first = key then rest else (first, held) :: erase rest key

/-- Insert entries one after another, so that the last one of a key wins. -/
def ofList (entries : List (String × α)) : Entries α :=
  entries.foldl (fun built entry => insert built entry.1 entry.2) []

/-- No entries at all are in order. -/
theorem ascending_nil : Ascending ([] : Entries α) := List.Pairwise.nil

/-- An entry after an insertion is the new one or an old one. -/
theorem mem_insert {entries : Entries α} {key : String} {value : α} {entry : String × α}
    (member : entry ∈ insert entries key value) : entry = (key, value) ∨ entry ∈ entries := by
  induction entries with
  | nil => simpa [insert] using member
  | cons head rest ih =>
    obtain ⟨first, held⟩ := head
    simp only [insert] at member
    split at member
    · simpa using member
    · split at member <;> grind

/-- An entry after a removal is an old one. -/
theorem mem_erase {entries : Entries α} {key : String} {entry : String × α}
    (member : entry ∈ erase entries key) : entry ∈ entries := by
  induction entries with
  | nil => simp [erase] at member
  | cons head rest ih =>
    simp only [erase] at member
    split at member <;> grind

/-- Inserting keeps the keys in order. -/
theorem ascending_insert {entries : Entries α} (ascending : entries.Ascending) (key : String)
    (value : α) : Ascending (insert entries key value) := by
  induction entries with
  | nil => simp [insert, Ascending]
  | cons head rest ih =>
    obtain ⟨first, held⟩ := head
    have tail := List.pairwise_cons.1 ascending
    simp only [insert]
    split
    · rename_i before
      refine List.pairwise_cons.2 ⟨fun entry member => ?_, ascending⟩
      rcases List.mem_cons.1 member with rfl | later
      · exact before
      · exact String.lt_trans before (tail.1 entry later)
    · split
      · rename_i same
        subst same
        exact List.pairwise_cons.2 ⟨fun entry member => tail.1 entry member, tail.2⟩
      · rename_i notBefore different
        refine List.pairwise_cons.2 ⟨fun entry member => ?_, ih tail.2⟩
        rcases mem_insert member with rfl | later
        · show first < key
          grind
        · exact tail.1 entry later

/-- Removing an entry keeps the keys in order. -/
theorem ascending_erase {entries : Entries α} (ascending : entries.Ascending) (key : String) :
    Ascending (erase entries key) := by
  induction entries with
  | nil => exact ascending_nil
  | cons head rest ih =>
    have tail := List.pairwise_cons.1 ascending
    simp only [erase]
    split
    · exact tail.2
    · exact List.pairwise_cons.2 ⟨fun entry member => tail.1 entry (mem_erase member), ih tail.2⟩

/-- Inserting one entry after another keeps the keys in order. -/
theorem ascending_foldl_insert (entries : List (String × α)) {built : Entries α}
    (ascending : built.Ascending) :
    Ascending (entries.foldl (fun built entry => insert built entry.1 entry.2) built) := by
  induction entries generalizing built with
  | nil => exact ascending
  | cons head rest ih => exact ih (ascending_insert ascending _ _)

/-- A dictionary built from any list is in order. -/
theorem ascending_ofList (entries : List (String × α)) : Ascending (ofList entries) :=
  ascending_foldl_insert entries ascending_nil

/-- A look-up after an insertion finds the new value under its key and is unchanged elsewhere. -/
theorem find?_insert (entries : Entries α) (key wanted : String) (value : α) :
    find? (insert entries key value) wanted =
      if key = wanted then some value else find? entries wanted := by
  induction entries with
  | nil => simp [insert, find?]
  | cons head rest ih =>
    obtain ⟨first, held⟩ := head
    simp only [insert]
    split
    · simp [find?]
    · split
      · rename_i same
        subst same
        grind [find?]
      · grind [find?]

/-- A key that comes before all others is not found. -/
theorem find?_eq_none_of_lt {entries : Entries α} {key : String}
    (later : ∀ entry ∈ entries, key < entry.1) : find? entries key = none := by
  induction entries with
  | nil => rfl
  | cons head rest ih =>
    obtain ⟨first, held⟩ := head
    have before : key < first := later _ (List.mem_cons_self ..)
    have different : first ≠ key := fun same => String.lt_irrefl key (same ▸ before)
    simp only [find?, if_neg different]
    exact ih fun entry member => later entry (List.mem_cons_of_mem _ member)

/-- A look-up after a removal finds nothing under the removed key and is unchanged elsewhere. -/
theorem find?_erase {entries : Entries α} (ascending : entries.Ascending) (key wanted : String) :
    find? (erase entries key) wanted = if key = wanted then none else find? entries wanted := by
  induction entries with
  | nil => simp [erase, find?]
  | cons head rest ih =>
    obtain ⟨first, held⟩ := head
    have tail := List.pairwise_cons.1 ascending
    simp only [erase]
    split
    · rename_i same
      subst same
      have absent := find?_eq_none_of_lt tail.1
      grind [find?]
    · have rest := ih tail.2
      grind [find?]

/-- Removing a key that was just inserted, and was not there before, gives the entries back. -/
theorem erase_insert {entries : Entries α} {key : String} (free : find? entries key = none)
    (value : α) : erase (insert entries key value) key = entries := by
  induction entries with
  | nil => simp [insert, erase]
  | cons head rest ih =>
    obtain ⟨first, held⟩ := head
    have different : first ≠ key := by
      intro same
      simp [find?, same] at free
    have later : find? rest key = none := by simpa only [find?, if_neg different] using free
    simp only [insert]
    split
    · simp [erase]
    · simp only [if_neg (Ne.symm different), erase, if_neg different, ih later]

/-- The sum over the values, each with its weight. -/
def total (weight : α → Int) : Entries α → Int
  | [] => 0
  | (_, value) :: rest => weight value + total weight rest

/-- An insertion adds the weight of the new value and takes that of the old one away. -/
theorem total_insert {entries : Entries α} (ascending : entries.Ascending) (weight : α → Int)
    (key : String) (value : α) : total weight (insert entries key value) =
      total weight entries + weight value - ((find? entries key).map weight).getD 0 := by
  induction entries with
  | nil => simp [insert, total, find?]
  | cons head rest ih =>
    obtain ⟨first, held⟩ := head
    have tail := List.pairwise_cons.1 ascending
    simp only [insert]
    split
    · next before =>
      have absent : find? ((first, held) :: rest) key = none := by
        refine find?_eq_none_of_lt fun entry member => ?_
        rcases List.mem_cons.1 member with rfl | later
        · exact before
        · exact String.lt_trans before (tail.1 entry later)
      simp only [total, absent, Option.map_none, Option.getD_none]
      omega
    · split
      · next same =>
        simp only [total, find?, if_pos same.symm, Option.map_some, Option.getD_some]
        omega
      · next different =>
        simp only [total, find?, if_neg (Ne.symm different), ih tail.2]
        omega

/-- A removal takes the weight of the value away. -/
theorem total_erase (entries : Entries α) (weight : α → Int) (key : String) :
    total weight (erase entries key) =
      total weight entries - ((find? entries key).map weight).getD 0 := by
  induction entries with
  | nil => simp [erase, total, find?]
  | cons head rest ih =>
    obtain ⟨first, held⟩ := head
    simp only [erase, find?]
    split
    · simp only [total, Option.map_some, Option.getD_some]
      omega
    · simp only [total, ih]
      omega

end Entries

/-- Entries in strictly ascending key order. -/
structure Dictionary (α : Type) where
  /-- The entries in key order. -/
  entries : Entries α
  /-- No key occurs twice, and keys rise. -/
  ascending : entries.Ascending

namespace Dictionary

variable {α : Type}

/-- The dictionary without entries. -/
def empty : Dictionary α := ⟨[], Entries.ascending_nil⟩

/-- There is at least the empty dictionary. -/
instance : Inhabited (Dictionary α) := ⟨empty⟩

/-- The value stored under a key. -/
def find? (dictionary : Dictionary α) (key : String) : Option α := dictionary.entries.find? key

/-- Store a value under a key, replacing the value stored there before. -/
def insert (dictionary : Dictionary α) (key : String) (value : α) : Dictionary α :=
  ⟨dictionary.entries.insert key value, Entries.ascending_insert dictionary.ascending key value⟩

/-- Remove the entry of a key, if there is one. -/
def erase (dictionary : Dictionary α) (key : String) : Dictionary α :=
  ⟨dictionary.entries.erase key, Entries.ascending_erase dictionary.ascending key⟩

/-- Insert entries one after another, so that the last one of a key wins. -/
def ofList (entries : List (String × α)) : Dictionary α :=
  ⟨Entries.ofList entries, Entries.ascending_ofList entries⟩

/-- The values in key order. -/
def values (dictionary : Dictionary α) : List α := dictionary.entries.map (·.2)

/-- The keys in ascending order. -/
def keys (dictionary : Dictionary α) : List String := dictionary.entries.map (·.1)

/-- The number of entries. -/
def size (dictionary : Dictionary α) : Nat := dictionary.entries.length

/-- The sum over the values, each with its weight. -/
def total (dictionary : Dictionary α) (weight : α → Int) : Int := dictionary.entries.total weight

/-- Dictionaries with the same entries are equal. -/
@[ext] theorem ext {first second : Dictionary α} (same : first.entries = second.entries) :
    first = second := by
  cases first; cases second; cases same; rfl

/-- Nothing is found in the empty dictionary. -/
@[simp] theorem find?_empty (key : String) : (empty : Dictionary α).find? key = none := rfl

/-- After an insertion the new value is found under its key, and elsewhere what was there. -/
theorem find?_insert (dictionary : Dictionary α) (key wanted : String) (value : α) :
    (dictionary.insert key value).find? wanted =
      if key = wanted then some value else dictionary.find? wanted :=
  Entries.find?_insert dictionary.entries key wanted value

/-- After a removal nothing is found under the key, and elsewhere what was there. -/
theorem find?_erase (dictionary : Dictionary α) (key wanted : String) :
    (dictionary.erase key).find? wanted =
      if key = wanted then none else dictionary.find? wanted :=
  Entries.find?_erase dictionary.ascending key wanted

/-- Removing a new key gives the dictionary back. -/
theorem erase_insert {dictionary : Dictionary α} {key : String}
    (free : dictionary.find? key = none) (value : α) :
    (dictionary.insert key value).erase key = dictionary :=
  ext (Entries.erase_insert free value)

/-- An insertion adds the weight of the new value and takes that of the old one away. -/
theorem total_insert (dictionary : Dictionary α) (weight : α → Int) (key : String) (value : α) :
    (dictionary.insert key value).total weight =
      dictionary.total weight + weight value - ((dictionary.find? key).map weight).getD 0 :=
  Entries.total_insert dictionary.ascending weight key value

/-- A removal takes the weight of the value away. -/
theorem total_erase (dictionary : Dictionary α) (weight : α → Int) (key : String) :
    (dictionary.erase key).total weight =
      dictionary.total weight - ((dictionary.find? key).map weight).getD 0 :=
  Entries.total_erase dictionary.entries weight key

/-- If no value has any weight, nor has the dictionary. -/
theorem total_eq_zero {dictionary : Dictionary α} {weight : α → Int}
    (weightless : ∀ value ∈ dictionary.values, weight value = 0) :
    dictionary.total weight = 0 := by
  unfold values at weightless
  unfold total
  generalize dictionary.entries = entries at weightless ⊢
  induction entries with
  | nil => rfl
  | cons head rest ih =>
    have first : weight head.2 = 0 := weightless _ List.mem_cons_self
    have others := ih fun value member => weightless value (List.mem_cons_of_mem _ member)
    simp only [Entries.total, first, others, Int.add_zero]

/-- The size is the sum of ones. -/
theorem size_eq_total (dictionary : Dictionary α) :
    (dictionary.size : Int) = dictionary.total fun _ => 1 := by
  unfold size total
  induction dictionary.entries with
  | nil => rfl
  | cons head rest ih =>
    simp only [List.length_cons, Entries.total, ← ih]
    omega

/-- A new key makes a dictionary larger by one. -/
theorem size_insert {dictionary : Dictionary α} {key : String}
    (free : dictionary.find? key = none) (value : α) :
    ((dictionary.insert key value).size : Int) = dictionary.size + 1 := by
  rw [size_eq_total, size_eq_total, total_insert, free]
  exact Int.sub_zero _

/-- A key that is removed makes a dictionary smaller by one. -/
theorem size_erase {dictionary : Dictionary α} {key : String} {value : α}
    (held : dictionary.find? key = some value) :
    ((dictionary.erase key).size : Int) = dictionary.size - 1 := by
  rw [size_eq_total, size_eq_total, total_erase, held]
  rfl

end Dictionary

end ControlPlane
