import ControlPlane.Json.Reader
import ControlPlane.Proofs.Json.Literal

/-!
# Values read back from their compact texts

The compact text of a value without binary64 numbers is transcribed as that value, and nothing is
left over (`Document.ofText_compact`). A reader that goes deep enough then reads its normal form,
which for an object is the object itself (`JsonObject.read_compact`).
-/
namespace ControlPlane

namespace Json

mutual

/-- All numbers in a value are integers. -/
def isIntegral : Json → Bool
  | null | bool _ | string _ | number (.integer _) => true
  | number (.real _) => false
  | array items => itemsIntegral items
  | object members => membersIntegral members

/-- All numbers in items are integers. -/
def itemsIntegral : List Json → Bool
  | [] => true
  | item :: rest => isIntegral item && itemsIntegral rest

/-- All numbers in members are integers. -/
def membersIntegral : List (String × Json) → Bool
  | [] => true
  | (_, value) :: rest => isIntegral value && membersIntegral rest

end

/-- Items have no binary64 numbers if none of them has any. -/
theorem itemsIntegral_iff {items : List Json} :
    itemsIntegral items = true ↔ ∀ item ∈ items, item.isIntegral = true := by
  induction items with
  | nil => simp [itemsIntegral]
  | cons item rest ih => simp [itemsIntegral, ih]

/-- Members have no binary64 numbers if none of their values has any. -/
theorem membersIntegral_iff {members : List (String × Json)} :
    membersIntegral members = true ↔ ∀ entry ∈ members, entry.2.isIntegral = true := by
  induction members with
  | nil => simp [membersIntegral]
  | cons entry rest ih => simp [membersIntegral, ih]

mutual

/-- The number of containers that stand one inside the other in a value. -/
def nesting : Json → Nat
  | null | bool _ | string _ | number _ => 0
  | array items => itemsNesting items + 1
  | object members => membersNesting members + 1

/-- The deepest nesting of some items. -/
def itemsNesting : List Json → Nat
  | [] => 0
  | item :: rest => max (nesting item) (itemsNesting rest)

/-- The deepest nesting of some members. -/
def membersNesting : List (String × Json) → Nat
  | [] => 0
  | (_, value) :: rest => max (nesting value) (membersNesting rest)

end

end Json

namespace Transcript

/-- What follows a value in a compact text: nothing, or a character that ends it. -/
def Closes : List Char → Prop
  | [] => True
  | next :: _ => next = ',' ∨ next = ']' ∨ next = '}'

/-- What follows a value ends a number. -/
theorem Closes.ends {rest : List Char} (closes : Closes rest) : Numeral.Ends rest := by
  cases rest with
  | nil => trivial
  | cons next more => rcases closes with rfl | rfl | rfl <;> simp [Numeral.Ends]

/-- Other items or the closing bracket follow an item. -/
theorem closes_itemsText (items : List Json) (rest : List Char) :
    Closes (Json.itemsText items ++ rest) := by
  cases items with
  | nil => exact .inr (.inl rfl)
  | cons item items => exact .inl rfl

/-- Other members or the closing brace follow a member. -/
theorem closes_membersText (members : List (String × Json)) (rest : List Char) :
    Closes (Json.membersText members ++ rest) := by
  cases members with
  | nil => exact .inr (.inr rfl)
  | cons member members => exact .inl rfl

/-- A digit begins a number. -/
theorem readValue_digit {digit : Char} (isDigit : digit.isDigit = true) (budget : Nat)
    (rest : List Char) : readValue (budget + 1) (digit :: rest) =
      ofToken number (Numeral.read false (digit :: rest)) := by
  obtain ⟨value, small, rfl⟩ := Digits.exists_digitChar_of_isDigit isDigit
  interval_cases value <;> rfl

/-- The text of an integer is read back. -/
theorem readValue_integerText {value : Int}
    (inRange : -9223372036854775808 ≤ value ∧ value < 18446744073709551616) (budget : Nat)
    {rest : List Char} (closes : Closes rest) :
    readValue (budget + 1) (Json.integerText value ++ rest) =
      (number (some (.integer ⟨value, inRange⟩)), some rest) := by
  have wide : twoTo 64 = 18446744073709551616 := by decide
  have narrow : twoTo 63 = 9223372036854775808 := by decide
  have exact : JsonNumber.ofInt value = .integer ⟨value, inRange⟩ := dif_pos inRange
  unfold Json.integerText
  split
  next negative =>
    have read := Numeral.read_ofNat true value.natAbs closes.ends
      (by omega) (by omega)
    have same : -(value.natAbs : Int) = value := by omega
    rw [if_pos rfl, same, exact] at read
    change ofToken number (Numeral.read true (Digits.ofNat value.natAbs ++ rest)) = _
    rw [read]
    rfl
  next positive =>
    have read := Numeral.read_ofNat false value.natAbs closes.ends
      (by omega) nofun
    have same : (value.natAbs : Int) = value := by omega
    rw [if_neg nofun, same, exact] at read
    cases digits : Digits.ofNat value.natAbs with
    | nil => exact absurd digits Nat.toDigits_ne_nil
    | cons digit others =>
      have isDigit : digit.isDigit = true := Digits.isDigit_of_mem_ofNat
        (digits ▸ List.mem_cons_self ..)
      rw [digits] at read
      rw [List.cons_append, readValue_digit isDigit, ← List.cons_append, read]
      rfl

/-- The text of a value begins with a character that stands for itself. -/
theorem exists_text_eq_cons {value : Json} (integral : value.isIntegral = true) :
    ∃ first others, value.text = first :: others ∧ isBlank first = false ∧ first ≠ ']' := by
  have ofDigit {first : Char} (isDigit : first.isDigit = true) :
      isBlank first = false ∧ first ≠ ']' := by
    obtain ⟨value, small, rfl⟩ := Digits.exists_digitChar_of_isDigit isDigit
    interval_cases value <;> decide
  unfold Json.text
  split
  next => exact ⟨'n', _, rfl, by decide, by decide⟩
  next => exact ⟨'t', _, rfl, by decide, by decide⟩
  next => exact ⟨'f', _, rfl, by decide, by decide⟩
  next held =>
    cases held with
    | real => simp [Json.isIntegral] at integral
    | integer held =>
      simp only [Json.numberText, Json.integerText]
      split
      · exact ⟨'-', _, rfl, by decide, by decide⟩
      · cases digits : Digits.ofNat held.1.natAbs with
        | nil => exact absurd digits Nat.toDigits_ne_nil
        | cons first others =>
          exact ⟨first, others, rfl,
            ofDigit (Digits.isDigit_of_mem_ofNat (digits ▸ List.mem_cons_self ..))⟩
  next => exact ⟨'"', _, rfl, by decide, by decide⟩
  next => exact ⟨'[', _, rfl, by decide, by decide⟩
  next => exact ⟨'[', _, rfl, by decide, by decide⟩
  next => exact ⟨'{', _, rfl, by decide, by decide⟩
  next => exact ⟨'{', _, rfl, by decide, by decide⟩

/-- The first item of a text is read like any other. -/
theorem readItems_first {text : List Char} {first : Char} {others : List Char}
    (begins : text = first :: others) (solid : isBlank first = false) (opened : first ≠ ']')
    (budget : Nat) : readItems (budget + 1) true text = readItem budget text := by
  subst begins
  have same : skipBlanks (first :: others) = first :: others := by simp [skipBlanks, solid]
  unfold readItems
  rw [same]
  split
  next nothing => cases nothing
  next closed => exact absurd (List.cons.inj closed).1 opened
  next later => cases later
  next => rfl
  next later _ _ _ => cases later

/-- An item and the items after it are read one by one. -/
theorem readItem_of_read {budget : Nat} {text after : List Char} {item : Transcript}
    {items : List Transcript} {rest : Option (List Char)}
    (first : readValue budget text = (item, some after))
    (others : readItems budget false after = (items, none, rest)) :
    readItem (budget + 1) text = (item :: items, none, rest) := by
  unfold readItem
  rw [first]
  simp only [others]

/-- A list is read from its items. -/
theorem readValue_of_readItems {budget : Nat} {text rest : List Char} {items : List Transcript}
    (read : readItems budget true text = (items, none, some rest)) :
    readValue (budget + 1) ('[' :: text) = (array items none, some rest) := by
  have step : readValue (budget + 1) ('[' :: text) = (array (readItems budget true text).1
      (readItems budget true text).2.1, (readItems budget true text).2.2) := by rfl
  rw [step, read]

/-- An object is read from its members. -/
theorem readValue_of_readMember {budget : Nat} {text rest : List Char}
    {members : List (Option String × Transcript)}
    (read : readMember budget text = (members, none, some rest)) :
    readValue (budget + 1) ('{' :: '"' :: text) = (object members none, some rest) := by
  have step : readValue (budget + 1) ('{' :: '"' :: text) = (object (readMember budget text).1
      (readMember budget text).2.1, (readMember budget text).2.2) := by rfl
  rw [step, read]

/-- A member and the members after it are read one by one. -/
theorem readMember_of_read (key : String) {budget : Nat} {text after : List Char}
    {value : Transcript} {members : List (Option String × Transcript)}
    {rest : Option (List Char)} (first : readValue budget text = (value, some after))
    (others : readMembers budget after = (members, none, rest)) :
    readMember (budget + 1) (Json.escaped key.toList ++ '"' :: ':' :: text) =
      ((some key, value) :: members, none, rest) := by
  have colon : skipBlanks (':' :: text) = ':' :: text := rfl
  unfold readMember
  rw [StringLiteral.read_escaped, List.reverse_nil, List.nil_append, String.ofList_toList]
  simp only [colon, first, others]

/-- A member after others is read like the first one. -/
theorem readMembers_of_read {budget : Nat} {text : List Char}
    {member : Option String × Transcript} {members : List (Option String × Transcript)}
    {rest : Option (List Char)}
    (read : readMember budget text = (member :: members, none, rest)) :
    readMembers (budget + 1) (',' :: '"' :: text) = (member :: members, none, rest) := by
  have comma : skipBlanks (',' :: '"' :: text) = ',' :: '"' :: text := rfl
  have quote : skipBlanks ('"' :: text) = '"' :: text := rfl
  unfold readMembers
  simp only [comma, quote, read]

/-- No text of a value is empty. -/
theorem length_text_pos {value : Json} (integral : value.isIntegral = true) :
    0 < value.text.length := by
  obtain ⟨first, others, begins, -⟩ := exists_text_eq_cons integral
  rw [begins]
  exact Nat.succ_pos _

mutual

/-- A value is read back from its text. -/
theorem readValue_text : ∀ (value : Json) (budget : Nat) {rest : List Char},
    value.isIntegral = true → 2 * value.text.length ≤ budget → Closes rest →
      readValue budget (value.text ++ rest) = (ofJson value, some rest)
  | .null, budget + 1, rest, _, _, _ => by rfl
  | .bool true, budget + 1, rest, _, _, _ => by rfl
  | .bool false, budget + 1, rest, _, _, _ => by rfl
  | .number (.integer value), budget, rest, integral, enough, closes => by
    have nonempty := length_text_pos integral
    obtain ⟨budget, rfl⟩ : ∃ smaller, budget = smaller + 1 :=
      Nat.exists_eq_add_of_le' (by omega)
    exact readValue_integerText value.2 budget closes
  | .string value, budget + 1, rest, _, _, _ => by
    have read := StringLiteral.read_escaped value.toList [] rest
    change ofToken string (StringLiteral.read [] true
      ((Json.escaped value.toList ++ ['"']) ++ rest)) = _
    rw [List.append_assoc, List.singleton_append, read, List.reverse_nil, List.nil_append,
      String.ofList_toList]
    rfl
  | .array [], budget + 2, rest, _, _, _ => by rfl
  | .array (item :: items), budget, rest, integral, enough, _ => by
    obtain ⟨first, later⟩ := Bool.and_eq_true_iff.mp integral
    have size : (Json.array (item :: items)).text.length =
      item.text.length + (Json.itemsText items).length + 1 := by simp [Json.text]
    have nonempty := length_text_pos first
    have closed : 0 < (Json.itemsText items).length := by cases items <;> simp [Json.itemsText]
    obtain ⟨budget, rfl⟩ : ∃ smaller, budget = smaller + 3 :=
      Nat.exists_eq_add_of_le' (by omega)
    obtain ⟨character, others, begins, solid, opened⟩ := exists_text_eq_cons first
    have whole : item.text ++ (Json.itemsText items ++ rest) =
      character :: (others ++ (Json.itemsText items ++ rest)) := by rw [begins, List.cons_append]
    have read := readItem_of_read
      (readValue_text item budget first (by omega) (closes_itemsText items rest))
      (readItems_itemsText items budget rest later (by omega))
    rw [← readItems_first whole solid opened, ← List.append_assoc] at read
    exact readValue_of_readItems read
  | .object [], budget + 1, rest, _, _, _ => by rfl
  | .object ((key, value) :: members), budget, rest, integral, enough, _ => by
    obtain ⟨first, later⟩ := Bool.and_eq_true_iff.mp integral
    have size : (Json.object ((key, value) :: members)).text.length =
        (Json.escaped key.toList).length + value.text.length +
          (Json.membersText members).length + 4 := by
      simp [Json.text, Json.quoted]
      omega
    obtain ⟨budget, rfl⟩ : ∃ smaller, budget = smaller + 2 :=
      Nat.exists_eq_add_of_le' (by omega)
    have read := readMember_of_read key
      (readValue_text value budget first (by omega) (closes_membersText members rest))
      (readMembers_membersText members budget rest later (by omega))
    have whole : (Json.object ((key, value) :: members)).text ++ rest =
      '{' :: '"' :: (Json.escaped key.toList ++ '"' :: ':' ::
        (value.text ++ (Json.membersText members ++ rest))) := by simp [Json.text, Json.quoted]
    rw [whole, readValue_of_readMember read]
    rfl

/-- Items are read back from the text after an item. -/
theorem readItems_itemsText : ∀ (items : List Json) (budget : Nat) (rest : List Char),
    Json.itemsIntegral items = true → 2 * (Json.itemsText items).length ≤ budget →
      readItems budget false (Json.itemsText items ++ rest) = (ofItems items, none, some rest)
  | [], budget + 1, rest, _, _ => by rfl
  | item :: items, budget + 2, rest, integral, enough => by
    obtain ⟨first, later⟩ := Bool.and_eq_true_iff.mp integral
    have size : (Json.itemsText (item :: items)).length =
      item.text.length + (Json.itemsText items).length + 1 := by simp [Json.itemsText]
    have nonempty := length_text_pos first
    have read := readItem_of_read
      (readValue_text item budget first (by omega) (closes_itemsText items rest))
      (readItems_itemsText items budget rest later (by omega))
    change readItem (budget + 1) ((item.text ++ Json.itemsText items) ++ rest) = _
    rw [List.append_assoc, read]
    rfl

/-- Members are read back from the text after a member. -/
theorem readMembers_membersText : ∀ (members : List (String × Json)) (budget : Nat)
    (rest : List Char), Json.membersIntegral members = true →
      2 * (Json.membersText members).length ≤ budget →
        readMembers budget (Json.membersText members ++ rest) = (ofMembers members, none, some rest)
  | [], budget + 1, rest, _, _ => by rfl
  | (key, value) :: members, budget + 2, rest, integral, enough => by
    obtain ⟨first, later⟩ := Bool.and_eq_true_iff.mp integral
    have size : (Json.membersText ((key, value) :: members)).length =
        (Json.escaped key.toList).length + value.text.length +
          (Json.membersText members).length + 4 := by
      simp [Json.membersText, Json.quoted]
      omega
    have read := readMember_of_read key
      (readValue_text value budget first (by omega) (closes_membersText members rest))
      (readMembers_membersText members budget rest later (by omega))
    have whole : Json.membersText ((key, value) :: members) ++ rest =
      ',' :: '"' :: (Json.escaped key.toList ++ '"' :: ':' ::
        (value.text ++ (Json.membersText members ++ rest))) := by
      simp [Json.membersText, Json.quoted]
    rw [whole, readMembers_of_read read]
    rfl

end

end Transcript

/-- The compact text of a value is a document of that value and nothing else. -/
theorem Document.ofText_compact {value : Json} (integral : value.isIntegral = true) :
    Document.ofText value.compact = .ofJson value := by
  have closes : Transcript.Closes [] := trivial
  have read :=
    Transcript.readValue_text value (4 * value.text.length + 4) integral (by omega) closes
  rw [List.append_nil] at read
  rw [ofText, Json.compact, String.toList_ofList, ofCharacters, read]
  rfl

namespace JsonReader

mutual

/-- A reader that goes deep enough reads the normal form of a value. -/
theorem value_ofJson : ∀ (held : Json) (depth : Nat), held.nesting ≤ depth →
    value depth (.ofJson held) = .ok held.normalize
  | .null, _, _ | .bool _, _, _ | .number _, _, _ | .string _, _, _ => by
    simp only [Transcript.ofJson, value, Json.normalize]
  | .array items, depth + 1, deep => by
    have read := valueItems_ofItems items depth (Nat.le_of_succ_le_succ deep)
    simp only [Transcript.ofJson, value, read, Json.normalize]
    rfl
  | .object members, depth + 1, deep => by
    have read := valueMembers_ofMembers members [] depth (Nat.le_of_succ_le_succ deep)
    simp only [Transcript.ofJson, value, read, Json.normalize]
    rfl

/-- The normal forms of items are read. -/
theorem valueItems_ofItems : ∀ (items : List Json) (depth : Nat), Json.itemsNesting items ≤ depth →
    valueItems depth (Transcript.ofItems items) = .ok (Json.normalizeItems items)
  | [], _, _ => by simp only [Transcript.ofItems, valueItems, Json.normalizeItems]
  | item :: items, depth, deep => by
    have first := value_ofJson item depth (Nat.le_trans (Nat.le_max_left ..) deep)
    have later := valueItems_ofItems items depth (Nat.le_trans (Nat.le_max_right ..) deep)
    simp only [Transcript.ofItems, valueItems, first, later, Json.normalizeItems]
    rfl

/-- The normal forms of members are inserted into those gathered so far. -/
theorem valueMembers_ofMembers : ∀ (members : List (String × Json)) (gathered : Entries Json)
    (depth : Nat), Json.membersNesting members ≤ depth →
      valueMembers depth (Transcript.ofMembers members) gathered =
        .ok (Json.normalizeMembers members gathered)
  | [], _, _, _ => by simp only [Transcript.ofMembers, valueMembers, Json.normalizeMembers]
  | (key, held) :: members, gathered, depth, deep => by
    have first := value_ofJson held depth (Nat.le_trans (Nat.le_max_left ..) deep)
    have later := valueMembers_ofMembers members (gathered.insert key held.normalize)
      depth (Nat.le_trans (Nat.le_max_right ..) deep)
    simp only [Transcript.ofMembers, valueMembers, first, Json.normalizeMembers]
    exact later

end

/-- A reader that goes deep enough reads an object as it is. -/
theorem object_ofJson {held : JsonObject} {depth : Nat} (deep : held.toJson.nesting ≤ depth) :
    object depth (.ofJson held.toJson) = .ok held := by
  obtain ⟨depth, rfl⟩ : ∃ smaller, depth = smaller + 1 :=
    Nat.exists_eq_add_of_le' (Nat.le_trans (Nat.succ_pos _) deep)
  have read := valueMembers_ofMembers held.members [] depth (Nat.le_of_succ_le_succ deep)
  have same : Json.normalizeMembers held.members [] = held.members :=
    congrArg JsonObject.members held.ofMembers_members
  rw [same] at read
  simp only [JsonObject.toJson, Transcript.ofJson, object, read]
  exact congrArg Except.ok held.ofMembers_members

end JsonReader

/-- A value without binary64 numbers that nests no deeper than readers go is read back in its normal
form from its compact text. -/
theorem Json.parse_compact {value : Json} (integral : value.isIntegral = true)
    (shallow : value.nesting ≤ JsonReader.depthLimit) :
    Json.parse value.compact = .ok value.normalize := by
  rw [Json.parse, Document.ofText_compact integral]
  unfold Document.read Document.ofJson
  rw [JsonReader.value_ofJson value _ shallow]
  rfl

/-- An object without binary64 numbers that nests no deeper than readers go is read back from its
compact text. -/
theorem JsonObject.read_compact {object : JsonObject} (integral : object.toJson.isIntegral = true)
    (shallow : object.toJson.nesting ≤ JsonReader.depthLimit) :
    (Document.ofText object.compact).read JsonReader.object = .ok object := by
  rw [JsonObject.compact, Document.ofText_compact integral]
  unfold Document.read Document.ofJson
  rw [JsonReader.object_ofJson shallow]
  rfl

end ControlPlane
