import ControlPlane.Json.Printer
import Mathlib.Data.List.Forall2
import Mathlib.Data.String.Basic

/-!
# Sizes of compact texts

The size of a value is the number of bytes of its compact text. A list has two brackets and a comma
between its items, an object two braces, a comma between its members and a colon in each of them
(`size_array`, `size_object`). So a list gets no larger when some of its items are taken out and
others make room for items that are no larger (`size_array_le`).
-/
namespace ControlPlane.Json

/-- The number of bytes of the compact text of a value. -/
def size (value : Json) : Nat := String.utf8Len value.text

/-- The bytes of items, each with the comma or the bracket after it. -/
def itemsSize : List Json → Nat
  | [] => 0
  | item :: rest => item.size + 1 + itemsSize rest

/-- The bytes of members, each with its colon and the comma or the brace after it. -/
def membersSize : List (String × Json) → Nat
  | [] => 0
  | (key, value) :: rest => String.utf8Len (quoted key) + value.size + 2 + membersSize rest

/-- The size of a value is that of its text. -/
theorem utf8ByteSize_compact (value : Json) : value.compact.utf8ByteSize = value.size :=
  String.utf8ByteSize_ofList _

/-- The text after an item has the other items and the closing bracket. -/
theorem utf8Len_itemsText (items : List Json) :
    String.utf8Len (itemsText items) = itemsSize items + 1 := by
  have comma : Char.utf8Size ',' = 1 := by decide
  induction items with
  | nil => rfl
  | cons item rest ih =>
    simp only [itemsText, String.utf8Len_cons, String.utf8Len_append, ih, comma, itemsSize, size]
    omega

/-- The text after a member has the other members and the closing brace. -/
theorem utf8Len_membersText (members : List (String × Json)) :
    String.utf8Len (membersText members) = membersSize members + 1 := by
  have comma : Char.utf8Size ',' = 1 := by decide
  have colon : Char.utf8Size ':' = 1 := by decide
  induction members with
  | nil => rfl
  | cons member rest ih =>
    simp only [membersText, String.utf8Len_cons, String.utf8Len_append, ih, comma, colon,
      membersSize, size]
    omega

/-- A list has the sizes of its items, and two brackets if it has none. -/
theorem size_array (items : List Json) :
    (array items).size = max 2 (itemsSize items + 1) := by
  have bracket : Char.utf8Size '[' = 1 := by decide
  cases items with
  | nil => rfl
  | cons item rest =>
    have others := utf8Len_itemsText rest
    simp only [size, text, String.utf8Len_cons, String.utf8Len_append, others, bracket, itemsSize]
    omega

/-- An object has the sizes of its members, and two braces if it has none. -/
theorem size_object (members : List (String × Json)) :
    (object members).size = max 2 (membersSize members + 1) := by
  have brace : Char.utf8Size '{' = 1 := by decide
  have colon : Char.utf8Size ':' = 1 := by decide
  cases members with
  | nil => rfl
  | cons member rest =>
    have others := utf8Len_membersText rest
    simp only [size, text, String.utf8Len_cons, String.utf8Len_append, others, brace, colon,
      membersSize]
    omega

/-- A list with fewer items, or smaller ones, is no larger. -/
theorem size_array_le {smaller larger : List Json}
    (fewer : List.SublistForall₂ (fun small large => small.size ≤ large.size) smaller larger) :
    (array smaller).size ≤ (array larger).size := by
  have items : itemsSize smaller ≤ itemsSize larger := by
    induction fewer with
    | nil => exact Nat.zero_le _
    | cons smaller _ ih =>
      simp only [itemsSize]
      omega
    | cons_right _ ih =>
      simp only [itemsSize]
      omega
  rw [size_array, size_array]
  omega

end ControlPlane.Json
