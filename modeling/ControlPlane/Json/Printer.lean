import ControlPlane.Json.Basic
import ControlPlane.Number.Shortest

/-!
# Compact JSON text

The text of a value has no blanks between its tokens. A string escapes only the quote, the
backslash and the control characters below the blank; every other character stands for itself.
The text is built as a list of characters, so that the reader can be compared with it, and
`Json.compact` joins it. Sizes are measured on the UTF-8 bytes of that text.
-/
namespace ControlPlane

namespace Json

/-- A lower-case hexadecimal digit. -/
def hexDigit (value : Nat) : Char :=
  if value < 10 then Char.ofNat (48 + value) else Char.ofNat (87 + value)

/-- The characters that stand for one character of a string. -/
def escape (character : Char) : List Char :=
  match character with
  | '"' => ['\\', '"']
  | '\\' => ['\\', '\\']
  | '\x08' => ['\\', 'b']
  | '\x0c' => ['\\', 'f']
  | '\n' => ['\\', 'n']
  | '\r' => ['\\', 'r']
  | '\t' => ['\\', 't']
  | other =>
    if other.toNat < 32 then
      ['\\', 'u', '0', '0', hexDigit (other.toNat / 16), hexDigit (other.toNat % 16)]
    else [other]

/-- The text of a string between its quotes. -/
def escaped (text : List Char) : List Char := text.flatMap escape

/-- The text of a string. -/
def quoted (text : String) : List Char := '"' :: (escaped text.toList ++ ['"'])

/-- The decimal text of an integer. -/
def integerText (value : Int) : List Char :=
  if value < 0 then '-' :: Digits.ofNat value.natAbs else Digits.ofNat value.natAbs

/-- The text of a number. -/
def numberText : JsonNumber → List Char
  | .integer value => integerText value.1
  | .real value => value.text

mutual

/-- The compact text of a value. -/
def text : Json → List Char
  | null => ['n', 'u', 'l', 'l']
  | bool true => ['t', 'r', 'u', 'e']
  | bool false => ['f', 'a', 'l', 's', 'e']
  | number value => numberText value
  | string value => quoted value
  | array [] => ['[', ']']
  | array (item :: rest) => '[' :: (text item ++ itemsText rest)
  | object [] => ['{', '}']
  | object ((key, value) :: rest) => '{' :: (quoted key ++ ':' :: (text value ++ membersText rest))

/-- The text after an item of an array: the other items and the closing bracket. -/
def itemsText : List Json → List Char
  | [] => [']']
  | item :: rest => ',' :: (text item ++ itemsText rest)

/-- The text after a member of an object: the other members and the closing brace. -/
def membersText : List (String × Json) → List Char
  | [] => ['}']
  | (key, value) :: rest => ',' :: (quoted key ++ ':' :: (text value ++ membersText rest))

end

/-- The compact text of a value, as a string. -/
def compact (value : Json) : String := String.ofList value.text

end Json

/-- The compact text of an object. -/
def JsonObject.compact (object : JsonObject) : String := object.toJson.compact

end ControlPlane
