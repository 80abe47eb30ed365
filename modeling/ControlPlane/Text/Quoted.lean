import ControlPlane.Text.Printable

/-!
# Quoted text

The form in which a text is shown inside messages and descriptions: between double quotes, with
the usual short escapes, and with the code point of every character that does not show by itself.
-/
namespace ControlPlane.Quoted

/-- The hexadecimal text of a code point. -/
def codePoint (character : Char) : List Char := Nat.toDigits 16 character.toNat

/-- The characters that stand for one character. -/
def escape (character : Char) : List Char :=
  match character with
  | '\x00' => ['\\', '0']
  | '\t' => ['\\', 't']
  | '\r' => ['\\', 'r']
  | '\n' => ['\\', 'n']
  | '"' => ['\\', '"']
  | '\\' => ['\\', '\\']
  | other =>
    if Printable.isVisible other then [other]
    else '\\' :: 'u' :: '\x7b' :: (codePoint other ++ ['\x7d'])

/-- The quoted form of a text. -/
def characters (text : String) : List Char := '"' :: (text.toList.flatMap escape ++ ['"'])

end ControlPlane.Quoted

namespace ControlPlane

/-- The quoted form of a text, as a string. -/
def quote (text : String) : String := String.ofList (Quoted.characters text)

end ControlPlane
