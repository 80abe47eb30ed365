import ControlPlane.Json.Transcript
import ControlPlane.Json.Printer
import ControlPlane.Text.Quoted

/-!
# Faults of JSON readers

A text is malformed, or it ends too soon, or it holds something other than what is wanted. The
last kind has a message; `Mismatch.message` is the one place where it is worded.
-/
namespace ControlPlane

/-- What was found where something else was wanted. -/
inductive Found where
  | null
  | bool (value : Bool)
  | number (value : JsonNumber)
  | string (value : String)
  | sequence
  | map
deriving DecidableEq

namespace Found

/-- The words for what was found. -/
def describe : Found → String
  | null => "null"
  | bool value => "boolean `" ++ toString value ++ "`"
  | number (.integer value) => "integer `" ++ String.ofList (Json.integerText value.1) ++ "`"
  | number (.real value) => "floating point `" ++ String.ofList value.text ++ "`"
  | string value => "string " ++ quote value
  | sequence => "sequence"
  | map => "map"

end Found

/-- How a value differs from what is wanted. -/
inductive Mismatch where
  /-- A value of another kind. -/
  | wrongKind (found : Found) (wanted : String)
  /-- A value of the right kind outside the wanted range. -/
  | outOfRange (found : Found) (wanted : String)
  /-- A field that the record does not have. -/
  | unknownField (name : String) (known : List String)
  /-- A name that is none of the known ones. -/
  | unknownVariant (name : String) (known : List String)
  /-- A field without a default is not there. -/
  | missingField (name : String)
  /-- A field is there twice. -/
  | repeatedField (name : String)
  /-- A list of fields that ends before a field without a default. -/
  | wrongLength (length : Nat) (wanted : String)
  /-- A string that is not a point in time. -/
  | unreadableTime
deriving DecidableEq

namespace Mismatch

/-- The words for a choice between names. -/
def oneOf : List String → String
  | [] => ""
  | [only] => "`" ++ only ++ "`"
  | [first, second] => "`" ++ first ++ "` or `" ++ second ++ "`"
  | names => "one of " ++ String.intercalate ", " (names.map fun name => "`" ++ name ++ "`")

/-- Stands for the words of the time reader. -/
def unreadableTimeText : String := "<chrono>"

/-- The wording of a mismatch. -/
def message : Mismatch → String
  | wrongKind found wanted => "invalid type: " ++ found.describe ++ ", expected " ++ wanted
  | outOfRange found wanted => "invalid value: " ++ found.describe ++ ", expected " ++ wanted
  | unknownField name known => "unknown field `" ++ name ++ "`, expected " ++ oneOf known
  | unknownVariant name known => "unknown variant `" ++ name ++ "`, expected " ++ oneOf known
  | missingField name => "missing field `" ++ name ++ "`"
  | repeatedField name => "duplicate field `" ++ name ++ "`"
  | wrongLength length wanted => "invalid length " ++ toString length ++ ", expected " ++ wanted
  | unreadableTime => unreadableTimeText

end Mismatch

/-- Why nothing could be read. -/
inductive ReadFault where
  /-- The text is not JSON. -/
  | malformed
  /-- The text ended too soon. -/
  | cutShort
  /-- A list of fields that goes on after the last field: the list has this many elements. -/
  | surplus (length : Nat)
  /-- The text is JSON so far, but not what is wanted. -/
  | mismatch (problem : Mismatch)
deriving DecidableEq

namespace ReadFault

/-- Stands for the words of the JSON reader, where a text is not JSON. -/
def unreadableText : String := "<json>"

/-- The wording of a fault of a text. -/
def message : ReadFault → String
  | mismatch problem => problem.message
  | _ => unreadableText

end ReadFault

/-- The words for a list of fields that is too long. -/
def surplusMessage (length : Nat) : String :=
  "invalid length " ++ toString length ++ ", expected fewer elements in array"

namespace Break

/-- The fault of a break where a value is wanted. -/
def fault : Break → ReadFault
  | .ended | .endedAfterComma | .endedInWord | .endedInNumber => .cutShort
  | .unexpected | .endedUnpaired => .malformed

/-- The fault of a break where the value is skipped: an incomplete number is then just wrong,
and an unpaired surrogate is not looked at. -/
def skippedFault : Break → ReadFault
  | .ended | .endedAfterComma | .endedInWord | .endedUnpaired => .cutShort
  | .unexpected | .endedInNumber => .malformed

/-- The fault of a break where one of several names is wanted: only a text that ends before or
inside a string has ended too soon. -/
def choiceFault : Break → ReadFault
  | .ended => .cutShort
  | .endedAfterComma | .unexpected | .endedInWord | .endedInNumber | .endedUnpaired => .malformed

end Break

end ControlPlane
