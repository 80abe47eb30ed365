import ControlPlane.Json.Basic

/-!
# Transcripts of JSON texts

A transcript is what a text holds as far as it can be read: a tree in reading order whose last
branch may break off. The text is transcribed once, without knowing what is wanted from it; what
a reader makes of the transcript then depends only on the tree. Because readers go through it in
reading order and stop at the first fault, a value of the wrong kind is found before a break that
comes later in the text.

Two flaws do not stop the reading: a number too large for binary64 and a string with an unpaired
surrogate. They matter only to a reader that looks at them, and not where a value is skipped.
-/
namespace ControlPlane

/-- Why the reading of a text stopped. -/
inductive Break where
  /-- The text ended before a value, a string or a container was complete. -/
  | ended
  /-- The text ended after the comma behind a member, before or inside the next key. -/
  | endedAfterComma
  /-- A character that cannot stand where it does. -/
  | unexpected
  /-- The text ended inside `null`, `true` or `false`. -/
  | endedInWord
  /-- The text ended inside a number. -/
  | endedInNumber
  /-- The text ended inside a string with an unpaired surrogate. -/
  | endedUnpaired
deriving DecidableEq, Repr

/-- What was read of a text, up to its first break. -/
inductive Transcript where
  | null
  | bool (value : Bool)
  /-- A number, without a value if it is too large. -/
  | number (value : Option JsonNumber)
  /-- A string, without a value if it has an unpaired surrogate. -/
  | string (value : Option String)
  /-- The items and, unless the closing bracket was reached, the break after the last one. -/
  | array (items : List Transcript) (ending : Option Break)
  /-- The members and, unless the closing brace was reached, the break after the last one. -/
  | object (members : List (Option String × Transcript)) (ending : Option Break)
  /-- An opening brace followed by something that is not a key. -/
  | keyless (first : Transcript)
  /-- A place where a value should stand but none could be read. -/
  | broken (cause : Break)

namespace Transcript

/-- There is at least the transcript of the empty text. -/
instance : Inhabited Transcript := ⟨broken .ended⟩

mutual

/-- The transcript of the text of a value. -/
def ofJson : Json → Transcript
  | .null => null
  | .bool value => bool value
  | .number value => number (some value)
  | .string value => string (some value)
  | .array items => array (ofItems items) none
  | .object members => object (ofMembers members) none

/-- The transcripts of items. -/
def ofItems : List Json → List Transcript
  | [] => []
  | item :: rest => ofJson item :: ofItems rest

/-- The transcripts of members. -/
def ofMembers : List (String × Json) → List (Option String × Transcript)
  | [] => []
  | (key, value) :: rest => (some key, ofJson value) :: ofMembers rest

end

end Transcript

end ControlPlane
