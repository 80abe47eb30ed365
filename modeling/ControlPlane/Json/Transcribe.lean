import ControlPlane.Json.StringLiteral

/-!
# Transcribing JSON texts

`Document.ofText` transcribes a whole text. Every step of the transcription consumes a character
or descends into a container, so a budget of two steps per character is never used up.
-/
namespace ControlPlane

namespace Transcript

/-- The blanks that may stand between tokens. -/
def isBlank (character : Char) : Bool :=
  character == ' ' || character == '\n' || character == '\t' || character == '\r'

/-- Drop the blanks at the front of a text. -/
def skipBlanks (text : List Char) : List Char := text.dropWhile isBlank

/-- A transcript and the text after it, which is absent once the reading has stopped. -/
abbrev Reading := Transcript × Option (List Char)

/-- A place where the reading stops. -/
def stop (cause : Break) : Reading := (broken cause, none)

/-- Read the rest of a word that stands for a value. -/
def readWord (value : Transcript) : List Char → List Char → Reading
  | [], rest => (value, some rest)
  | _ :: _, [] => stop .endedInWord
  | expected :: remaining, character :: rest =>
    if expected = character then readWord value remaining rest else stop .unexpected

/-- Turn a token into a transcript. -/
def ofToken {α : Type} (make : α → Transcript) : Token α → Reading
  | .read value rest => (make value, some rest)
  | .stopped cause => stop cause

mutual

/-- Read one value. -/
def readValue : Nat → List Char → Reading
  | 0, _ => stop .ended
  | budget + 1, text =>
    match skipBlanks text with
    | [] => stop .ended
    | 'n' :: rest => readWord null ['u', 'l', 'l'] rest
    | 't' :: rest => readWord (bool true) ['r', 'u', 'e'] rest
    | 'f' :: rest => readWord (bool false) ['a', 'l', 's', 'e'] rest
    | '-' :: rest => ofToken number (Numeral.read true rest)
    | '"' :: rest => ofToken string (StringLiteral.read [] true rest)
    | '[' :: rest =>
      let (items, ending, after) := readItems budget true rest
      (array items ending, after)
    | '{' :: rest =>
      match skipBlanks rest with
      | [] => (object [] (some .ended), none)
      | '}' :: after => (object [] none, some after)
      | '"' :: key =>
        let (members, ending, after) := readMember budget key
        (object members ending, after)
      | other => (keyless (readValue budget other).1, none)
    | other :: rest =>
      if other.isDigit then ofToken number (Numeral.read false (other :: rest))
      else stop .unexpected

/-- Read the items up to the closing bracket; only the first may stand without a comma. -/
def readItems : Nat → Bool → List Char → List Transcript × Option Break × Option (List Char)
  | 0, _, _ => ([], some .ended, none)
  | budget + 1, first, text =>
    match skipBlanks text, first with
    | [], _ => ([], some .ended, none)
    | ']' :: rest, _ => ([], none, some rest)
    | ',' :: rest, false => readItem budget rest
    | other, true => readItem budget other
    | _, false => ([], some .unexpected, none)

/-- Read one item and the items after it. -/
def readItem : Nat → List Char → List Transcript × Option Break × Option (List Char)
  | 0, _ => ([], some .ended, none)
  | budget + 1, text =>
    match readValue budget text with
    | (item, none) => ([item], some .ended, none)
    | (item, some rest) =>
      let (items, ending, after) := readItems budget false rest
      (item :: items, ending, after)

/-- Read the rest of a key, its value and the members after it. -/
def readMember : Nat → List Char →
    List (Option String × Transcript) × Option Break × Option (List Char)
  | 0, _ => ([], some .ended, none)
  | budget + 1, text =>
    match StringLiteral.read [] true text with
    | .stopped cause => ([], some cause, none)
    | .read key rest =>
      match skipBlanks rest with
      | [] => ([(key, broken .ended)], some .ended, none)
      | ':' :: valueText =>
        match readValue budget valueText with
        | (value, none) => ([(key, value)], some .ended, none)
        | (value, some after) =>
          let (members, ending, remaining) := readMembers budget after
          ((key, value) :: members, ending, remaining)
      | _ => ([(key, broken .unexpected)], some .unexpected, none)

/-- Read the members after the first up to the closing brace. -/
def readMembers : Nat → List Char →
    List (Option String × Transcript) × Option Break × Option (List Char)
  | 0, _ => ([], some .ended, none)
  | budget + 1, text =>
    match skipBlanks text with
    | [] => ([], some .ended, none)
    | '}' :: rest => ([], none, some rest)
    | ',' :: rest =>
      match skipBlanks rest with
      | [] => ([], some .endedAfterComma, none)
      | '"' :: key =>
        match readMember budget key with
        | ([], some .ended, after) => ([], some .endedAfterComma, after)
        | members => members
      | _ => ([], some .unexpected, none)
    | _ => ([], some .unexpected, none)

end

end Transcript

/-- The transcript of a whole text. -/
structure Document where
  /-- The value at the front of the text. -/
  value : Transcript
  /-- Whether something other than blanks follows the value. -/
  trailing : Bool

namespace Document

/-- Transcribe a text given as characters. -/
def ofCharacters (text : List Char) : Document :=
  match Transcript.readValue (4 * text.length + 4) text with
  | (value, none) => ⟨value, false⟩
  | (value, some rest) => ⟨value, !(Transcript.skipBlanks rest).isEmpty⟩

/-- Transcribe a text. -/
def ofText (text : String) : Document := ofCharacters text.toList

/-- The document of the text of a value. -/
def ofJson (value : Json) : Document := ⟨.ofJson value, false⟩

end Document

end ControlPlane
