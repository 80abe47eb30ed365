import ControlPlane.Json.Numeral

/-!
# Strings in JSON texts

The reader of a string starts after the opening quote. An escape of a character outside the
basic plane is a pair of surrogates; a surrogate without its partner does not stop the reading,
but leaves the string without a value.
-/
namespace ControlPlane

namespace StringLiteral

/-- The value of a hexadecimal digit of either case. -/
def hexValue? (digit : Char) : Option Nat :=
  if '0' ≤ digit ∧ digit ≤ '9' then some (digit.toNat - 48)
  else if 'a' ≤ digit ∧ digit ≤ 'f' then some (digit.toNat - 87)
  else if 'A' ≤ digit ∧ digit ≤ 'F' then some (digit.toNat - 55)
  else none

/-- The code unit of four hexadecimal digits. -/
def codeUnit? (first second third fourth : Char) : Option Nat := do
  let first ← hexValue? first
  let second ← hexValue? second
  let third ← hexValue? third
  let fourth ← hexValue? fourth
  return ((first * 16 + second) * 16 + third) * 16 + fourth

/-- Whether a code unit is the first of a surrogate pair. -/
def isLeading (unit : Nat) : Bool := 0xD800 ≤ unit && unit ≤ 0xDBFF

/-- Whether a code unit is the second of a surrogate pair. -/
def isTrailing (unit : Nat) : Bool := 0xDC00 ≤ unit && unit ≤ 0xDFFF

/-- The character of a surrogate pair. -/
def pairCharacter (leading trailing : Nat) : Char :=
  Char.ofNat ((leading - 0xD800) * 0x400 + (trailing - 0xDC00) + 0x10000)

/-- Four bytes are needed for the digits of an escape; with fewer left the text has ended. -/
def shortEscape (text : List Char) : Break :=
  if text.foldl (fun size character => size + character.utf8Size) 0 < 4 then .ended else .unexpected

/-- The break at a place inside a string: what comes after an unpaired surrogate matters only
where the string is skipped. -/
def stopAt (sound : Bool) : Break → Break
  | .ended => if sound then .ended else .endedUnpaired
  | cause => cause

/-- The character that a short escape stands for. -/
def shortEscape? : Char → Option Char
  | '"' => some '"'
  | '\\' => some '\\'
  | '/' => some '/'
  | 'b' => some '\x08'
  | 'f' => some '\x0c'
  | 'n' => some '\n'
  | 'r' => some '\r'
  | 't' => some '\t'
  | _ => none

/-- Read up to the closing quote. The characters read so far are gathered in reverse, and
`sound` says that no surrogate was unpaired among them. -/
def read (gathered : List Char) (sound : Bool) : List Char → Token (Option String)
  | [] => .stopped (stopAt sound .ended)
  | '"' :: rest => .read (if sound then some (String.ofList gathered.reverse) else none) rest
  | '\\' :: 'u' :: first :: second :: third :: fourth :: rest =>
    match codeUnit? first second third fourth with
    | none => .stopped (stopAt sound (shortEscape (first :: second :: third :: fourth :: rest)))
    | some unit =>
      if isTrailing unit then read gathered false rest
      else if isLeading unit then
        match rest with
        | [] => .stopped (stopAt sound .ended)
        | ['\\'] => .stopped (stopAt sound .ended)
        | '\\' :: 'u' :: fifth :: sixth :: seventh :: eighth :: more =>
          match codeUnit? fifth sixth seventh eighth with
          | none => .stopped (stopAt sound (shortEscape (fifth :: sixth :: seventh :: eighth :: more)))
          | some partner =>
            if isTrailing partner then read (pairCharacter unit partner :: gathered) sound more
            else read gathered false ('\\' :: 'u' :: fifth :: sixth :: seventh :: eighth :: more)
        | '\\' :: 'u' :: short => .stopped (stopAt sound (shortEscape short))
        | other => read gathered false other
      else read (Char.ofNat unit :: gathered) sound rest
  | '\\' :: 'u' :: short => .stopped (stopAt sound (shortEscape short))
  | ['\\'] => .stopped (stopAt sound .ended)
  | '\\' :: escape :: rest =>
    match shortEscape? escape with
    | some character => read (character :: gathered) sound rest
    | none => .stopped .unexpected
  | character :: rest =>
    if character.toNat < 32 then .stopped .unexpected
    else read (character :: gathered) sound rest
termination_by text => text.length
decreasing_by all_goals simp_wf; all_goals omega

end StringLiteral

end ControlPlane
