import ControlPlane.Time.Instant

/-!
# Times as text

Times are written in the form of RFC 3339, in universal time, with no decimals or with three, six
or nine of them. Years of other than four digits carry a sign.

There are two readers. The strict one takes the form itself: fixed widths, a zone of hours and
minutes. The lenient one also takes blanks between the parts, one-digit numbers, signed years of
any length and zones without a colon. Both take more than nine decimals and ignore the rest, and
both refuse dates that do not exist.
-/
namespace ControlPlane

namespace Instant

/-- The year of a date, with a sign unless it has four digits. -/
def yearText (year : Int) : List Char :=
  if 0 ≤ year ∧ year ≤ 9999 then Duration.padded 4 year.natAbs
  else (if year < 0 then '-' else '+') :: Duration.padded 4 year.natAbs

/-- The decimals of a second. -/
def decimals (nanos : Nat) : List Char :=
  if nanos = 0 then []
  else if nanos % 1000000 = 0 then '.' :: Duration.padded 3 (nanos / 1000000)
  else if nanos % 1000 = 0 then '.' :: Duration.padded 6 (nanos / 1000)
  else '.' :: Duration.padded 9 nanos

/-- The date and the time with a separator between them and a zone at the end. -/
def textWith (separator : Char) (zone : List Char) (instant : Instant) : List Char :=
  let date := Date.ofNumber (instant.seconds / 86400)
  let ofDay := (instant.seconds % 86400).toNat
  let leap := instant.nanos / 1000000000
  yearText date.year ++ '-' :: Duration.padded 2 date.month ++ '-' :: Duration.padded 2 date.day ++
    separator :: Duration.padded 2 (ofDay / 3600) ++ ':' :: Duration.padded 2 (ofDay / 60 % 60) ++
    ':' :: Duration.padded 2 (ofDay % 60 + leap) ++ decimals (instant.nanos % 1000000000) ++ zone

/-- The text with the zone `Z`. -/
def text (instant : Instant) : String := String.ofList (instant.textWith 'T' ['Z'])

/-- The characters of the text with the zone as an offset. -/
def offsetCharacters (instant : Instant) : List Char :=
  instant.textWith 'T' ['+', '0', '0', ':', '0', '0']

/-- The text with the zone as an offset. -/
def offsetText (instant : Instant) : String := String.ofList instant.offsetCharacters

/-- The text for people. -/
def plainText (instant : Instant) : String :=
  String.ofList (instant.textWith ' ' [' ', 'U', 'T', 'C'])

/-- A value read and the text after it. -/
abbrev Step (α : Type) := Option (α × List Char)

/-- Whether a character is a blank in any script. -/
def isBlank (character : Char) : Bool :=
  let value := character.toNat
  (9 ≤ value && value ≤ 13) || value == 0x20 || value == 0x85 || value == 0xa0 ||
    value == 0x1680 || (0x2000 ≤ value && value ≤ 0x200a) || value == 0x2028 ||
    value == 0x2029 || value == 0x202f || value == 0x205f || value == 0x3000

/-- Drop the blanks at the front of a text. -/
def skipBlanks (text : List Char) : List Char := text.dropWhile isBlank

/-- Read digits: at least so many, at most so many. -/
def readDigits (least most : Nat) (text : List Char) : Step Nat :=
  let digits := (text.take most).takeWhile Char.isDigit
  if digits.length < least then none
  else some (Digits.value digits, text.drop digits.length)

/-- Read one given character. -/
def readMark (mark : Char) : List Char → Option (List Char)
  | first :: rest => if first = mark then some rest else none
  | [] => none

/-- Read the decimals of a second as nanoseconds; digits after the ninth are ignored. -/
def readDecimals : List Char → Step Nat
  | '.' :: rest =>
    let digits := (rest.take 9).takeWhile Char.isDigit
    if digits.isEmpty then none
    else some (Digits.value digits * tenTo (9 - digits.length),
      (rest.drop digits.length).dropWhile Char.isDigit)
  | rest => some (0, rest)

/-- Read two digits of which the first is below a limit. -/
def readPair (limit : Char) : List Char → Step Nat
  | first :: second :: rest =>
    if first.isDigit ∧ first < limit ∧ second.isDigit then
      some (Digits.value [first, second], rest)
    else none
  | _ => none

/-- Read a zone as an offset in seconds: `Z`, or a sign, hours, a separator and minutes. The sign
may be a hyphen or a minus. -/
def readZone (separator : List Char → Option (List Char)) :
    List Char → Option (Int × List Char)
  | 'Z' :: rest => some (0, rest)
  | 'z' :: rest => some (0, rest)
  | sign :: rest => do
    let negative ← if sign = '+' then some false
      else if sign = '-' ∨ sign = '−' then some true else none
    let (hours, rest) ← readPair ':' rest
    let rest ← separator rest
    let (minutes, rest) ← readPair '6' rest
    let offset : Int := hours * 3600 + minutes * 60
    return (if negative then -offset else offset, rest)
  | [] => none

/-- The instant of a date, a time of day and a zone, if all of them exist. -/
def ofParts? (year : Int) (month day hour minute second nanos : Nat) (zone : Int) :
    Option Instant := do
  let date : Date := ⟨year, month, day⟩
  let inYears := -262143 ≤ year ∧ year ≤ 262142
  let inDay := hour < 24 ∧ minute < 60 ∧ second ≤ 60
  let inZone := -86400 < zone ∧ zone < 86400
  if inYears ∧ date.Valid ∧ inDay ∧ inZone then
    let leap := second / 60
    of? (date.number * 86400 + hour * 3600 + minute * 60 + (second - leap) - zone)
      (nanos + leap * 1000000000)
  else none

/-- Read the separator between date and time. -/
def readSeparator : List Char → Option (List Char)
  | 'T' :: rest => some rest
  | 't' :: rest => some rest
  | ' ' :: rest => some rest
  | _ => none

/-- Read the strict form from a list of characters. -/
def readStrict (text : List Char) : Option Instant := do
  let (year, rest) ← readDigits 4 4 text
  let rest ← readMark '-' rest
  let (month, rest) ← readDigits 2 2 rest
  let rest ← readMark '-' rest
  let (day, rest) ← readDigits 2 2 rest
  let rest ← readSeparator rest
  let (hour, rest) ← readDigits 2 2 rest
  let rest ← readMark ':' rest
  let (minute, rest) ← readDigits 2 2 rest
  let rest ← readMark ':' rest
  let (second, rest) ← readDigits 2 2 rest
  let (nanos, rest) ← readDecimals rest
  let (zone, rest) ← readZone (readMark ':') rest
  if rest.isEmpty then ofParts? year month day hour minute second nanos zone else none

/-- Read a year: signed and of any length, or of up to four digits. -/
def readYear (text : List Char) : Step Int :=
  match skipBlanks text with
  | '-' :: rest => (readDigits 1 rest.length rest).map fun (year, rest) => (-(year : Int), rest)
  | '+' :: rest => (readDigits 1 rest.length rest).map fun (year, rest) => ((year : Int), rest)
  | rest => (readDigits 1 4 rest).map fun (year, rest) => ((year : Int), rest)

/-- Read a number of one or two digits after blanks. -/
def readShort (text : List Char) : Step Nat := readDigits 1 2 (skipBlanks text)

/-- Read a mark after blanks. -/
def readSpacedMark (mark : Char) (text : List Char) : Option (List Char) :=
  readMark mark (skipBlanks text)

/-- Read the zone of the lenient form, in which `UTC` is a zone too. -/
def readLenientZone : List Char → Step Int
  | first :: second :: third :: rest =>
    if [first, second, third].map Char.toUpper = ['U', 'T', 'C'] then some (0, rest)
    else readZone (fun text => some (text.dropWhile fun c => c == ':' || isBlank c))
      (first :: second :: third :: rest)
  | short => readZone (fun text => some (text.dropWhile fun c => c == ':' || isBlank c)) short

/-- Read the lenient form from a list of characters. -/
def readLenient (text : List Char) : Option Instant := do
  let (year, rest) ← readYear text
  let rest ← readSpacedMark '-' rest
  let (month, rest) ← readShort rest
  let rest ← readSpacedMark '-' rest
  let (day, rest) ← readShort rest
  let rest ← readSeparator rest
  let (hour, rest) ← readShort rest
  let rest ← readSpacedMark ':' rest
  let (minute, rest) ← readShort rest
  let rest ← readSpacedMark ':' rest
  let (second, rest) ← readShort rest
  let (nanos, rest) ← readDecimals rest
  let (zone, rest) ← readLenientZone (skipBlanks rest)
  if (skipBlanks rest).isEmpty then ofParts? year month day hour minute second nanos zone else none

/-- Read the strict form. -/
def parseStrict? (text : String) : Option Instant := readStrict text.toList

/-- Read the lenient form. -/
def parse? (text : String) : Option Instant := readLenient text.toList

end Instant

end ControlPlane
