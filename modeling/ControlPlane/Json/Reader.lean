import ControlPlane.Json.Fault
import ControlPlane.Json.Transcribe

/-!
# Readers of JSON values

A reader takes a transcript and gives a value or the first fault in reading order. Containers
nest to a limited depth: entering one uses up a unit of depth, and a container with none left is
malformed. Skipped values are not limited.

A record is read from an object, or from a list of its fields in declaration order. A
`RecordReader` is built from its fields one by one; each field is checked when it is reached in
the text, and the record is put together afterwards, so the first fault in the text wins over
fields that are missing.
-/
namespace ControlPlane

/-- Reads a value from a transcript with a number of containers left to enter. -/
abbrev JsonReader (α : Type) := Nat → Transcript → Except ReadFault α

namespace JsonReader

/-- The number of containers that may stand one inside the other. -/
def depthLimit : Nat := 127

/-- Find something other than what is wanted. -/
def mismatched {α : Type} (found : Found) (wanted : String) : Except ReadFault α :=
  .error (.mismatch (.wrongKind found wanted))

/-- The fault of a value that is not of the wanted kind. -/
def otherKind {α : Type} (wanted : String) : Transcript → Except ReadFault α
  | .null => mismatched .null wanted
  | .bool value => mismatched (.bool value) wanted
  | .number (some value) => mismatched (.number value) wanted
  | .number none => .error .malformed
  | .string (some value) => mismatched (.string value) wanted
  | .string none => .error .malformed
  | .array .. => mismatched .sequence wanted
  | .object .. | .keyless _ => mismatched .map wanted
  | .broken cause => .error cause.fault

/-- The fault of a container that did not end, and nothing for one that did. -/
def ended : Option Break → Except ReadFault Unit
  | none => .ok ()
  | some cause => .error cause.fault

/-- Read a string. -/
def text : JsonReader String
  | _, .string (some value) => .ok value
  | _, other => otherKind "a string" other

/-- Read an integer from zero up to a limit. -/
def natural (limit : Nat) (wanted : String) : JsonReader Nat
  | _, .number (some (.integer value)) =>
    if 0 ≤ value.1 ∧ value.1 < limit then .ok value.1.toNat
    else .error (.mismatch (.outOfRange (.number (.integer value)) wanted))
  | _, other => otherKind wanted other

/-- Read an unsigned 64-bit integer. -/
def natural64 : JsonReader Nat := natural (twoTo 64) "u64"

/-- Read an unsigned 32-bit integer. -/
def natural32 : JsonReader Nat := natural (twoTo 32) "u32"

/-- Read nothing from `null`, and else what a reader reads. -/
def optional {α : Type} (reader : JsonReader α) : JsonReader (Option α)
  | _, .null => .ok none
  | depth, other => (reader depth other).map some

/-- Read each item. -/
def items {α : Type} (reader : Transcript → Except ReadFault α) :
    List Transcript → Except ReadFault (List α)
  | [] => .ok []
  | item :: rest => do
    let value ← reader item
    let values ← items reader rest
    return value :: values

/-- Read a list. -/
def list {α : Type} (reader : JsonReader α) : JsonReader (List α)
  | 0, .array .. => .error .malformed
  | depth + 1, .array transcripts ending => do
    let values ← items (reader depth) transcripts
    ended ending
    return values
  | _, other => otherKind "a sequence" other

/-- Read the value of the only variant of an object: nothing but `null` belongs there. -/
def nothing : Transcript → Except ReadFault Unit
  | .null => .ok ()
  | other => otherKind "unit" other

/-- Choose a variant by its name. -/
def variant {α : Type} (variants : List (String × α)) (name : String) : Except ReadFault α :=
  match variants.find? fun entry => entry.1 == name with
  | some entry => .ok entry.2
  | none => .error (.mismatch (.unknownVariant name (variants.map (·.1))))

/-- Read one of several names: a string, or an object with the name as its only key and `null`
as its value. -/
def choice {α : Type} (variants : List (String × α)) : JsonReader α
  | _, .string (some name) => variant variants name
  | 0, .object .. => .error .malformed
  | 0, .keyless _ => .error .malformed
  | _ + 1, .object ((some name, value) :: rest) ending => do
    let chosen ← variant variants name
    nothing value
    match rest, ending with
    | [], none => return chosen
    | [], some cause => .error cause.choiceFault
    | _ :: _, _ => .error .malformed
  | _ + 1, .object [] (some cause) => .error cause.fault
  | _ + 1, .keyless first => otherKind "variant identifier" first
  | _, .broken cause => .error cause.choiceFault
  | _, _ => .error .malformed

mutual

/-- The fault met when a value is skipped, if there is one. -/
def skip : Transcript → Except ReadFault Unit
  | .null | .bool _ | .number _ | .string _ => .ok ()
  | .array transcripts ending => do
    skipItems transcripts
    skipEnding ending
  | .object members ending => do
    skipMembers members
    skipEnding ending
  | .keyless _ => .error .malformed
  | .broken cause => .error cause.skippedFault

/-- The first fault met when items are skipped. -/
def skipItems : List Transcript → Except ReadFault Unit
  | [] => .ok ()
  | item :: rest => do
    skip item
    skipItems rest

/-- The first fault met when members are skipped. -/
def skipMembers : List (Option String × Transcript) → Except ReadFault Unit
  | [] => .ok ()
  | (_, value) :: rest => do
    skip value
    skipMembers rest

/-- The fault of the end of a skipped container. -/
def skipEnding : Option Break → Except ReadFault Unit
  | none => .ok ()
  | some cause => .error cause.skippedFault

end

mutual

/-- Read any value, with its members in key order and the last one of a key winning. -/
def value : Nat → Transcript → Except ReadFault Json
  | _, .null => .ok .null
  | _, .bool held => .ok (.bool held)
  | _, .number (some held) => .ok (.number held)
  | _, .number none => .error .malformed
  | _, .string (some held) => .ok (.string held)
  | _, .string none => .error .malformed
  | 0, .array .. => .error .malformed
  | depth + 1, .array transcripts ending => do
    let values ← valueItems depth transcripts
    ended ending
    return .array values
  | 0, .object .. => .error .malformed
  | depth + 1, .object transcripts ending => do
    let members ← valueMembers depth transcripts []
    ended ending
    return .object members
  | _, .keyless _ => .error .malformed
  | _, .broken cause => .error cause.fault

/-- Read the items of a list of any values. -/
def valueItems : Nat → List Transcript → Except ReadFault (List Json)
  | _, [] => .ok []
  | depth, item :: rest => do
    let first ← value depth item
    let others ← valueItems depth rest
    return first :: others

/-- Read members and insert them into those gathered so far. -/
def valueMembers : Nat → List (Option String × Transcript) → Entries Json →
    Except ReadFault (Entries Json)
  | _, [], gathered => .ok gathered
  | _, (none, _) :: _, _ => .error .malformed
  | depth, (some key, transcript) :: rest, gathered => do
    let held ← value depth transcript
    valueMembers depth rest (gathered.insert key held)

end

/-- Read an object with any members. -/
def object : JsonReader JsonObject
  | 0, .object .. => .error .malformed
  | 0, .keyless _ => .error .malformed
  | depth + 1, .object transcripts ending => do
    let members ← valueMembers depth transcripts []
    ended ending
    return .ofMembers members
  | _ + 1, .keyless _ => .error .malformed
  | _, other => otherKind "a map" other

end JsonReader

/-- A field of a record: its name and the check of its value. -/
structure RecordField where
  /-- The name of the field. -/
  name : String
  /-- The first fault of a value of the field. -/
  check : JsonReader Unit

/-- Why a record cannot be put together: a field without a default has no value. -/
structure MissingField where
  /-- The name of the field. -/
  name : String

/-- Reads a record from the values of its fields. -/
structure RecordReader (α : Type) where
  /-- The fields in declaration order. -/
  fields : List RecordField
  /-- Put the record together from the transcripts of its fields. -/
  build : Nat → (String → Option Transcript) → Except MissingField α

namespace RecordReader

variable {α β : Type}

/-- A record without fields. -/
def constant (value : α) : RecordReader α := ⟨[], fun _ _ => .ok value⟩

/-- A field that is absent or unreadable takes a default; unreadable values were refused when the
field was checked. -/
def fieldValue (reader : JsonReader α) (absent : Except MissingField α) (depth : Nat) :
    Option Transcript → Except MissingField α
  | none => absent
  | some transcript => match reader depth transcript with
    | .ok value => .ok value
    | .error _ => absent

/-- A field of a record. -/
def field (name : String) (reader : JsonReader α) (absent : Except MissingField α) :
    RecordReader α where
  fields := [⟨name, fun depth transcript => (reader depth transcript).map fun _ => ()⟩]
  build depth find := fieldValue reader absent depth (find name)

/-- A field that has to be there. -/
def required (name : String) (reader : JsonReader α) : RecordReader α :=
  field name reader (.error ⟨name⟩)

/-- A field with a default. -/
def withDefault (name : String) (reader : JsonReader α) (default : α) : RecordReader α :=
  field name reader (.ok default)

/-- Add a field to a record that still lacks it. -/
def apply (partialRecord : RecordReader (α → β)) (next : RecordReader α) : RecordReader β where
  fields := partialRecord.fields ++ next.fields
  build depth find := do
    let make ← partialRecord.build depth find
    let value ← next.build depth find
    return make value

/-- The place of a field in declaration order. -/
def position (reader : RecordReader α) (name : String) : Nat :=
  (reader.fields.map (·.name)).idxOf name

/-- The words for a record with its number of fields. -/
def countedName (reader : RecordReader α) (name : String) : String :=
  let count := reader.fields.length
  "struct " ++ name ++ " with " ++ toString count ++ (if count = 1 then " element" else " elements")

/-- Check members in reading order and gather the transcripts of known fields. A field that is not
known is refused by a strict record and skipped by any other. -/
def gather (fields : List RecordField) (strict : Bool) (depth : Nat) :
    List (Option String × Transcript) → Entries Transcript → Except ReadFault (Entries Transcript)
  | [], gathered => .ok gathered
  | (none, _) :: _, _ => .error .malformed
  | (some name, transcript) :: rest, gathered =>
    match fields.find? fun field => field.name == name with
    | some field =>
      if (gathered.find? name).isSome then .error (.mismatch (.repeatedField name))
      else do
        field.check depth transcript
        gather fields strict depth rest (gathered.insert name transcript)
    | none =>
      if strict then .error (.mismatch (.unknownField name (fields.map (·.name))))
      else do
        JsonReader.skip transcript
        gather fields strict depth rest gathered

/-- Check items one after another as the fields in declaration order. The result holds the
transcripts of the fields and the number of items left over. -/
def gatherInOrder (depth : Nat) : List RecordField → List Transcript → Entries Transcript →
    Except ReadFault (Entries Transcript × Nat)
  | [], rest, gathered => .ok (gathered, rest.length)
  | _, [], gathered => .ok (gathered, 0)
  | field :: fields, transcript :: rest, gathered => do
    field.check depth transcript
    gatherInOrder depth fields rest (gathered.insert field.name transcript)

/-- Read a record of a given name. -/
def read (reader : RecordReader α) (name : String) (strict : Bool) : JsonReader α
  | 0, .object .. => .error .malformed
  | 0, .array .. => .error .malformed
  | depth + 1, .object members ending => do
    let gathered ← gather reader.fields strict depth members []
    JsonReader.ended ending
    match reader.build depth gathered.find? with
    | .ok record => .ok record
    | .error missing => .error (.mismatch (.missingField missing.name))
  | depth + 1, .array items ending => do
    let (gathered, surplus) ← gatherInOrder depth reader.fields items []
    if items.length < reader.fields.length then JsonReader.ended ending
    match reader.build depth gathered.find? with
    | .error missing =>
      .error (.mismatch (.wrongLength (reader.position missing.name) (reader.countedName name)))
    | .ok record =>
      if surplus = 0 then do
        JsonReader.ended ending
        return record
      else .error (.surplus items.length)
  | _, .keyless _ => .error .malformed
  | _, other => JsonReader.otherKind ("struct " ++ name) other

end RecordReader

namespace Document

/-- Read a document: the value, and nothing after it. -/
def read {α : Type} (document : Document) (reader : JsonReader α) : Except ReadFault α := do
  let value ← reader JsonReader.depthLimit document.value
  if document.trailing then .error .malformed
  return value

end Document

namespace Json

/-- Read a text as any value. -/
def parse (text : String) : Except ReadFault Json := (Document.ofText text).read JsonReader.value

/-- Read a value as something more specific. -/
def decode {α : Type} (value : Json) (reader : JsonReader α) : Except ReadFault α :=
  reader JsonReader.depthLimit (.ofJson value)

end Json

end ControlPlane
