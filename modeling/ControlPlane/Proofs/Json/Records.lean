import ControlPlane.Json.Reader
import ControlPlane.Proofs.Dictionary

/-!
# Records read from objects

An object yields a record if each field of the record takes the value that the object holds for
it, and the record is put together from these. What is yielded follows the definition of the record
field by field: a field holds what its reader reads, or its default if the object does not name it.
An object that names nothing else is read as the record that it yields (`RecordReader.read_object`).
-/
namespace ControlPlane

/-- A natural number of 64 bits is an integer. -/
theorem JsonNumber.exists_ofInt_natCast {number : Nat} (small : number < twoTo 64) :
    ∃ range, ofInt number = .integer ⟨number, range⟩ := by
  have widest : twoTo 64 = 18446744073709551616 := by decide
  have range : -9223372036854775808 ≤ (number : Int) ∧ (number : Int) < 18446744073709551616 := by
    omega
  refine ⟨range, ?_⟩
  unfold ofInt
  rw [dif_pos range]

namespace JsonReader

/-- A string is read from its value. -/
theorem text_ofJson (depth : Nat) (value : String) :
    text depth (.ofJson (.string value)) = .ok value := by
  simp only [Transcript.ofJson, text]

/-- An integer within the limit is read. -/
theorem natural_integer {limit : Nat}
    (value : { value : Int // -9223372036854775808 ≤ value ∧ value < 18446744073709551616 })
    (within : 0 ≤ value.1 ∧ value.1 < limit) (wanted : String) (depth : Nat) :
    natural limit wanted depth (.number (some (.integer value))) = .ok value.1.toNat := by
  simp only [natural, if_pos within]

/-- A natural number is read from its value if it is within the limit, and that is one of 64 bits. -/
theorem natural_ofJson {limit number : Nat} (bounded : limit ≤ twoTo 64) (small : number < limit)
    (wanted : String) (depth : Nat) :
    natural limit wanted depth (.ofJson (.ofInt number)) = .ok number := by
  obtain ⟨range, held⟩ := JsonNumber.exists_ofInt_natCast (Nat.lt_of_lt_of_le small bounded)
  have within : 0 ≤ (number : Int) ∧ (number : Int) < limit := by omega
  rw [Json.ofInt, held, Transcript.ofJson]
  exact natural_integer ⟨number, range⟩ within wanted depth

/-- An optional value that is there is read as one. -/
theorem optional_string {α : Type} {reader : JsonReader α} {depth : Nat} {text : String} {value : α}
    (read : reader depth (.ofJson (.string text)) = .ok value) :
    optional reader depth (.ofJson (.string text)) = .ok (some value) := by
  simp only [Transcript.ofJson] at read
  simp only [Transcript.ofJson, optional, read]
  rfl

end JsonReader

namespace RecordReader

variable {α β : Type} {depth : Nat} {members : Entries Json}

/-- A field of the name is among the fields, and it takes the value. -/
def Takes (fields : List RecordField) (depth : Nat) (name : String) (value : Json) : Prop :=
  ∃ field, fields.find? (fun field => field.name == name) = some field ∧
    field.check depth (.ofJson value) = .ok ()

/-- The transcripts of an object's members under their keys. -/
def transcripts (members : Entries Json) (key : String) : Option Transcript :=
  (members.find? key).map Transcript.ofJson

/-- Members that fields take are gathered, each under its key. -/
theorem exists_gather {fields : List RecordField} (gathered : Entries Transcript)
    (ascending : members.Ascending)
    (takes : ∀ entry ∈ members, Takes fields depth entry.1 entry.2)
    (free : ∀ entry ∈ members, gathered.find? entry.1 = none) (strict : Bool) :
    ∃ result, gather fields strict depth (Transcript.ofMembers members) gathered = .ok result ∧
      ∀ key, result.find? key = (transcripts members key).or (gathered.find? key) := by
  induction members generalizing gathered with
  | nil =>
    refine ⟨gathered, by simp only [Transcript.ofMembers, gather], fun key => ?_⟩
    exact Option.none_or.symm
  | cons head rest ih =>
    obtain ⟨name, value⟩ := head
    obtain ⟨later, restAscending⟩ := List.pairwise_cons.1 ascending
    obtain ⟨field, known, taken⟩ := takes _ List.mem_cons_self
    have first : gathered.find? name = none := free _ List.mem_cons_self
    have others : ∀ entry ∈ rest,
        (gathered.insert name (Transcript.ofJson value)).find? entry.1 = none := by
      intro entry member
      have different : name ≠ entry.1 := fun same =>
        String.lt_irrefl name (same ▸ later entry member)
      rw [Entries.find?_insert, if_neg different]
      exact free entry (List.mem_cons_of_mem _ member)
    obtain ⟨result, went, holds⟩ :=
      ih _ restAscending (fun entry member => takes entry (List.mem_cons_of_mem _ member)) others
    refine ⟨result, ?_, fun key => ?_⟩
    · simp only [Transcript.ofMembers, gather, known, first, Option.isSome_none,
        Bool.false_eq_true, if_false, taken]
      exact went
    · have absent : name = key → Entries.find? rest key = none := fun same =>
        same ▸ Entries.find?_eq_none_of_lt later
      rw [holds key, Entries.find?_insert]
      simp only [transcripts, Entries.find?]
      by_cases same : name = key
      · rw [if_pos same, if_pos same, absent same]
        rfl
      · rw [if_neg same, if_neg same]

/-- The fields of a record take what an object holds for them, and put together this is the
record. -/
structure Yields (reader : RecordReader α) (depth : Nat) (members : Entries Json) (record : α) :
    Prop where
  /-- Each member that the reader knows is one that its field takes. -/
  takes : ∀ entry ∈ members, entry.1 ∈ reader.fields.map (·.name) →
    Takes reader.fields depth entry.1 entry.2
  /-- What the fields hold makes up the record. -/
  built : reader.build depth (transcripts members) = .ok record

/-- An object that names only fields of a record is read as the record it yields. -/
theorem read_object {reader : RecordReader α} {record : α} (ascending : members.Ascending)
    (known : ∀ entry ∈ members, entry.1 ∈ reader.fields.map (·.name))
    (yields : reader.Yields depth members record) (name : String) (strict : Bool) :
    reader.read name strict (depth + 1) (.ofJson (.object members)) = .ok record := by
  have takes : ∀ entry ∈ members, Takes reader.fields depth entry.1 entry.2 :=
    fun entry member => yields.takes entry member (known entry member)
  obtain ⟨result, gathers, holds⟩ :=
    exists_gather [] ascending takes (fun _ _ => rfl) strict
  have found : result.find? = transcripts members := by
    funext key
    rw [holds key]
    exact Option.or_none
  have built := yields.built
  rw [← found] at built
  simp only [Transcript.ofJson, read, gathers, bind, Except.bind, JsonReader.ended, built]

/-- A record without fields is yielded by any object. -/
theorem yields_constant (record : α) : (constant record).Yields depth members record where
  takes _ _ named := nomatch named
  built := rfl

/-- A record is yielded with a field if it is without, and the field is by itself. -/
theorem Yields.apply {partialRecord : RecordReader (α → β)} {next : RecordReader α}
    {make : α → β} {value : α} (before : partialRecord.Yields depth members make)
    (last : next.Yields depth members value) :
    (partialRecord.apply next).Yields depth members (make value) where
  takes entry member named := by
    simp only [RecordReader.apply, List.map_append, List.mem_append] at named
    unfold Takes
    rw [RecordReader.apply, List.find?_append]
    by_cases earlier : entry.1 ∈ partialRecord.fields.map (·.name)
    · obtain ⟨field, found, taken⟩ := before.takes entry member earlier
      exact ⟨field, by rw [found, Option.some_or], taken⟩
    · obtain ⟨field, found, taken⟩ := last.takes entry member (named.resolve_left earlier)
      have others : partialRecord.fields.find? (fun field => field.name == entry.1) = none := by
        refine List.find?_eq_none.mpr fun field inside same => earlier ?_
        exact List.mem_map.mpr ⟨field, inside, beq_iff_eq.mp same⟩
      exact ⟨field, by rw [others, Option.none_or, found], taken⟩
  built := by
    simp only [RecordReader.apply, before.built, last.built]
    rfl

/-- A field yields what its reader reads from its value. -/
theorem yields_field {name : String} {reader : JsonReader α} {absent : Except MissingField α}
    {held : Json} {value : α} (ascending : members.Ascending)
    (found : members.find? name = some held) (read : reader depth (.ofJson held) = .ok value) :
    (field name reader absent).Yields depth members value where
  takes entry member named := by
    simp only [field, List.map_cons, List.map_nil, List.mem_singleton] at named
    rw [← named, Entries.find?_of_mem ascending member] at found
    refine ⟨_, List.find?_cons_of_pos (beq_iff_eq.mpr named.symm), ?_⟩
    rw [Option.some.inj found]
    exact congrArg (Except.map fun _ => ()) read
  built := by simp only [field, transcripts, found, Option.map_some, fieldValue, read]

/-- A field that an object does not name yields its default. -/
theorem yields_default {name : String} {reader : JsonReader α} {default : α}
    (ascending : members.Ascending) (found : members.find? name = none) :
    (withDefault name reader default).Yields depth members default where
  takes entry member named := by
    simp only [withDefault, field, List.map_cons, List.map_nil, List.mem_singleton] at named
    rw [← named, Entries.find?_of_mem ascending member] at found
    cases found
  built := by simp only [withDefault, field, transcripts, found, Option.map_none, fieldValue]

end RecordReader

end ControlPlane
