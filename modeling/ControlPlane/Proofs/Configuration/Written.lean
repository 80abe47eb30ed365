import ControlPlane.Configuration.Variables
import ControlPlane.Proofs.Json.Records
import ControlPlane.Proofs.Json.RoundTrip

/-!
# Configurations written from variables

Every variable has its place in a JSON configuration: a setting in a section. The values of the
variables that are set, each at its place, make up the configuration that is written
(`Configuration.written`). It holds these settings and no others (`find?_writtenSettings`), and a
section is left out if nothing in it is set.
-/
namespace ControlPlane.Configuration

/-- A number that is understood is below the limit. -/
theorem lt_of_number? {limit number : Nat} {given : String}
    (understood : number? limit given = some number) : number < limit :=
  of_decide_eq_true (Option.filter_eq_some_iff.mp understood).2

/-- What a variable is for. -/
inductive Kind where
  | text
  /-- A number below a limit. -/
  | number (limit : Nat)
  | format
deriving DecidableEq

namespace Kind

/-- The value that is written for a text, `none` if it is not understood: a text as it is, a number
as the integer that is understood, a log format in lower case. -/
def value? : Kind → String → Option Json
  | text, given => some (.string given)
  | number limit, given => (number? limit given).map fun number : Nat => .ofInt number
  | format, given =>
    (LogFormat.ofName? given).toOption.map fun _ => .string (given.map Char.toLower)

/-- Numbers have 64 bits at most. -/
def isStorable : Kind → Bool
  | number limit => limit ≤ twoTo 64
  | text | format => true

/-- Nothing but integers of the 64-bit ranges is written for a number. -/
theorem isIntegral_of_value? {kind : Kind} (storable : kind.isStorable = true) {given : String}
    {value : Json} (understood : kind.value? given = some value) : value.isIntegral = true := by
  cases kind with
  | text =>
    cases understood
    rfl
  | number limit =>
    obtain ⟨number, read, rfl⟩ := Option.map_eq_some_iff.mp understood
    have bounded : limit ≤ twoTo 64 := of_decide_eq_true storable
    have small : number < twoTo 64 := Nat.lt_of_lt_of_le (lt_of_number? read) bounded
    obtain ⟨range, held⟩ := JsonNumber.exists_ofInt_natCast small
    rw [Json.ofInt, held]
    rfl
  | format =>
    obtain ⟨format, -, rfl⟩ := Option.map_eq_some_iff.mp understood
    rfl

end Kind

/-- Where the value of a variable stands in a JSON configuration. -/
structure Place where
  /-- The variable. -/
  name : String
  /-- The section. -/
  part : String
  /-- The setting in the section. -/
  field : String
  /-- What kind of value the setting has. -/
  kind : Kind
deriving DecidableEq

namespace Place

/-- The place is that of a setting. -/
def isAt (part field : String) (place : Place) : Bool := place.part == part && place.field == field

/-- The value that variables give for a place, if they do. -/
def held? (lookup : String → Option String) (place : Place) : Option Json :=
  (lookup place.name).bind place.kind.value?

/-- The variable of a place with its value, if it is set and not understood. -/
def fault? (lookup : String → Option String) (place : Place) : Option (String × String) :=
  (lookup place.name).bind fun value =>
    if (place.kind.value? value).isNone then some (place.name, value) else none

end Place

/-- The place of the environment's name. -/
def environmentPlace : Place := ⟨environmentVariable, "broker", "environment", .text⟩

/-- The places of the other variables in the order in which these are read. -/
def orderedPlaces : List Place :=
  [⟨"LAKEHUB_LOCKS_TABLE_PREFIX", "locks", "table_prefix", .text⟩,
    ⟨"LAKEHUB_LOCKS_ENDPOINT", "locks", "endpoint", .text⟩,
    ⟨"LAKEHUB_LOCKS_TIMEOUT_SECS", "locks", "timeout_secs", .number (twoTo 64)⟩,
    ⟨"LAKEHUB_LOCKS_STALE_AFTER_SECS", "locks", "stale_after_secs", .number (twoTo 64)⟩,
    ⟨"LAKEHUB_REGION", "broker", "region", .text⟩,
    ⟨"LAKEHUB_METADATA_ROLE_PATH", "broker", "metadata_role_path", .text⟩,
    ⟨"LAKEHUB_METADATA_ROLE_NAME", "broker", "metadata_role_name", .text⟩,
    ⟨"LAKEHUB_ASSUME_DURATION_SECS", "broker", "assume_duration_secs", .number (twoTo 64)⟩,
    ⟨"LAKEHUB_RETRY_ATTEMPTS", "broker", "retry_attempts", .number (twoTo 32)⟩,
    ⟨"LAKEHUB_RETRY_WAIT_MS", "broker", "retry_wait_ms", .number (twoTo 64)⟩,
    ⟨"LAKEHUB_LOG_FORMAT", "logging", "format", .format⟩]

/-- The places of all variables. -/
def places : List Place := environmentPlace :: orderedPlaces

/-- No two places are the same. -/
theorem places_distinct : places.Pairwise fun first second =>
    ¬ (first.part = second.part ∧ first.field = second.field) := by
  decide

/-- Numbers have 64 bits at most at all places. -/
theorem places_storable : ∀ place ∈ places, place.kind.isStorable = true := by
  decide

/-- The first variable that is set and not understood, with its value. -/
def firstFault? (lookup : String → Option String) : Option (String × String) :=
  places.findSome? (Place.fault? lookup)

/-- The sections of a configuration, each with its settings. -/
abbrev Sections := Dictionary (Dictionary Json)

namespace Sections

/-- The settings in a section; one that is not there has none. -/
def settings (sections : Sections) (part : String) : Dictionary Json :=
  (sections.find? part).getD .empty

/-- Put a value for a setting into its section. -/
def enter (sections : Sections) (part field : String) (value : Json) : Sections :=
  sections.insert part ((sections.settings part).insert field value)

/-- The values that variables give for places. -/
def gathered (lookup : String → Option String) : List Place → Sections
  | [] => .empty
  | place :: rest => match place.held? lookup with
    | some value => (gathered lookup rest).enter place.part place.field value
    | none => gathered lookup rest

/-- A value that is put in is found under its setting; the others are as before. -/
theorem find?_settings_enter (sections : Sections) (part field : String) (value : Json)
    (otherPart otherField : String) :
    ((sections.enter part field value).settings otherPart).find? otherField =
      if part = otherPart ∧ field = otherField then some value
      else (sections.settings otherPart).find? otherField := by
  unfold enter
  rw [settings, Dictionary.find?_insert]
  by_cases samePart : part = otherPart
  · subst samePart
    rw [if_pos rfl, Option.getD_some, Dictionary.find?_insert]
    simp only [true_and]
  · rw [if_neg samePart, if_neg fun both => samePart both.1]
    rfl

variable {lookup : String → Option String} {places : List Place}

/-- A setting is found if variables give a value for its place, and it is that value. -/
theorem find?_settings_gathered
    (distinct : places.Pairwise fun first second =>
      ¬ (first.part = second.part ∧ first.field = second.field)) (part field : String) :
    ((gathered lookup places).settings part).find? field =
      (places.find? (Place.isAt part field)).bind (Place.held? lookup) := by
  induction places with
  | nil => rfl
  | cons place rest ih =>
    obtain ⟨apart, restDistinct⟩ := List.pairwise_cons.1 distinct
    have others := ih restDistinct
    by_cases here : place.part = part ∧ place.field = field
    · have isAt : place.isAt part field = true := by
        simp only [Place.isAt, here.1, here.2, beq_self_eq_true, Bool.and_self]
      have elsewhere : rest.find? (Place.isAt part field) = none := by
        refine List.find?_eq_none.mpr fun other member there => apart other member ?_
        simp only [Place.isAt, Bool.and_eq_true, beq_iff_eq] at there
        exact ⟨here.1.trans there.1.symm, here.2.trans there.2.symm⟩
      rw [elsewhere, Option.bind_none] at others
      rw [List.find?_cons_of_pos isAt, Option.bind_some, gathered]
      cases held : place.held? lookup with
      | none => exact others
      | some value => rw [find?_settings_enter, if_pos here]
    · have notAt : ¬ place.isAt part field = true := by
        simpa only [Place.isAt, Bool.and_eq_true, beq_iff_eq] using here
      rw [List.find?_cons_of_neg notAt, gathered]
      cases place.held? lookup with
      | none => exact others
      | some value => rw [find?_settings_enter, if_neg here, others]

/-- A setting that is found has the value of a place. -/
theorem exists_place_of_find?
    (distinct : places.Pairwise fun first second =>
      ¬ (first.part = second.part ∧ first.field = second.field)) {part field : String}
    {value : Json} (found : ((gathered lookup places).settings part).find? field = some value) :
    ∃ place ∈ places, place.isAt part field = true ∧ place.held? lookup = some value := by
  rw [find?_settings_gathered distinct] at found
  obtain ⟨place, first, held⟩ := Option.bind_eq_some_iff.mp found
  exact ⟨place, List.mem_of_find?_eq_some first, List.find?_some first, held⟩

/-- Each section is that of a place. -/
theorem exists_place_of_mem {part : String} {settings : Dictionary Json}
    (member : (part, settings) ∈ (gathered lookup places).entries) :
    ∃ place ∈ places, place.part = part := by
  induction places with
  | nil => cases member
  | cons place rest ih =>
    rw [gathered] at member
    cases held : place.held? lookup with
    | none =>
      rw [held] at member
      obtain ⟨other, inRest, same⟩ := ih member
      exact ⟨other, List.mem_cons_of_mem _ inRest, same⟩
    | some value =>
      rw [held] at member
      rcases Entries.mem_insert member with added | before
      · exact ⟨place, List.mem_cons_self, (congrArg Prod.fst added).symm⟩
      · obtain ⟨other, inRest, same⟩ := ih before
        exact ⟨other, List.mem_cons_of_mem _ inRest, same⟩

end Sections

/-- The settings that are written in a section. -/
def writtenSettings (lookup : String → Option String) (part : String) : Dictionary Json :=
  (Sections.gathered lookup places).settings part

/-- A setting is written if a variable of its place is set and understood, and no other is. -/
theorem find?_writtenSettings (lookup : String → Option String) (part field : String) :
    (writtenSettings lookup part).find? field =
      (places.find? (Place.isAt part field)).bind (Place.held? lookup) :=
  Sections.find?_settings_gathered places_distinct part field

/-- A section names only the settings that variables have a place for. -/
theorem known_of_mem {lookup : String → Option String} {part : String} {names : List String}
    (known : ∀ place ∈ places, place.part = part → place.field ∈ names) {entry : String × Json}
    (member : entry ∈ (writtenSettings lookup part).entries) : entry.1 ∈ names := by
  have found := Entries.find?_of_mem (writtenSettings lookup part).ascending member
  obtain ⟨place, inPlaces, isAt, -⟩ := Sections.exists_place_of_find? places_distinct found
  simp only [Place.isAt, Bool.and_eq_true, beq_iff_eq] at isAt
  rw [← isAt.2]
  exact known place inPlaces isAt.1

/-- The name of the environment is written if it is given. -/
theorem find?_environment {lookup : String → Option String} {name : String}
    (given : lookup environmentVariable = some name) :
    (writtenSettings lookup "broker").find? "environment" = some (.string name) := by
  refine (find?_writtenSettings lookup "broker" "environment").trans ?_
  change (lookup environmentVariable).bind _ = _
  rw [given]
  rfl

/-- The sections that are written, each as an object. -/
def writtenSections (lookup : String → Option String) : Dictionary Json :=
  (Sections.gathered lookup places).map fun settings => Json.object settings.entries

/-- The configuration that variables write: what is set, each at its place. -/
def written (lookup : String → Option String) : Json := .object (writtenSections lookup).entries

/-- A section that is not written has no settings. -/
theorem writtenSections_find? (lookup : String → Option String) (part : String) :
    (writtenSections lookup).find? part = some (.object (writtenSettings lookup part).entries) ∨
      (writtenSections lookup).find? part = none ∧ writtenSettings lookup part = .empty := by
  unfold writtenSections writtenSettings Sections.settings
  rw [Dictionary.find?_map]
  cases (Sections.gathered lookup places).find? part with
  | none => exact .inr ⟨rfl, rfl⟩
  | some settings => exact .inl rfl

/-- Only sections that variables have a place in are written. -/
theorem part_of_mem {lookup : String → Option String} {names : List String}
    (known : ∀ place ∈ places, place.part ∈ names) {entry : String × Json}
    (member : entry ∈ (writtenSections lookup).entries) : entry.1 ∈ names := by
  obtain ⟨⟨part, settings⟩, inside, rfl⟩ := List.mem_map.mp member
  obtain ⟨place, inPlaces, rfl⟩ := Sections.exists_place_of_mem inside
  exact known place inPlaces

/-- No number that is written is rounded. -/
theorem isIntegral_written (lookup : String → Option String) :
    (written lookup).isIntegral = true := by
  unfold written
  rw [Json.isIntegral, Json.membersIntegral_iff]
  intro entry member
  obtain ⟨⟨part, settings⟩, inside, rfl⟩ := List.mem_map.mp member
  have found : (Sections.gathered lookup places).settings part = settings := by
    rw [Sections.settings, Dictionary.find?, Entries.find?_of_mem (Dictionary.ascending _) inside]
    rfl
  change (Json.object settings.entries).isIntegral = true
  rw [Json.isIntegral, Json.membersIntegral_iff]
  rintro ⟨field, value⟩ held
  have held : settings.find? field = some value := Entries.find?_of_mem settings.ascending held
  rw [← found] at held
  obtain ⟨place, known, -, given⟩ := Sections.exists_place_of_find? places_distinct held
  obtain ⟨text, -, understood⟩ := Option.bind_eq_some_iff.mp given
  exact Kind.isIntegral_of_value? (places_storable place known) understood

end ControlPlane.Configuration
