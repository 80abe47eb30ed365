import ControlPlane.Configuration.Reader
import ControlPlane.Proofs.Configuration.Construction
import ControlPlane.Proofs.Configuration.Written

/-!
# Agreement of the environment and texts

The variables of an environment lead to the same configuration as the text that is written from them
(`variables_agree`), although each way has defaults and readers of its own. Both are compared with
one description of the configuration (`Configuration.settled`): each variable gives one setting or
leaves its default. On the one side the variables are read in order, and the first one that is not
understood is the error (`assign_eq`); on the other side each section is read as a record
(`RecordReader.Yields`).
-/
namespace ControlPlane

namespace LogFormat

/-- A name that is understood is read in lower case. -/
theorem reader_lowered {given : String} {format : LogFormat} (understood : ofName? given = .ok format)
    (depth : Nat) : reader depth (.ofJson (.string (given.map Char.toLower))) = .ok format := by
  simp only [ofName?] at understood
  simp only [Transcript.ofJson, reader, JsonReader.choice, JsonReader.variant]
  split at understood
  · next entry found =>
    cases understood
    simp only [← beq_eq_decide] at found
    rw [found]
  · cases understood

end LogFormat

namespace Configuration

variable {lookup : String → Option String} {configuration : Configuration}

/-- The value of a variable, or a default if it is not set or not understood. -/
def valueOf {α : Type} (lookup : String → Option String) (name : String)
    (parse : String → Option α) (default : α) : α :=
  ((lookup name).bind parse).getD default

namespace Variable

/-- The variable with its value, if it is set and not understood. -/
def fault? (lookup : String → Option String) (entry : Variable) : Option (String × String) :=
  (lookup entry.name).bind fun value =>
    if (entry.setting? value).isNone then some (entry.name, value) else none

/-- Let a variable change a configuration, if it is set and understood. -/
def settle (lookup : String → Option String) (configuration : Configuration) (entry : Variable) :
    Configuration :=
  match (lookup entry.name).bind entry.setting? with
  | some change => change configuration
  | none => configuration

/-- A variable that sets one value within a part of a configuration gives that value, or leaves the
one that is there. -/
theorem settle_within {σ α : Type} (lookup : String → Option String)
    (within : (σ → σ) → Configuration → Configuration)
    (unchanged : ∀ configuration, within (fun part => part) configuration = configuration)
    (parse : String → Option α) (set : α → σ → σ) (get : σ → α)
    (keeps : ∀ part, set (get part) part = part) (name : String) (configuration : Configuration) :
    settle lookup configuration ⟨name, fun text => (parse text).map fun value => within (set value)⟩ =
      within (fun part => set (valueOf lookup name parse (get part)) part) configuration := by
  have same : within (fun part => set (get part) part) configuration = configuration := by
    simp only [keeps, unchanged]
  unfold settle valueOf
  cases given : lookup name with
  | none => exact same.symm
  | some text =>
    simp only [Option.bind_some]
    cases parse text with
    | none => exact same.symm
    | some value => rfl

end Variable

/-- The first variable that is not understood is the error; without one, all of them change the
configuration. -/
theorem assign_eq (entries : List Variable) (configuration : Configuration) :
    assign lookup entries configuration = match entries.findSome? (Variable.fault? lookup) with
      | some fault => .error (.setting fault.1 fault.2)
      | none => .ok (entries.foldl (Variable.settle lookup) configuration) := by
  induction entries generalizing configuration with
  | nil => rfl
  | cons next rest ih =>
    rw [assign, List.findSome?_cons, List.foldl_cons]
    cases given : lookup next.name with
    | none => simp only [Variable.fault?, Variable.settle, given, Option.bind_none, ih]
    | some value =>
      cases understood : next.setting? value with
      | none =>
        simp only [Variable.fault?, given, Option.bind_some, understood, Option.isNone_none,
          if_true]
      | some change =>
        simp only [Variable.fault?, Variable.settle, given, Option.bind_some, understood,
          Option.isNone_some, Bool.false_eq_true, if_false, ih]

/-- The settings of the lock store that variables give. -/
def settledLocks (lookup : String → Option String) : LockSettings :=
  let default := LockSettings.default
  { tablePrefix := valueOf lookup "LAKEHUB_LOCKS_TABLE_PREFIX" some default.tablePrefix
    endpoint := valueOf lookup "LAKEHUB_LOCKS_ENDPOINT" (fun text => some (some text))
      default.endpoint
    timeoutSeconds := valueOf lookup "LAKEHUB_LOCKS_TIMEOUT_SECS" (number? (twoTo 64))
      default.timeoutSeconds
    staleAfterSeconds := valueOf lookup "LAKEHUB_LOCKS_STALE_AFTER_SECS" (number? (twoTo 64))
      default.staleAfterSeconds }

/-- The settings of the session broker that variables give for an environment. -/
def settledBroker (lookup : String → Option String) (environment : Environment) : BrokerSettings :=
  let default := BrokerSettings.ofEnvironment environment
  { default with
    region := valueOf lookup "LAKEHUB_REGION" some default.region
    metadataRolePath := valueOf lookup "LAKEHUB_METADATA_ROLE_PATH" some default.metadataRolePath
    metadataRoleName := valueOf lookup "LAKEHUB_METADATA_ROLE_NAME" some default.metadataRoleName
    assumeSeconds := valueOf lookup "LAKEHUB_ASSUME_DURATION_SECS" (number? (twoTo 64))
      default.assumeSeconds
    retryAttempts := valueOf lookup "LAKEHUB_RETRY_ATTEMPTS" (number? (twoTo 32))
      default.retryAttempts
    retryWaitMillis := valueOf lookup "LAKEHUB_RETRY_WAIT_MS" (number? (twoTo 64))
      default.retryWaitMillis }

/-- The log format that variables give. -/
def settledFormat (lookup : String → Option String) : LogFormat :=
  valueOf lookup "LAKEHUB_LOG_FORMAT" (fun text => (LogFormat.ofName? text).toOption) .text

/-- The configuration that variables give for an environment. -/
def settled (lookup : String → Option String) (environment : Environment) : Configuration :=
  ⟨settledLocks lookup, settledBroker lookup environment, settledFormat lookup⟩

/-- The variables that are read in order give this configuration. -/
theorem foldl_settle_ordered (environment : Environment) :
    orderedVariables.foldl (Variable.settle lookup) (.ofEnvironment environment) =
      settled lookup environment := by
  have inLocks {α : Type} (parse : String → Option α) (set : α → LockSettings → LockSettings) :=
    Variable.settle_within lookup changeLocks (fun _ => rfl) parse set
  have inBroker {α : Type} (parse : String → Option α) (set : α → BrokerSettings → BrokerSettings) :=
    Variable.settle_within lookup changeBroker (fun _ => rfl) parse set
  have inLogging := Variable.settle_within lookup
    (fun change before => { before with logFormat := change before.logFormat }) (fun _ => rfl)
    (fun text => (LogFormat.ofName? text).toOption) (fun format _ => format) id (fun _ => rfl)
  -- The change of the last variable stands outermost, so the variables are taken from the last on.
  simp only [orderedVariables, List.foldl_cons, List.foldl_nil]
  erw [inLogging,
    inBroker (number? _) (fun millis broker => { broker with retryWaitMillis := millis })
      (·.retryWaitMillis) (fun _ => rfl),
    inBroker (number? _) (fun attempts broker => { broker with retryAttempts := attempts })
      (·.retryAttempts) (fun _ => rfl),
    inBroker (number? _) (fun seconds broker => { broker with assumeSeconds := seconds })
      (·.assumeSeconds) (fun _ => rfl),
    inBroker some (fun name broker => { broker with metadataRoleName := name })
      (·.metadataRoleName) (fun _ => rfl),
    inBroker some (fun path broker => { broker with metadataRolePath := path })
      (·.metadataRolePath) (fun _ => rfl),
    inBroker some (fun region broker => { broker with region := region })
      (·.region) (fun _ => rfl),
    inLocks (number? _) (fun seconds locks => { locks with staleAfterSeconds := seconds })
      (·.staleAfterSeconds) (fun _ => rfl),
    inLocks (number? _) (fun seconds locks => { locks with timeoutSeconds := seconds })
      (·.timeoutSeconds) (fun _ => rfl),
    inLocks (fun text => some (some text)) (fun text locks => { locks with endpoint := text })
      (·.endpoint) (fun _ => rfl),
    inLocks some (fun text locks => { locks with tablePrefix := text })
      (·.tablePrefix) (fun _ => rfl)]
  rfl

/-- The variables that are read in order are not understood where their places have no values. -/
theorem faults_ordered (lookup : String → Option String) :
    orderedVariables.map (Variable.fault? lookup) = orderedPlaces.map (Place.fault? lookup) := by
  simp only [orderedVariables, orderedPlaces, List.map_cons, List.map_nil, Variable.fault?,
    Place.fault?, textVariable, numberVariable, Kind.value?, Option.isNone_map, Option.isNone_some]
  rfl

/-- The environment is refused for the first variable that is not understood; without one, the
configuration that the variables give is checked. -/
theorem ofVariables_eq {name : String} (given : lookup environmentVariable = some name) :
    ofVariables lookup = match firstFault? lookup with
      | some fault => .error (.setting fault.1 fault.2)
      | none => (settled lookup ⟨name⟩).checked := by
  have first : orderedVariables.findSome? (Variable.fault? lookup) = firstFault? lookup := by
    have named : environmentPlace.fault? lookup = none := by
      simp only [environmentPlace, Place.fault?, given]
      rfl
    rw [firstFault?, places, List.findSome?_cons, named]
    have same := congrArg (List.findSome? id) (faults_ordered lookup)
    rw [List.findSome?_map, List.findSome?_map] at same
    exact same
  rw [ofVariables, given]
  simp only [assign_eq, first, foldl_settle_ordered]
  cases firstFault? lookup with
  | none => rfl
  | some fault => rfl

namespace Kind

variable {α : Type}

/-- What is written for a text is read as what the text is understood as. -/
def Conveys (kind : Kind) (parse : String → Option α) (reader : JsonReader α) : Prop :=
  ∀ given, (parse given = none ∧ kind.value? given = none) ∨
    ∃ value held, parse given = some value ∧ kind.value? given = some held ∧
      ∀ depth, reader depth (.ofJson held) = .ok value

/-- A text is read as it is. -/
theorem conveys_text : Conveys .text some JsonReader.text := by
  intro given
  exact .inr ⟨given, .string given, rfl, rfl, fun depth => JsonReader.text_ofJson depth given⟩

/-- A text is read as one that is there. -/
theorem conveys_optional :
    Conveys .text (fun text => some (some text)) (JsonReader.optional JsonReader.text) := by
  intro given
  exact .inr ⟨some given, .string given, rfl, rfl,
    fun depth => JsonReader.optional_string (JsonReader.text_ofJson depth given)⟩

/-- A number of at most 64 bits is read as it was understood. -/
theorem conveys_number {limit : Nat} (bounded : limit ≤ twoTo 64) (wanted : String) :
    Conveys (.number limit) (number? limit) (JsonReader.natural limit wanted) := by
  intro given
  cases understood : number? limit given with
  | none => exact .inl ⟨rfl, by rw [value?, understood, Option.map_none]⟩
  | some number =>
    refine .inr ⟨number, .ofInt number, rfl, by rw [value?, understood, Option.map_some], ?_⟩
    intro depth
    exact JsonReader.natural_ofJson bounded (lt_of_number? understood) wanted depth

/-- A log format is read as it was understood, since it is written in lower case. -/
theorem conveys_format :
    Conveys .format (fun text => (LogFormat.ofName? text).toOption) LogFormat.reader := by
  intro given
  cases understood : LogFormat.ofName? given with
  | error lowered =>
    simp only [value?, understood]
    exact .inl ⟨rfl, rfl⟩
  | ok format =>
    simp only [value?, understood]
    exact .inr ⟨format, _, rfl, rfl, fun depth => LogFormat.reader_lowered understood depth⟩

end Kind

/-- A field yields the value of a variable, if the object holds what is written for it. -/
theorem yields_valueOf {α : Type} {depth : Nat} {settings : Dictionary Json} {kind : Kind}
    {parse : String → Option α} {reader : JsonReader α} {default : α}
    (lookup : String → Option String) (field name : String) (conveys : kind.Conveys parse reader)
    (found : settings.find? field = (lookup name).bind kind.value?) :
    (RecordReader.withDefault field reader default).Yields depth settings.entries
      (valueOf lookup name parse default) := by
  unfold valueOf
  cases given : lookup name with
  | none =>
    rw [given] at found
    exact RecordReader.yields_default settings.ascending found
  | some text =>
    rw [given] at found
    rcases conveys text with ⟨unread, unwritten⟩ | ⟨value, held, read, wrote, reads⟩
    · simp only [Option.bind_some, unread, Option.getD_none]
      exact RecordReader.yields_default settings.ascending (found.trans unwritten)
    · simp only [Option.bind_some, read, Option.getD_some]
      exact RecordReader.yields_field settings.ascending (found.trans wrote) (reads depth)

/-- The section of the lock store is read as the settings that the variables give. -/
theorem reader_locks (lookup : String → Option String) (depth : Nat) :
    LockSettings.reader (depth + 1) (.ofJson (.object (writtenSettings lookup "locks").entries)) =
      .ok (settledLocks lookup) := by
  have found := find?_writtenSettings lookup "locks"
  have conveys64 := Kind.conveys_number (Nat.le_refl (twoTo 64))
  refine RecordReader.read_object (writtenSettings lookup "locks").ascending
    (fun entry member => known_of_mem (by decide) member) ?_ "LockConfig" true
  exact ((((RecordReader.yields_constant _).apply
    (yields_valueOf lookup "table_prefix" "LAKEHUB_LOCKS_TABLE_PREFIX" Kind.conveys_text
      (found _))).apply
    (yields_valueOf lookup "endpoint" "LAKEHUB_LOCKS_ENDPOINT" Kind.conveys_optional
      (found _))).apply
    (yields_valueOf lookup "timeout_secs" "LAKEHUB_LOCKS_TIMEOUT_SECS" (conveys64 _)
      (found _))).apply
    (yields_valueOf lookup "stale_after_secs" "LAKEHUB_LOCKS_STALE_AFTER_SECS" (conveys64 _)
      (found _))

/-- The section of the broker is read as the settings that the variables give. -/
theorem reader_broker {name : String} (given : lookup environmentVariable = some name)
    (depth : Nat) :
    BrokerSettings.reader (depth + 1)
        (.ofJson (.object (writtenSettings lookup "broker").entries)) =
      .ok (settledBroker lookup ⟨name⟩) := by
  have ascending := (writtenSettings lookup "broker").ascending
  have found := find?_writtenSettings lookup "broker"
  have conveys64 := Kind.conveys_number (Nat.le_refl (twoTo 64))
  have conveys32 := Kind.conveys_number (show twoTo 32 ≤ twoTo 64 by decide)
  have named : Environment.reader depth (.ofJson (.string name)) = .ok ⟨name⟩ :=
    congrArg (Except.map Environment.mk) (JsonReader.text_ofJson depth name)
  refine RecordReader.read_object ascending
    (fun entry member => known_of_mem (by decide) member) ?_ "BrokerConfig" true
  unfold settledBroker
  exact ((((((((((((RecordReader.yields_constant _).apply
    (RecordReader.yields_field ascending (find?_environment given) named)).apply
    (yields_valueOf lookup "region" "LAKEHUB_REGION" Kind.conveys_text (found _))).apply
    (yields_valueOf lookup "metadata_role_path" "LAKEHUB_METADATA_ROLE_PATH" Kind.conveys_text
      (found _))).apply
    (yields_valueOf lookup "metadata_role_name" "LAKEHUB_METADATA_ROLE_NAME" Kind.conveys_text
      (found _))).apply
    (RecordReader.yields_default ascending (found "session_name"))).apply
    (yields_valueOf lookup "assume_duration_secs" "LAKEHUB_ASSUME_DURATION_SECS" (conveys64 _)
      (found _))).apply
    (RecordReader.yields_default ascending (found "cache_capacity"))).apply
    (RecordReader.yields_default ascending (found "cache_ttl_secs"))).apply
    (RecordReader.yields_default ascending (found "expiry_margin_secs"))).apply
    (yields_valueOf lookup "retry_attempts" "LAKEHUB_RETRY_ATTEMPTS" (conveys32 _)
      (found _))).apply
    (yields_valueOf lookup "retry_wait_ms" "LAKEHUB_RETRY_WAIT_MS" (conveys64 _) (found _))).apply
    (RecordReader.yields_default ascending (found "control_plane_roles"))

/-- The section of logging is read as the format that the variables give. -/
theorem reader_logging (lookup : String → Option String) (depth : Nat) :
    LogFormat.sectionReader (depth + 1)
        (.ofJson (.object (writtenSettings lookup "logging").entries)) =
      .ok (settledFormat lookup) := by
  have found := find?_writtenSettings lookup "logging"
  refine RecordReader.read_object (writtenSettings lookup "logging").ascending
    (fun entry member => known_of_mem (by decide) member) ?_ "LoggingConfig" true
  exact (RecordReader.yields_constant _).apply
    (yields_valueOf lookup "format" "LAKEHUB_LOG_FORMAT" Kind.conveys_format (found _))

/-- A section that may be left out yields what is read from its settings, if its default is what is
read from none. -/
theorem yields_section {α : Type} {depth : Nat} {part : String} {reader : JsonReader α}
    {default value : α} (empty : reader depth (.ofJson (.object [])) = .ok default)
    (read : reader depth (.ofJson (.object (writtenSettings lookup part).entries)) = .ok value) :
    (RecordReader.withDefault part reader default).Yields depth (writtenSections lookup).entries
      value := by
  have ascending := (writtenSections lookup).ascending
  rcases writtenSections_find? lookup part with found | ⟨found, none⟩
  · exact RecordReader.yields_field ascending found read
  · rw [none] at read
    have same : default = value := Except.ok.inj (empty.symm.trans read)
    rw [← same]
    exact RecordReader.yields_default ascending found

/-- What variables write is read as the configuration that they give. -/
theorem reader_written {name : String} (given : lookup environmentVariable = some name)
    (depth : Nat) :
    reader (depth + 2) (.ofJson (written lookup)) = .ok (settled lookup ⟨name⟩) := by
  have ascending := (writtenSections lookup).ascending
  have broker : (writtenSections lookup).find? "broker" =
      some (.object (writtenSettings lookup "broker").entries) := by
    rcases writtenSections_find? lookup "broker" with found | ⟨-, none⟩
    · exact found
    · have environment := find?_environment given
      rw [none] at environment
      cases environment
  refine RecordReader.read_object ascending
    (fun entry member => part_of_mem (by decide) member) ?_ "CoreConfig" true
  exact (((RecordReader.yields_constant _).apply
    (yields_section rfl (reader_locks lookup depth))).apply
    (RecordReader.yields_field ascending broker (reader_broker given depth))).apply
    (yields_section rfl (reader_logging lookup depth))

/-- The text that variables write leads to the configuration that they give. -/
theorem ofText_written {name : String} (given : lookup environmentVariable = some name) :
    ofText (written lookup).compact = (settled lookup ⟨name⟩).checked := by
  have read : (Document.ofText (written lookup).compact).read reader =
      .ok (settled lookup ⟨name⟩) := by
    rw [Document.ofText_compact (isIntegral_written lookup)]
    unfold Document.read Document.ofJson
    rw [show JsonReader.depthLimit = 125 + 2 from rfl, reader_written given]
    rfl
  rw [ofText, read]

/-- With the environment's name given, the first variable that is not understood is the error. If
all are understood, the variables and the text that is written from them lead to the same
configuration, or to the same refusal of it. -/
theorem variables_agree {name : String} (given : lookup environmentVariable = some name) :
    (∀ setting value, firstFault? lookup = some (setting, value) →
      ofVariables lookup = .error (.setting setting value)) ∧
    (firstFault? lookup = none → ∃ configuration : Configuration,
      ofVariables lookup = configuration.checked ∧
        ofText (written lookup).compact = configuration.checked) := by
  constructor
  · intro setting value fault
    rw [ofVariables_eq given, fault]
  · intro understood
    refine ⟨settled lookup ⟨name⟩, ?_, ofText_written given⟩
    rw [ofVariables_eq given, understood]

/-- Variables with a text that needs escapes, a number with a sign and zeros in front of it, and a log
format in upper case. -/
def sampleVariables : String → Option String :=
  Entries.find? [("LAKEHUB_ENVIRONMENT", "dev"), ("LAKEHUB_LOCKS_TABLE_PREFIX", "a\"b\n"),
    ("LAKEHUB_RETRY_ATTEMPTS", "+007"), ("LAKEHUB_LOG_FORMAT", "JSON")]

/-- Variables two of which are not understood. -/
def faultyVariables : String → Option String :=
  Entries.find? [("LAKEHUB_ENVIRONMENT", ""), ("LAKEHUB_RETRY_ATTEMPTS", "4294967296"),
    ("LAKEHUB_LOCKS_TIMEOUT_SECS", "-1")]

/-- The text of the variables leads to the configuration that they lead to. Of two variables that
are not understood, the one that is read first is the error. -/
theorem variables_agree_sample :
    ofVariables sampleVariables = .ok (settled sampleVariables ⟨"dev"⟩) ∧
      ofText (written sampleVariables).compact = .ok (settled sampleVariables ⟨"dev"⟩) ∧
        ofVariables faultyVariables = .error (.setting "LAKEHUB_LOCKS_TIMEOUT_SECS" "-1") := by
  have given : sampleVariables environmentVariable = some "dev" := by decide
  have understood : firstFault? sampleVariables = none := by decide +kernel
  have passed : ofVariables sampleVariables = .ok (settled sampleVariables ⟨"dev"⟩) :=
    eq_ok_of_toOption (by decide +kernel)
  obtain ⟨configuration, fromVariables, fromText⟩ := (variables_agree given).2 understood
  have agree : ofText (written sampleVariables).compact = ofVariables sampleVariables :=
    fromText.trans fromVariables.symm
  have unnamed : faultyVariables environmentVariable = some "" := by decide
  have fault : firstFault? faultyVariables = some ("LAKEHUB_LOCKS_TIMEOUT_SECS", "-1") := by
    decide +kernel
  exact ⟨passed, agree.trans passed, (variables_agree unnamed).1 _ _ fault⟩

end Configuration

end ControlPlane
