import ControlPlane.Configuration.Basic

/-!
# Configuration from the environment

Each variable sets one setting. The environment's name has to be given; then the variables are read
in a fixed order, and the first one that is not understood is the error.
-/
namespace ControlPlane.Configuration

/-- A variable of the environment. -/
structure Variable where
  /-- The name of the variable. -/
  name : String
  /-- The change that a value makes, `none` if it is not understood. -/
  setting? : String → Option (Configuration → Configuration)

/-- A number below a limit, with a plus sign in front of it or not. -/
def number? (limit : Nat) (text : String) : Option Nat :=
  let digits := match text.toList with
    | '+' :: rest => rest
    | other => other
  (Digits.value? digits).filter (· < limit)

/-- A variable for a text. -/
def textVariable (name : String) (set : String → Configuration → Configuration) : Variable :=
  ⟨name, fun text => some (set text)⟩

/-- A variable for a number below a limit. -/
def numberVariable (name : String) (limit : Nat) (set : Nat → Configuration → Configuration) :
    Variable :=
  ⟨name, fun text => (number? limit text).map set⟩

/-- The change of the lock settings. -/
def changeLocks (change : LockSettings → LockSettings) (configuration : Configuration) :
    Configuration := { configuration with locks := change configuration.locks }

/-- The change of the broker settings. -/
def changeBroker (change : BrokerSettings → BrokerSettings) (configuration : Configuration) :
    Configuration := { configuration with broker := change configuration.broker }

/-- The variable for the environment's name. -/
def environmentVariable : String := "LAKEHUB_ENVIRONMENT"

/-- The other variables in the order in which they are read. -/
def orderedVariables : List Variable :=
  [textVariable "LAKEHUB_LOCKS_TABLE_PREFIX" fun text =>
      changeLocks fun locks => { locks with tablePrefix := text },
    textVariable "LAKEHUB_LOCKS_ENDPOINT" fun text =>
      changeLocks fun locks => { locks with endpoint := some text },
    numberVariable "LAKEHUB_LOCKS_TIMEOUT_SECS" (twoTo 64) fun seconds =>
      changeLocks fun locks => { locks with timeoutSeconds := seconds },
    numberVariable "LAKEHUB_LOCKS_STALE_AFTER_SECS" (twoTo 64) fun seconds =>
      changeLocks fun locks => { locks with staleAfterSeconds := seconds },
    textVariable "LAKEHUB_REGION" fun text =>
      changeBroker fun broker => { broker with region := text },
    textVariable "LAKEHUB_METADATA_ROLE_PATH" fun text =>
      changeBroker fun broker => { broker with metadataRolePath := text },
    textVariable "LAKEHUB_METADATA_ROLE_NAME" fun text =>
      changeBroker fun broker => { broker with metadataRoleName := text },
    numberVariable "LAKEHUB_ASSUME_DURATION_SECS" (twoTo 64) fun seconds =>
      changeBroker fun broker => { broker with assumeSeconds := seconds },
    numberVariable "LAKEHUB_RETRY_ATTEMPTS" (twoTo 32) fun attempts =>
      changeBroker fun broker => { broker with retryAttempts := attempts },
    numberVariable "LAKEHUB_RETRY_WAIT_MS" (twoTo 64) fun millis =>
      changeBroker fun broker => { broker with retryWaitMillis := millis },
    ⟨"LAKEHUB_LOG_FORMAT", fun text =>
      (LogFormat.ofName? text).toOption.map fun format configuration =>
        { configuration with logFormat := format }⟩]

/-- Let variables change a configuration, one after another. -/
def assign (lookup : String → Option String) :
    List Variable → Configuration → Except ConfigurationError Configuration
  | [], configuration => .ok configuration
  | next :: rest, configuration =>
    match lookup next.name with
    | none => assign lookup rest configuration
    | some value => match next.setting? value with
      | some change => assign lookup rest (change configuration)
      | none => .error (.setting next.name value)

/-- The configuration of an environment's variables. -/
def ofVariables (lookup : String → Option String) : Except ConfigurationError Configuration :=
  match lookup environmentVariable with
  | none => .error .emptyEnvironment
  | some name => do
    let configuration ← assign lookup orderedVariables (.ofEnvironment ⟨name⟩)
    configuration.checked

end ControlPlane.Configuration
