import NamenodeShell.Decimal.Reading
import NamenodeShell.Json.Basic
import NamenodeShell.Path
import NamenodeShell.Settings.Reserved

/-!
# Settings

The eight settings of the shell, where they come from and what makes them acceptable. Each has a
default, which a variable of the environment replaces, which an override given with the call
replaces. What the environment says is checked before the overrides are looked at, and the outcome
is checked again. An override for a reserved name changes no setting, and most change nothing.
-/
set_option autoImplicit false

namespace NamenodeShell

/-- The variables of a process, by name. -/
abbrev Environment := List (String × String)

namespace Environment

/-- The value of a variable. -/
def get? (env : Environment) (name : String) : Option String :=
  env.lookup name

/-- The value of a variable that counts as unset when it is empty. -/
def nonempty? (env : Environment) (name : String) : Option String :=
  (env.get? name).filter (· ≠ "")

/-- The home directory. The root stands for what a system would look up in its list of users when
the variable is not set. -/
def home (env : Environment) : String :=
  (env.get? "HOME").getD "/"

end Environment

/-- **The settings.** Without a `replication` the namenode's own is used. -/
structure Settings where
  scheme : String := "http"
  timeout : Float := 30.0
  replication : Option Int := none
  leaseTimeout : Float := 60.0
  pollInterval : Float := 1.0
  localDir : String
  historyFile : String := "~/.hdfs_shell_history"
  logLevel : String := "WARNING"

/-- Why settings are not accepted. -/
inductive SettingsError where
  | notANumber (name value : String)
  | notAnInteger (name value : String)
  | unknownScheme (scheme : String)
  | timeoutNotPositive (seconds : Float)
  | replicationTooSmall (n : Int)
  | leaseTimeoutNegative (seconds : Float)
  | pollIntervalNotPositive (seconds : Float)
  | unknownOption (name : String)
  /-- A value for the record that the settings are put in. -/
  | alreadyGiven (name : String)
  /-- A value in place of the check, of a kind that cannot be run. -/
  | notACheck (kind : String)
  /-- A value in place of the kind of the record. -/
  | notAKind (kind : String)
  /-- A value in place of the members of the record, of a kind that has none. -/
  | notMembers (kind : String)
  /-- A setting that the members put in place of the record's do not hold. -/
  | lacking (name : String)
  /-- A value for what cannot be written. -/
  | notWritable (name : String)

/-- The wording of a refusal. -/
def SettingsError.message : SettingsError → String
  | notANumber name value =>
    let shown := Text.quoted value
    s!"{name} must be a number, got {shown}"
  | notAnInteger name value =>
    let shown := Text.quoted value
    s!"{name} must be an integer, got {shown}"
  | unknownScheme scheme =>
    let shown := Text.quoted scheme
    s!"scheme must be http or https, got {shown}"
  | timeoutNotPositive x => "timeout must be positive, got " ++ Decimal.text x
  | replicationTooSmall n => s!"replication must be at least 1, got {n}"
  | leaseTimeoutNegative x => "lease timeout must not be negative, got " ++ Decimal.text x
  | pollIntervalNotPositive x => "poll interval must be positive, got " ++ Decimal.text x
  | unknownOption name => s!"unknown configuration option: {name}"
  | alreadyGiven name => s!"Config.from_args() got multiple values for argument '{name}'"
  | notACheck kind => s!"'{kind}' object is not callable"
  | notAKind kind => s!"__class__ must be set to a class, not '{kind}' object"
  | notMembers kind => s!"__dict__ must be set to a dictionary, not a '{kind}'"
  | lacking name => s!"'Config' object has no attribute '{name}'"
  | notWritable name => s!"attribute '{name}' of 'Config' objects is not writable"

/-- **A value given with the call** for one of the settings, or nothing for it. -/
inductive Override where
  | scheme (value : Option String)
  | timeout (value : Option Float)
  | replication (value : Option Int)
  | leaseTimeout (value : Option Float)
  | pollInterval (value : Option Float)
  | localDir (value : Option String)
  | historyFile (value : Option String)
  | logLevel (value : Option String)
  /-- A value for something that is no setting. -/
  | other (name : String) (value : Json)

namespace Override

/-- The name by which a value is given for the record itself, if it is. -/
def recordName? : Override → Option String
  | other name _ => if Reserved.ofName? name = some .record then some name else none
  | _ => none

/-- The kind of what is put in place of the check, if anything is. -/
def checkKind? : Override → Option String
  | other _ .null => none
  | other name value => if Reserved.ofName? name = some .check then some value.kindName else none
  | _ => none

end Override

namespace Settings

/-- A variable that holds a double. -/
def floatVariable (env : Environment) (name : String) (default : Float) :
    Except SettingsError Float :=
  match env.nonempty? name with
  | none => .ok default
  | some value =>
    match Decimal.readFloat? value with
    | some x => .ok x
    | none => .error (.notANumber name value)

/-- A variable that holds a whole number. -/
def intVariable (env : Environment) (name : String) : Except SettingsError (Option Int) :=
  match env.nonempty? name with
  | none => .ok none
  | some value =>
    match Decimal.readInt? value with
    | some n => .ok (some n)
    | none => .error (.notAnInteger name value)

/-- **Checks settings**, the first of them that is out of range being the one complained of. -/
def check (s : Settings) : Except SettingsError Unit := do
  unless s.scheme = "http" ∨ s.scheme = "https" do
    throw (.unknownScheme s.scheme)
  if s.timeout ≤ 0.0 then
    throw (.timeoutNotPositive s.timeout)
  match s.replication with
  | some n => if n < 1 then throw (.replicationTooSmall n)
  | none => pure ()
  if s.leaseTimeout < 0.0 then
    throw (.leaseTimeoutNegative s.leaseTimeout)
  if s.pollInterval ≤ 0.0 then
    throw (.pollIntervalNotPositive s.pollInterval)

/-- What the environment says, not yet checked. -/
def read (env : Environment) : Except SettingsError Settings := do
  let timeout ← floatVariable env "HDFS_SHELL_TIMEOUT" 30.0
  let replication ← intVariable env "HDFS_SHELL_REPLICATION"
  let leaseTimeout ← floatVariable env "HDFS_SHELL_LEASE_TIMEOUT" 60.0
  let pollInterval ← floatVariable env "HDFS_SHELL_POLL_INTERVAL" 1.0
  return {
    scheme := (env.get? "HDFS_SHELL_SCHEME").getD "http"
    timeout, replication, leaseTimeout, pollInterval
    localDir := (env.nonempty? "HDFS_SHELL_LOCAL_DIR").getD (Path.expandHome env.home "~")
    historyFile := (env.get? "HDFS_SHELL_HISTORY").getD "~/.hdfs_shell_history"
    logLevel := (env.get? "HDFS_SHELL_LOG_LEVEL").getD "WARNING" }

/-- **The settings of an environment.** -/
def ofEnvironment (env : Environment) : Except SettingsError Settings := do
  let s ← read env
  s.check
  return s

/-- One override put in place; nothing in it leaves the setting as it is. An object put in place of
all members at once is taken to lack the first setting that the check reads: an object that has all
of them, under their names and of their kinds, is not told from others. -/
def apply (s : Settings) : Override → Except SettingsError Settings
  | .scheme value => .ok { s with scheme := value.getD s.scheme }
  | .timeout value => .ok { s with timeout := value.getD s.timeout }
  | .replication value => .ok { s with replication := value.or s.replication }
  | .leaseTimeout value => .ok { s with leaseTimeout := value.getD s.leaseTimeout }
  | .pollInterval value => .ok { s with pollInterval := value.getD s.pollInterval }
  | .localDir value => .ok { s with localDir := value.getD s.localDir }
  | .historyFile value => .ok { s with historyFile := value.getD s.historyFile }
  | .logLevel value => .ok { s with logLevel := value.getD s.logLevel }
  | .other name value =>
    match Reserved.ofName? name, value with
    | none, _ => .error (.unknownOption name)
    | some .record, _ => .error (.alreadyGiven name)
    | some _, .null => .ok s
    | some .kind, value => .error (.notAKind value.kindName)
    | some .members, .object _ => .error (.lacking "scheme")
    | some .members, value => .error (.notMembers value.kindName)
    | some .fixed, _ => .error (.notWritable name)
    | some .check, _ | some .idle, _ => .ok s

/-- **The settings of an environment and overrides.** What is put in place of the check is run
instead of it, and nothing that can be put there can be run. -/
def ofOverrides (env : Environment) (overrides : List Override) :
    Except SettingsError Settings := do
  if let some name := overrides.findSome? Override.recordName? then
    throw (.alreadyGiven name)
  let s ← ofEnvironment env
  let s ← overrides.foldlM apply s
  match overrides.findSome? Override.checkKind? with
  | some kind => throw (.notACheck kind)
  | none => s.check
  return s

/-- The settings on one line, for a reader of the log. -/
def summary (s : Settings) : String :=
  let scheme := s.scheme
  let timeout := Decimal.text s.timeout
  let replication := (s.replication.map toString).getD "None"
  let leaseTimeout := Decimal.text s.leaseTimeout
  let pollInterval := Decimal.text s.pollInterval
  let localDir := s.localDir
  s!"Config(scheme={scheme}, timeout={timeout}, replication={replication}, " ++
    s!"lease_timeout={leaseTimeout}, poll_interval={pollInterval}, local_dir={localDir})"

end Settings

end NamenodeShell
