import NamenodeShell.Release
import NamenodeShell.Settings
import NamenodeShell.Text.Similarity

/-!
# Invocations

What the words behind the name of the program ask for: a session with some host, the help, or the
release. The words are first split into options and arguments, which may come in any order; two
hyphens alone end the options. Only then are they looked at: the help and the release go first, then
the options in the order in which they were first given, then the arguments, then the settings as a
whole. An option given twice counts as given last.
-/
set_option autoImplicit false

namespace NamenodeShell

/-- The options that take a value. -/
inductive ValueOption where
  | scheme
  | timeout
  | replication
  | leaseTimeout
  | pollInterval
  | localDir
  | historyFile
  | logLevel
  deriving DecidableEq, Repr

/-- The options that take none. -/
inductive Flag where
  | version
  | help
  deriving DecidableEq, Repr

namespace ValueOption

/-- All of them. -/
def all : List ValueOption :=
  [scheme, timeout, replication, leaseTimeout, pollInterval, localDir, historyFile, logLevel]

/-- An option as it is written. -/
def word : ValueOption → String
  | scheme => "--scheme"
  | timeout => "--timeout"
  | replication => "--replication"
  | leaseTimeout => "--lease-timeout"
  | pollInterval => "--poll-interval"
  | localDir => "--local-dir"
  | historyFile => "--history-file"
  | logLevel => "--log-level"

end ValueOption

/-- A flag as it is written. -/
def Flag.word : Flag → String
  | version => "--version"
  | help => "--help"

/-- Why a value is not accepted. -/
inductive BadValue where
  | notANumber (value : String)
  | notAnInteger (value : String)
  | outOfRange (value range : String)
  | notAChoice (value : String) (choices : List String)
  deriving DecidableEq, Repr

/-- The wording of a refusal. -/
def BadValue.message : BadValue → String
  | notANumber value => Text.quoted value ++ " is not a valid float range."
  | notAnInteger value => Text.quoted value ++ " is not a valid integer range."
  | outOfRange value range => s!"{value} is not in the range {range}."
  | notAChoice value choices =>
    Text.quoted value ++ " is not one of " ++ ", ".intercalate (choices.map Text.quoted) ++ "."

/-- **Why an invocation is refused.** -/
inductive UsageError where
  | missingArgument (name : String)
  | extraArguments (words : List String)
  /-- A word that is no option, and the options that may be meant by it. -/
  | noSuchOption (word : String) (meant : List String)
  | needsValue (word : String)
  | takesNoValue (word : String)
  | badValue (name : String) (problem : BadValue)
  | settings (e : SettingsError)

/-- What is added about the options that may be meant by a word. -/
def meantMessage (meant : List String) : String :=
  match meant.mergeSort fun a b => Text.inOrder a.toList b.toList with
  | [] => ""
  | [word] => " Did you mean " ++ Text.quoted word ++ "?"
  | words => " (Did you mean one of: " ++ ", ".intercalate (words.map Text.quoted) ++ "?)"

/-- The wording of a refusal. -/
def UsageError.message : UsageError → String
  | missingArgument name => s!"Missing argument '{name}'."
  | extraArguments [word] => s!"Got unexpected extra argument ({word})"
  | extraArguments words => "Got unexpected extra arguments (" ++ " ".intercalate words ++ ")"
  | noSuchOption word meant => "No such option " ++ Text.quoted word ++ "." ++ meantMessage meant
  | needsValue word => "Option " ++ Text.quoted word ++ " requires an argument."
  | takesNoValue word => "Option " ++ Text.quoted word ++ " does not take a value."
  | badValue name problem => s!"Invalid value for '{name}': " ++ problem.message
  | settings e => e.message

/-- **An invocation split up**: the values of options in the order given, the flags in theirs, and
the arguments. -/
structure Split where
  values : List (ValueOption × String) := []
  flags : List Flag := []
  arguments : List String := []
  deriving DecidableEq, Repr

/-- **What an invocation comes to.** -/
inductive Invocation where
  /-- Text is shown, and that is all. -/
  | shows (text : String)
  | refused (e : UsageError)
  | session (host : String) (port : Int) (user : String) (settings : Settings)

namespace Invocation

/-! ## Splitting -/

/-- An option cut at its first equals sign. -/
def cut (word : String) : String × Option String :=
  let cs := word.toList
  match cs.dropWhile (· ≠ '=') with
  | [] => (word, none)
  | _ :: value => (.ofList (cs.takeWhile (· ≠ '=')), some (.ofList value))

/-- The flags. -/
def flags : List Flag := [.version, .help]

/-- All options as they are written. -/
def optionWords : List String :=
  ValueOption.all.map ValueOption.word ++ flags.map Flag.word

/-- The option named by a word that is none of the options: the whole word after two hyphens, for
which a similar option may be meant, and only the first letter after one. -/
def unknownOption (word : String) : UsageError :=
  match word.toList with
  | '-' :: '-' :: _ =>
    let (name, _) := cut word
    .noSuchOption name (Text.meant optionWords name)
  | cs => .noSuchOption (.ofList (cs.take 2)) []

/-- Whether a word is an option: a hyphen with something behind it. -/
def isOption (word : String) : Bool :=
  match word.toList with
  | '-' :: _ :: _ => true
  | _ => false

/-- An option taken up: the split with it in place, or the option whose value is the next word. -/
def takeOption (s : Split) (word : String) : Except UsageError (Split × Option ValueOption) :=
  let (name, value) := cut word
  match ValueOption.all.find? fun o => o.word == name with
  | some o =>
    match value with
    | some v => .ok ({ s with values := s.values ++ [(o, v)] }, none)
    | none => .ok (s, some o)
  | none =>
    match flags.find? fun f => f.word == name with
    | some f =>
      if value.isSome then .error (.takesNoValue name)
      else .ok ({ s with flags := s.flags ++ [f] }, none)
    | none => .error (unknownOption word)

/-- **Splits the words of an invocation.** `waiting` is an option whose value comes next. -/
def split (s : Split) : (waiting : Option ValueOption) → List String → Except UsageError Split
  | none, [] => .ok s
  | some o, [] => .error (.needsValue o.word)
  | some o, word :: rest => split { s with values := s.values ++ [(o, word)] } none rest
  | none, word :: rest =>
    if word = "--" then .ok { s with arguments := s.arguments ++ rest }
    else if isOption word then
      match takeOption s word with
      | .ok (s, waiting) => split s waiting rest
      | .error e => .error e
    else split { s with arguments := s.arguments ++ [word] } none rest

/-! ## Values -/

/-- A double in a range. -/
def float (name range : String) (inRange : Float → Bool) (value : String) :
    Except UsageError Float :=
  match Decimal.readFloat? value with
  | none => .error (.badValue name (.notANumber value))
  | some x =>
    if inRange x then .ok x else .error (.badValue name (.outOfRange (Decimal.text x) range))

/-- A whole number in a range. -/
def integer (name range : String) (inRange : Int → Bool) (value : String) :
    Except UsageError Int :=
  match Decimal.readInt? value with
  | none => .error (.badValue name (.notAnInteger value))
  | some n =>
    if inRange n then .ok n else .error (.badValue name (.outOfRange (toString n) range))

/-- The levels of the log that may be asked for. -/
def logLevels : List String := ["debug", "info", "warning", "error"]

/-- The schemes that may be asked for. -/
def schemes : List String := ["http", "https"]

/-- The value of an option. -/
def override (o : ValueOption) (value : String) : Except UsageError Override :=
  match o with
  | .scheme =>
    if schemes.contains value then .ok (.scheme (some value))
    else .error (.badValue o.word (.notAChoice value schemes))
  | .timeout => do
    return .timeout (some (← float o.word "x>0" (fun x => !(x ≤ 0.0)) value))
  | .replication => do
    return .replication (some (← integer o.word "x>=1" (1 ≤ ·) value))
  | .leaseTimeout => do
    return .leaseTimeout (some (← float o.word "x>=0" (fun x => !(x < 0.0)) value))
  | .pollInterval => do
    return .pollInterval (some (← float o.word "x>0" (fun x => !(x ≤ 0.0)) value))
  | .localDir => .ok (.localDir (some value))
  | .historyFile => .ok (.historyFile (some value))
  | .logLevel =>
    let lower := String.ofList (value.toList.map Char.toLower)
    if logLevels.contains lower then
      .ok (.logLevel (some (.ofList (value.toList.map Char.toUpper))))
    else .error (.badValue o.word (.notAChoice value logLevels))

/-- The options in the order in which they were first given, each with the value it was given
last. -/
def settled (values : List (ValueOption × String)) : List (ValueOption × String) :=
  (values.map (·.1)).eraseDups.filterMap fun o => (values.reverse.lookup o).map (o, ·)

/-- The argument at a position. -/
def argument (s : Split) (position : Nat) (name : String) : Except UsageError String :=
  match s.arguments[position]? with
  | some word => .ok word
  | none => .error (.missingArgument name)

/-! ## Texts -/

/-- How the program is invoked. -/
def usageLine : String := s!"Usage: {Release.program} [OPTIONS] HOST PORT USERNAME"

/-- The lines of the help. -/
def helpLines : List String :=
  [usageLine,
    "",
    "  Interactive shell for HDFS at HOST:PORT (the namenode's WebHDFS port) as",
    "  USERNAME",
    "",
    "Options:",
    "  --version                       Show the version and exit.",
    "  --scheme [http|https]           WebHDFS scheme [env HDFS_SHELL_SCHEME,",
    "                                  default: http]",
    "  --timeout FLOAT RANGE           Request timeout in seconds [env",
    "                                  HDFS_SHELL_TIMEOUT, default: 30]  [x>0]",
    "  --replication INTEGER RANGE     Replication restored by append [env",
    "                                  HDFS_SHELL_REPLICATION, default: namenode's]",
    "                                  [x>=1]",
    "  --lease-timeout FLOAT RANGE     Seconds to wait for an appended file to close",
    "                                  [env HDFS_SHELL_LEASE_TIMEOUT, default: 60]",
    "                                  [x>=0]",
    "  --poll-interval FLOAT RANGE     Seconds between close checks [env",
    "                                  HDFS_SHELL_POLL_INTERVAL, default: 1]  [x>0]",
    "  --local-dir TEXT                Initial local directory [env",
    "                                  HDFS_SHELL_LOCAL_DIR, default: home]",
    "  --history-file TEXT             Command history file [env HDFS_SHELL_HISTORY,",
    "                                  default: ~/.hdfs_shell_history]",
    "  --log-level [debug|info|warning|error]",
    "                                  Log level [env HDFS_SHELL_LOG_LEVEL, default:",
    "                                  WARNING]",
    "  --help                          Show this message and exit."]

/-- What a flag shows. -/
def shown : Flag → String
  | .help => "\n".intercalate helpLines ++ "\n"
  | .version => Release.program ++ ", version " ++ Release.text ++ "\n"

/-- What whoever started the program is told of a refusal. -/
def refusalText (e : UsageError) : String :=
  let problem := e.message
  s!"{usageLine}\nTry '{Release.program} --help' for help.\n\nError: {problem}\n"

/-! ## The whole -/

/-- What the options and arguments come to when no flag is among them. -/
def begin (env : Environment) (s : Split) : Except UsageError Invocation := do
  let overrides ← (settled s.values).mapM fun (o, value) => override o value
  let host ← argument s 0 "HOST"
  let port ← integer "PORT" "1<=x<=65535" (fun n => 1 ≤ n && n ≤ 65535) (← argument s 1 "PORT")
  let user ← argument s 2 "USERNAME"
  unless (s.arguments.drop 3).isEmpty do
    throw (.extraArguments (s.arguments.drop 3))
  match Settings.ofOverrides env overrides with
  | .ok settings => return .session host port user settings
  | .error e => throw (.settings e)

/-- **What the words of an invocation ask for.** -/
def ofWords (env : Environment) (words : List String) : Invocation :=
  match split {} none words with
  | .error e => .refused e
  | .ok s =>
    match s.flags with
    | flag :: _ => .shows (shown flag)
    | [] =>
      match begin env s with
      | .ok invocation => invocation
      | .error e => .refused e

end Invocation

end NamenodeShell
