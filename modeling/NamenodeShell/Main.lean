import NamenodeShell.Console
import NamenodeShell.Conversation
import NamenodeShell.Invocation
import NamenodeShell.Logging

/-!
# The command line

The program as it is started: it reads its words and its environment, shows what they come to and
gives a status. No transport to a namenode is linked in, so the service of a session never answers
and every session ends when it tries to connect; whoever links one hands its answers over as the
service of `Surroundings`. All that is decided is decided elsewhere: this module reads and writes.
-/
set_option autoImplicit false

namespace NamenodeShell.CommandLine

/-- The variables that the settings are read from. -/
def variableNames : List String :=
  ["HOME", "HDFS_SHELL_SCHEME", "HDFS_SHELL_TIMEOUT", "HDFS_SHELL_REPLICATION",
    "HDFS_SHELL_LEASE_TIMEOUT", "HDFS_SHELL_POLL_INTERVAL", "HDFS_SHELL_LOCAL_DIR",
    "HDFS_SHELL_HISTORY", "HDFS_SHELL_LOG_LEVEL"]

/-- The environment of the process, as far as the settings go. -/
def environment : IO Environment :=
  variableNames.filterMapM fun name => do
    return (← IO.getEnv name).map (name, ·)

/-- The surroundings of a session without a transport: a service that gives no answer, and a disk on
which the local directory is. -/
def surroundings (env : Environment) (settings : Settings) : Surroundings :=
  let path := Path.absolute "/" (Path.expandHome env.home settings.localDir)
  let bare : Disk := { tree := [] }
  { service := [], disk := (bare.ensureDirectories (path.length + 1) path).1 }

/-- Writes what an event shows. Warnings go to the other stream, from their level on. -/
def write (level : Nat) : Event → IO Unit
  | .shown text => IO.print (Console.written false text)
  | .warned _ text =>
    if level ≤ Logging.warning then IO.eprintln s!"WARNING: {text}" else pure ()
  | _ => pure ()

/-- Holds a conversation and gives its status. -/
def converse (env : Environment) (settings : Settings) (level : Nat) (host : String) (port : Int)
    (user : String) : IO UInt32 := do
  let (outcome, after) :=
    (Conversation.hold env settings host port user []).run.run (surroundings env settings)
  after.log.forM (write level)
  match outcome with
  | .ok .left => return 0
  | .ok (.exited status) => return status.toUInt32
  | .error f =>
    IO.eprintln f.message
    return 1

/-- Runs the program with its words and gives its status. -/
def run (words : List String) : IO UInt32 := do
  let env ← environment
  match Invocation.ofWords env words with
  | .shows text =>
    IO.print text
    return 0
  | .refused e =>
    IO.eprint (Invocation.refusalText e)
    return 2
  | .session host port user settings =>
    match Logging.level settings.logLevel with
    | .ok level => converse env settings level host port user
    | .error e =>
      IO.eprintln e.message
      return 1

end NamenodeShell.CommandLine

/-- The program. -/
def main (words : List String) : IO UInt32 :=
  NamenodeShell.CommandLine.run words
