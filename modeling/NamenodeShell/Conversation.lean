import NamenodeShell.Release
import NamenodeShell.Session
import NamenodeShell.Settings

/-!
# Conversations

A conversation is one run of the shell with the person at the terminal: connect, show the help, then
take line after line until one of them says to stop or there are no more. An interruption ends the
line it meets and not the conversation. Once there is a client its connection is given back on every
way out.
-/
set_option autoImplicit false

namespace NamenodeShell

/-- What the person at the terminal does when asked for a line. -/
inductive Input where
  | line (text : String)
  | interrupt
  | endOfInput
  /-- The terminal fails. -/
  | broken (message : String)
  deriving DecidableEq, Repr

/-- **How a conversation ends**: in the regular way, or at once with a status for whoever started
it. -/
inductive Ending where
  | left
  | exited (status : Nat)
  deriving DecidableEq, Repr

namespace Conversation

/-- The prompt of a session. -/
def prompt (s : Session) : String :=
  let shown := s.remote.shown
  s!"hdfs:{shown}> "

/-- Shows a failure that nothing else deals with. -/
def unexpected (message : String) : Shell Unit :=
  Shell.say ("Unexpected error: " ++ Markup.escape message)

/-- Answers an interruption. -/
def explainExit : Shell Unit :=
  Shell.say "\nUse 'exit' to leave"

/-- Takes leave. -/
def goodbye : Shell Unit :=
  Shell.say "\nGoodbye!"

/-- A failure that gets out of a line: the conversation goes on with the session as it was. -/
def survive (s : Session) (f : Failure) : Shell (Session × Bool) := do
  if f.category = .interrupted then explainExit else unexpected f.message
  return (s, true)

/-- **Takes lines** until one says to stop or there are no more. -/
def converse (s : Session) : List Input → Shell Unit
  | [] => do
    Shell.note (.prompted (prompt s))
    goodbye
  | input :: rest => do
    Shell.note (.prompted (prompt s))
    match input with
    | .line text =>
      let (s, goesOn) ← tryCatch (s.execute text) (survive s)
      if goesOn then converse s rest
    | .interrupt =>
      explainExit
      converse s rest
    | .endOfInput => goodbye
    | .broken message =>
      unexpected message
      converse s rest

/-- A computation after which the connection is given back, however it ends. -/
def releasing {α : Type} (act : Shell α) : Shell α := do
  let a ← tryCatch act fun e => do
    Shell.note .released
    throw e
  Shell.note .released
  return a

/-- Opens the file that remembers lines, with the directories on the way to it. A file that cannot
be used is meant to be made up for by another, of which a warning tells. That is done when the disk
refuses; a path that cannot be put to the disk at all is overlooked, and the failure gets out. -/
def openHistory (home file : String) : Shell Unit := do
  let path := Path.expandHome home file
  let above := if Path.parent path = "" then "." else Path.parent path
  let (d, refusal) := (← Shell.disk).ensureDirectories (above.length + 1) above
  Shell.setDisk d
  let opened : Except Cause Disk := match refusal with
    | some cause => .error cause
    | none => d.openForAppend path
  match opened with
  | .ok d => Shell.setDisk d
  | .error .nul => throw (.disk .nul path)
  | .error _ =>
    let shown := Markup.escape path
    Shell.say s!"[yellow]Warning: Cannot use {shown}, using temporary history file[/yellow]"

/-- What is shown once the service has answered. -/
def greet (c : Client) : Shell Unit := do
  Shell.say ("[dim]Client: " ++ Release.text ++ "[/dim]")
  Shell.say ("Connected to " ++ c.apiBase ++ " as " ++ Markup.escape c.user)
  Shell.tell helpText
  Shell.say ""

/-- The home directory, or nothing once the failure to learn it has been shown. -/
def connect (c : Client) : Shell (Option Json) :=
  tryCatch (do return some (← c.home)) fun e => do
    if e.isOwn then
      Shell.say ("Failed to connect to " ++ c.apiBase ++ "\n" ++ Markup.escape e.message)
      return none
    else throw e

/-- The client of a conversation. -/
def clientOf (settings : Settings) (host : String) (port : Int) (user : String) : Client :=
  { host, port, user
    scheme := settings.scheme, timeout := settings.timeout, replication := settings.replication }

/-- **Holds a conversation.** -/
def hold (env : Environment) (settings : Settings) (host : String) (port : Int) (user : String)
    (inputs : List Input) : Shell Ending := do
  let d ← Shell.disk
  let localDir := Path.absolute d.cwdPath (Path.expandHome env.home settings.localDir)
  if !d.isDirectory localDir then
    Shell.say ("Local directory " ++ Markup.escape localDir ++ " does not exist")
    return .exited 1
  let client := clientOf settings host port user
  releasing do
    match ← connect client with
    | none => return .exited 1
    | some home =>
      greet client
      openHistory env.home settings.historyFile
      converse
        { client, remote := .ofJson home, localDir
          patience := { timeout := settings.leaseTimeout, interval := settings.pollInterval } }
        inputs
      return .left

end Conversation

end NamenodeShell
