import NamenodeShell.Command
import NamenodeShell.Listing.Reported
import NamenodeShell.Navigation
import NamenodeShell.Transfer

/-!
# Sessions

A session is a client and two current directories, one on either side. `execute` carries out one
typed line: it gives the session as it is afterwards and whether to go on. Whatever fails inside a
command is shown on one line and leaves the session as it was; only an interruption gets out.

The directories change by `cd` and `lcd` alone. The other commands that take a name act on the entry
of that name in the current directories and refuse whatever is not a bare name.
-/
set_option autoImplicit false

namespace NamenodeShell

/-- **The remote side of a session**: a path, or what the service gave as a home directory in place
of one, with which no remote command can do anything. -/
inductive Remote where
  | path (p : String)
  | value (v : Json)

namespace Remote

/-- What the service gave as a home directory. -/
def ofJson : Json → Remote
  | .text p => path p
  | v => value v

/-- The remote directory as the prompt shows it. -/
def shown : Remote → String
  | path p => p
  | value v => v.message

/-- The path of a name in the remote directory. -/
def child (name : String) : Remote → Except Failure String
  | path p => .ok (Path.remoteChild p name)
  | value v => .error (.notAPath v.kindName)

/-- The path of the remote directory itself. -/
def here : Remote → Except Failure String
  | path p => .ok p
  | value _ => .error .notBytes

end Remote

/-- **The commands.** -/
inductive Verb where
  | mkdir
  | put
  | get
  | append
  | delete
  | ls
  | cd
  | lls
  | lcd
  | help
  | exit
  deriving DecidableEq, Repr

namespace Verb

/-- All commands, in the order in which they are offered. -/
def all : List Verb :=
  [mkdir, put, get, append, delete, ls, cd, lls, lcd, help, exit]

/-- The name of a command. -/
def word : Verb → String
  | mkdir => "mkdir"
  | put => "put"
  | get => "get"
  | append => "append"
  | delete => "delete"
  | ls => "ls"
  | cd => "cd"
  | lls => "lls"
  | lcd => "lcd"
  | help => "help"
  | exit => "exit"

/-- The command of a name. -/
def ofWord? (name : String) : Option Verb :=
  all.find? fun v => v.word == name

/-- The numbers of arguments a command takes. -/
def counts : Verb → List Nat
  | mkdir | put | get | delete => [1]
  | append => [2]
  | ls | lls | help | exit => [0]
  | cd | lcd => [0, 1]

/-- How a command is typed. -/
def usage : Verb → String
  | mkdir => "mkdir \"catalog name\""
  | put => "put \"local file name\""
  | get => "get \"HDFS file name\""
  | append => "append \"local file name\" \"HDFS file name\""
  | delete => "delete \"HDFS file name\""
  | ls => "ls"
  | cd => "cd [\"catalog name\"]"
  | lls => "lls"
  | lcd => "lcd [\"local catalog name\"]"
  | help => "help"
  | exit => "exit"

end Verb

/-- The lines of the help, the first of them empty. -/
def helpLines : List String :=
  ["",
    "What would you like to do? Options:",
    " mkdir \"catalog name\"                      create a directory in HDFS",
    " put \"local file name\"                     upload a local file to HDFS",
    " get \"HDFS file name\"                      download a file from HDFS",
    " append \"local file name\" \"HDFS file name\" append a local file to a file in HDFS",
    " delete \"HDFS file name\"                   delete a file or directory in HDFS",
    " ls                                        list the current HDFS directory",
    " cd \"catalog name\"                         change HDFS directory " ++
      "(\"..\" goes up, no argument prints it)",
    " lls                                       list the current local directory",
    " lcd \"local catalog name\"                  change local directory " ++
      "(\"..\" goes up, no argument prints it)",
    " help                                      show this help again",
    " exit                                      quit"]

/-- **The help.** -/
def helpText : String :=
  "\n".intercalate helpLines

/-- **A session.** -/
structure Session where
  client : Client
  patience : Lease.Patience := {}
  remote : Remote
  localDir : String

namespace Session

/-- A name typed for an entry, which has to be a bare one. -/
def bareName (name : String) : Except Failure String :=
  if Path.isBare name then .ok name else .error (.notBare name)

/-- What was carried out of a transfer, as it is reported. -/
def report (verb : String) (t : Transfer) : Shell Unit :=
  let source := t.source
  let dest := t.dest
  let size := t.size
  Shell.tell s!"{verb} {source} -> {dest} ({size} bytes)"

/-! ## The commands -/

/-- Creates a directory in the remote one. -/
def mkdir (s : Session) (name : String) : Shell Unit := do
  let path ← s.remote.child (← bareName name)
  if ← s.client.exists path then
    throw (.directoryPresent path)
  let _ ← s.client.makeDirectories path
  Shell.tell s!"Created directory {path}"

/-- Uploads a file of the local directory into the remote one. -/
def put (s : Session) (name : String) : Shell Unit := do
  let source := Path.localChild s.localDir (← bareName name)
  match s.remote with
  | .path dir => report "Uploaded" (← Transfer.put s.client source dir)
  | .value v =>
    Transfer.needFile source
    throw (.notAPath v.kindName)

/-- Downloads a file of the remote directory into the local one. -/
def get (s : Session) (name : String) : Shell Unit := do
  let source ← s.remote.child (← bareName name)
  report "Downloaded" (← Transfer.get s.client source s.localDir)

/-- Adds a file of the local directory to one of the remote directory. -/
def append (s : Session) (localName remoteName : String) : Shell Unit := do
  let source := Path.localChild s.localDir (← bareName localName)
  let dest ← s.remote.child (← bareName remoteName)
  let t ← Transfer.append s.client s.patience source dest
  report "Appended" t
  if t.lease = some .timedOut then
    let name := Markup.escape t.dest
    Shell.say (s!"[yellow]Warning: {name} is still open, " ++
      "readers may not see the appended data yet[/yellow]")

/-- Removes an entry of the remote directory and all below it. -/
def delete (s : Session) (name : String) : Shell Unit := do
  let path ← s.remote.child (← bareName name)
  unless ← s.client.exists path do
    throw (.absent path)
  let _ ← s.client.delete path true
  Shell.tell s!"Deleted {path}"

/-- Shows lines one by one. -/
def sayAll : List String → Shell Unit
  | [] => pure ()
  | line :: rest => do
    Shell.say line
    sayAll rest

/-- Lists the remote directory. -/
def ls (s : Session) : Shell Unit := do
  let path ← s.remote.here
  unless ← s.client.isDirectory path do
    Shell.tell s!"Path {path} is not a directory"
    return
  let (lines, failure) := Listing.reportedLines (← s.client.list path)
  sayAll lines
  match failure with
  | some f => throw f
  | none => pure ()

/-- The entries of a local directory. -/
def localEntries (path : String) : Shell (List Entry) := do
  match (← Shell.disk).list path with
  | .ok entries => return entries
  | .error (cause, about) => throw (.disk cause about)

/-- Lists the local directory. -/
def lls (s : Session) : Shell Unit := do
  sayAll (Listing.lines (← localEntries s.localDir))

/-- Shows the remote directory. -/
def showRemote (s : Session) : Shell Unit :=
  match s.remote with
  | .path p => Shell.tell p
  | .value v => throw (.notText v.kindName)

/-- Goes to another remote directory. -/
def cd (s : Session) (target : String) : Shell Session := do
  match s.remote with
  | .path current => return { s with remote := .path (← Navigation.remote s.client current target) }
  | .value v => throw (.notAPath v.kindName)

/-- Goes to another local directory. -/
def lcd (s : Session) (target : String) : Shell Session := do
  return { s with localDir := ← Navigation.local (← Shell.disk) s.localDir target }

/-! ## One line -/

/-- The session after a command that leaves it as it is. -/
def unchanged (s : Session) (act : Shell Unit) : Shell (Session × Bool) := do
  act
  return (s, true)

/-- Says that a command was typed with the wrong number of arguments. -/
def complain (v : Verb) : Shell Unit := do
  Shell.say "[red]Wrong input![/red]"
  Shell.say ("Usage: " ++ Markup.escape v.usage)

/-- **Carries out a command** with as many arguments as it takes. `help` and `exit` do not look at
theirs, and do the same whatever comes behind them. -/
def run (s : Session) : Verb → List String → Shell (Session × Bool)
  | .mkdir, [name] => s.unchanged (s.mkdir name)
  | .put, [name] => s.unchanged (s.put name)
  | .get, [name] => s.unchanged (s.get name)
  | .append, [a, b] => s.unchanged (s.append a b)
  | .delete, [name] => s.unchanged (s.delete name)
  | .ls, [] => s.unchanged s.ls
  | .cd, [] => s.unchanged s.showRemote
  | .cd, [target] =>
    if target = "" then s.unchanged s.showRemote else do return (← s.cd target, true)
  | .lls, [] => s.unchanged s.lls
  | .lcd, [] => s.unchanged (Shell.tell s.localDir)
  | .lcd, [target] =>
    if target = "" then s.unchanged (Shell.tell s.localDir) else do return (← s.lcd target, true)
  | .help, _ => s.unchanged (Shell.tell helpText)
  | .exit, _ => return (s, false)
  | v, _ => s.unchanged (complain v)

/-- The line that reports a failure: under the name of the command when it is one of those the shell
expects. -/
def failureLine (v : Verb) (f : Failure) : String :=
  let label := if f.isExpected then v.word else "Error"
  let text := Markup.escape f.message
  s!"[red]{label}: {text}[/red]"

/-- What is left of a command that failed: the session it began with, and the report. -/
def recover (s : Session) (v : Verb) (f : Failure) : Shell (Session × Bool) :=
  if f.category = .interrupted then throw f else s.unchanged (Shell.say (failureLine v f))

/-- Says that there is no command of a name. -/
def unknown (name : String) : Shell Unit := do
  let shown := Markup.escape name
  Shell.say s!"[red]Did not recognise command: {shown}[/red]"
  Shell.say "Type 'help' for available commands"

/-- **Carries out a typed line**: the session afterwards, and whether to go on. -/
def execute (s : Session) (line : String) : Shell (Session × Bool) :=
  let command := Command.ofLine line
  if command.name = "" then return (s, true)
  else match Verb.ofWord? command.name with
    | none => s.unchanged (unknown command.name)
    | some v => tryCatch (s.run v command.args) (s.recover v)

end Session

end NamenodeShell
