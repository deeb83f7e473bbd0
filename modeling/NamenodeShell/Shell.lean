import NamenodeShell.Console
import NamenodeShell.Disk.Listing
import NamenodeShell.Failure
import NamenodeShell.Lease.Basic

/-!
# What the shell has around it

The shell stands between a service, a disk, a clock and a terminal. `Surroundings` is what these
will do and what has been done with them: the answers still to come from the service, the disk as it
is, the clock, and a log of every event in order. A `Shell` computation reads and changes the
surroundings and ends in a value or a failure.

Every exchange with the service takes up one answer; when none is left the connection fails. So a
computation that has to exchange something at every turn comes to an end.
-/
set_option autoImplicit false

namespace NamenodeShell

/-- Who gives a warning. -/
inductive Source where
  | client
  | lease
  deriving DecidableEq, Repr

/-- **An event**: what others can notice of what the shell does. -/
inductive Event where
  /-- A request went out; `answered` tells whether a response came, which is also when the data of
  an upload has been taken, in the pieces that the request then has. -/
  | sent (request : Request) (answered : Bool)
  /-- The stream opened by the request at this place of the log was closed. -/
  | closed (stream : Nat)
  /-- A warning. -/
  | warned (source : Source) (text : String)
  /-- A sleep of so many seconds was asked for. -/
  | slept (seconds : Float)
  /-- A wait for a lease entered a phase. -/
  | waiting (phase : Lease.Phase)
  /-- Text was shown. -/
  | shown (text : Markup.Styled)
  /-- The person at the terminal was asked for a line. -/
  | prompted (text : String)
  /-- The connection to the service was given back. -/
  | released

/-- **A clock**: the time, how long an exchange takes, and how much longer a sleep takes than was
asked for. -/
structure Clock where
  now : Float := 0.0
  latency : Float := 0.0
  drift : Float := 0.0

/-- **What the shell has around it.** -/
structure Surroundings where
  service : List Answer
  disk : Disk
  clock : Clock := {}
  log : List Event := []

/-- **A computation of the shell.** -/
abbrev Shell := ExceptT Failure (StateM Surroundings)

namespace Shell

/-- Writes an event to the log. -/
def note (e : Event) : Shell Unit :=
  modify fun s => { s with log := s.log ++ [e] }

/-- The place in the log of the next event. -/
def place : Shell Nat := do
  return (← get).log.length

/-- The disk as it is. -/
def disk : Shell Disk := do
  return (← get).disk

/-- What an answer does before it comes: a file may be created. -/
def Answer.arrive (a : Answer) (d : Disk) : Disk :=
  match a.created with
  | some path => d.touch path
  | none => d

/-- **One exchange with the service**: a response or a fault. -/
def exchange (request : Request) : Shell (Except Fault Response) := do
  modify fun s => { s with clock.now := s.clock.now + s.clock.latency }
  match (← get).service with
  | [] =>
    note (.sent request false)
    return .error .connection
  | answer :: rest =>
    modify fun s => { s with service := rest, disk := Answer.arrive answer s.disk }
    match answer.reply with
    | .response r =>
      note (.sent (request.taken (← disk)) true)
      return .ok r
    | .fault f =>
      note (.sent request false)
      return .error f
    | .interrupted =>
      note (.sent request false)
      throw .interrupted

/-- What the disk gives for a path, or its refusal. -/
def onDisk {α : Type} (path : String) (act : Disk → Except Cause α) : Shell α := do
  match act (← disk) with
  | .ok a => return a
  | .error cause => throw (.disk cause path)

/-- The disk replaced. -/
def setDisk (d : Disk) : Shell Unit :=
  modify fun s => { s with disk := d }

/-- Reads the clock. -/
def now : Shell Float := do
  return (← get).clock.now

/-- Lets time pass. This is the sleep that a wait for a lease is given, and it takes whatever it is
asked for: seconds below zero, infinite ones and what is no number are noted and added to the time.
The clock of a system may refuse such seconds; that is left to whoever gives one. -/
def sleep (seconds : Float) : Shell Unit := do
  note (.slept seconds)
  modify fun s => { s with clock.now := s.clock.now + (seconds + s.clock.drift) }

/-- Warns. -/
def warn (source : Source) (text : String) : Shell Unit :=
  note (.warned source text)

/-- **Shows a line** of markup. It fails on the markup alone: the terminal is taken to show any
text, also one with halves of pairs, which a terminal that encodes strictly would refuse. -/
def say (markup : String) : Shell Unit := do
  match Markup.render markup with
  | .ok text => note (.shown text)
  | .error e => throw (.badMarkup e)

/-- Shows a line as it is, without tags. -/
def tell (line : String) : Shell Unit :=
  say (Markup.escape line)

end Shell

end NamenodeShell
