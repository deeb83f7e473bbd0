import NamenodeShell.Client

/-!
# The wait of an append

The wait for a lease as the shell runs it: the questions go to the service, time is the clock's, and
a refusal to give the lease up is a warning. A check takes up one answer of the service or fails, so
one check more than there are answers is enough for every wait.
-/
set_option autoImplicit false

namespace NamenodeShell.Lease

/-- How long a wait may take, and how long it sleeps between two checks. -/
structure Patience where
  timeout : Float := 60.0
  interval : Float := 1.0

/-- Asks for the lease; of the failures the shell tells apart only a warning remains. -/
def requestOrWarn (c : Client) (path : String) : Shell Unit :=
  tryCatch (do let _ ← c.recoverLease path) fun e => do
    if e.isOwn then
      let reason := e.message
      Shell.warn .lease s!"lease recovery request for {path} failed: {reason}"
    else throw e

/-- The watch over a file. -/
def watch (c : Client) (path : String) : Watch Shell Float where
  enter phase := Shell.note (.waiting phase)
  request := requestOrWarn c path
  isClosed := c.isClosed path
  now := Shell.now
  sleep := Shell.sleep
  giveUp elapsed :=
    let shown := Decimal.whole elapsed
    Shell.warn .lease s!"{path} still open after {shown}s, giving up"

/-- **Waits until a file is closed or the time is up.** -/
def await (c : Client) (patience : Patience) (path : String) : Shell Outcome := do
  let checks := (← get).service.length + 1
  match ← wait (watch c path) patience.timeout patience.interval checks with
  | some outcome => return outcome
  | none => throw (c.faultFailure .connection)

end NamenodeShell.Lease
