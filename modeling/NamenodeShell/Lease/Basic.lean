/-!
# Waiting for a lease

An appended file stays open until the service has closed it. `Lease.wait` asks once for that, then
asks again and again whether it has happened, sleeping in between, until it has or the time is up.

The wait is written against a `Watch`, which says how the questions are put, how time is read and
how it is let pass. Nothing here fixes what time is: seconds may be doubles, as they are when the
shell runs, or exact fractions.
-/
set_option autoImplicit false

namespace NamenodeShell.Lease

/-- How far a wait has come. -/
inductive Phase where
  | requesting
  | polling
  | done
  deriving DecidableEq, Repr

/-- What a phase is called. -/
def Phase.word : Phase → String
  | requesting => "requesting"
  | polling => "polling"
  | done => "done"

/-- How a wait ends. -/
inductive Outcome where
  | closed
  | timedOut
  deriving DecidableEq, Repr

/-- What an outcome is called. -/
def Outcome.word : Outcome → String
  | closed => "closed"
  | timedOut => "timed out"

/-- **What a wait needs**, in a world of effects `m` whose time is counted in `τ`. -/
structure Watch (m : Type → Type) (τ : Type) where
  /-- Enters a phase. -/
  enter : Phase → m Unit
  /-- Asks for the lease to be given up; a refusal is noted and no more. -/
  request : m Unit
  /-- Asks whether the file is closed. -/
  isClosed : m Bool
  /-- Reads the time. -/
  now : m τ
  /-- Lets time pass. -/
  sleep : τ → m Unit
  /-- Notes that the file is still open after so long. -/
  giveUp : τ → m Unit

section

variable {m : Type → Type} {τ : Type} [Monad m] [Sub τ] [LE τ] [LT τ] [DecidableLE τ]
  [DecidableLT τ]

/-- The next sleep: an interval, or what is left of the time when that is less. -/
def pause (interval left : τ) : τ :=
  if left < interval then left else interval

/-- **The closing checks**, at most `checks` of them: an outcome, or nothing when the checks are
used up. After a check that finds the file open, the time since `start` decides between giving up
and another sleep. -/
def poll (w : Watch m τ) (timeout interval start : τ) : (checks : Nat) → m (Option Outcome)
  | 0 => pure none
  | checks + 1 => do
    if ← w.isClosed then
      w.enter .done
      return some .closed
    let elapsed := (← w.now) - start
    if timeout ≤ elapsed then
      w.enter .done
      w.giveUp elapsed
      return some .timedOut
    w.sleep (pause interval (timeout - elapsed))
    poll w timeout interval start checks

/-- **A whole wait**, with at most so many closing checks. -/
def wait (w : Watch m τ) (timeout interval : τ) (checks : Nat) : m (Option Outcome) := do
  w.enter .requesting
  w.request
  w.enter .polling
  let start ← w.now
  poll w timeout interval start checks

end

end NamenodeShell.Lease
