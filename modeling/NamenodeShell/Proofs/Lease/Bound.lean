import Mathlib.Algebra.Order.BigOperators.Group.List
import Mathlib.Algebra.Order.Floor.Semiring
import Mathlib.Data.Rat.Floor
import Mathlib.Tactic.Linarith
import NamenodeShell.Failure
import NamenodeShell.Proofs.Lease.Rounds

/-!
# How long a wait takes

A wait in exact time. A `Pace` is all that the wait does not know of: how long the request and the
checks take, how much longer the sleeps take than was asked for, what comes of the request, and what
the checks say. The `Diary` keeps when checks began and what sleeps were asked for.

`wait_bounded` is the main statement. What carries it is the invariant of the rounds, `OnTime`: as
many whole intervals have passed as there were sleeps, or else the time is up. A sleep is shorter
than an interval only when it is what is left of the time, and after such a sleep the time is up; so
before every other sleep so many intervals are less than the timeout, and there are not more of
these than the timeout has intervals, rounded up.
-/
set_option autoImplicit false

namespace NamenodeShell.Lease

/-! ## Exact time -/

/-- **How things go** that a wait does not know of. -/
structure Pace where
  /-- What comes of the request for the lease. -/
  recovery : Except Failure Bool
  /-- How long the exchanges take, the request first and then the checks. -/
  latency : Nat → ℚ
  /-- How much longer the sleeps take than was asked for. -/
  overrun : Nat → ℚ
  /-- What the checks say. -/
  closed : Nat → Bool

/-- **The diary of a wait**: the time, when checks began, and what sleeps were asked for. -/
structure Diary where
  now : ℚ
  checks : List ℚ := []
  sleeps : List ℚ := []

namespace Pace

variable (p : Pace)

/-- Nothing takes less than no time, and the request fails in no other way than those the shell
tells apart. -/
structure IsFair : Prop where
  latency : ∀ k, 0 ≤ p.latency k
  overrun : ∀ k, 0 ≤ p.overrun k
  recovery : ∀ f, p.recovery = .error f → f.isOwn = true

/-- The request for the lease, which takes its time whatever comes of it. -/
def recover : ExceptT Failure (StateM Diary) Bool := do
  modify fun d => { d with now := d.now + p.latency 0 }
  liftM p.recovery

/-- **A watch in exact time.** -/
def watch : Watch (ExceptT Failure (StateM Diary)) ℚ where
  enter _ := pure ()
  request := tryCatch (do let _ ← p.recover) fun e => if e.isOwn then pure () else throw e
  isClosed := do
    let d ← get
    set { d with now := d.now + p.latency (d.checks.length + 1), checks := d.checks ++ [d.now] }
    return p.closed d.checks.length
  now := do return (← get).now
  sleep seconds := modify fun d => { d with
    now := d.now + (seconds + p.overrun d.sleeps.length), sleeps := d.sleeps ++ [seconds] }
  giveUp _ := pure ()

/-! ## What the parts of a wait do -/

variable {p} {timeout interval start reading : ℚ} {d d' : Diary}

/-- Phases are not written to the diary. -/
theorem after_enter (phase : Phase) (d : Diary) :
    after (p.watch.enter phase) d = (.ok (), d) := rfl

/-- A check is written to it when it begins, and takes its time. -/
theorem after_isClosed (d : Diary) :
    after p.watch.isClosed d = (.ok (p.closed d.checks.length), { d with
      now := d.now + p.latency (d.checks.length + 1), checks := d.checks ++ [d.now] }) := rfl

/-- The clock is the diary's. -/
theorem after_now (d : Diary) : after p.watch.now d = (.ok d.now, d) := rfl

/-- A sleep takes what was asked for, and its overrun. -/
theorem after_sleep (seconds : ℚ) (d : Diary) :
    after (p.watch.sleep seconds) d = (.ok (), { d with
      now := d.now + (seconds + p.overrun d.sleeps.length), sleeps := d.sleeps ++ [seconds] }) :=
  rfl

/-- To give up takes no time. -/
theorem after_giveUp (elapsed : ℚ) (d : Diary) :
    after (p.watch.giveUp elapsed) d = (.ok (), d) := rfl

/-- The request of a fair pace takes its time and leaves nothing else. -/
theorem after_request (hfair : p.IsFair) (d : Diary) :
    after p.watch.request d = (.ok (), { d with now := d.now + p.latency 0 }) := by
  have hrequest : after p.watch.request d = match p.recovery with
      | .ok _ => (.ok (), { d with now := d.now + p.latency 0 })
      | .error e => after (if e.isOwn then pure () else throw e)
          { d with now := d.now + p.latency 0 } := by
    unfold after watch recover
    cases p.recovery <;> rfl
  rw [hrequest]
  cases hrecovery : p.recovery with
  | ok b => rfl
  | error f =>
    simp only [hfair.recovery f hrecovery, if_true]
    rfl

/-- Nothing of the watch fails but the request. -/
theorem steady_watch (p : Pace) : Steady p.watch where
  enter phase d := ⟨d, after_enter phase d⟩
  now d := ⟨d.now, d, after_now d⟩
  sleep seconds d := ⟨_, after_sleep seconds d⟩
  giveUp elapsed d := ⟨d, after_giveUp elapsed d⟩

/-- What a round writes to the diary. -/
theorem round_eq (h : Round p.watch timeout interval start reading d d') :
    reading = d.now + p.latency (d.checks.length + 1) ∧ reading - start < timeout ∧
      d' = { now := reading +
               (pause interval (timeout - (reading - start)) + p.overrun d.sleeps.length)
             checks := d.checks ++ [d.now]
             sleeps := d.sleeps ++ [pause interval (timeout - (reading - start))] } := by
  obtain ⟨hcheck, hnow, hearly, hsleep⟩ := h
  obtain ⟨-, rfl⟩ := Prod.mk.inj ((after_isClosed d).symm.trans hcheck)
  cases hnow
  cases hsleep
  exact ⟨rfl, not_le.mp hearly, rfl⟩

/-- What the end of a wait writes to the diary. -/
theorem ends_eq {outcome : Outcome} {last : List ℚ}
    (h : Ends p.watch timeout start outcome last d d') :
    d'.checks = d.checks ++ [d.now] ∧ d'.sleeps = d.sleeps := by
  cases h with
  | closed check done =>
    obtain ⟨-, rfl⟩ := Prod.mk.inj ((after_isClosed d).symm.trans check)
    cases done
    exact ⟨rfl, rfl⟩
  | timedOut check now late done giveUp =>
    obtain ⟨-, rfl⟩ := Prod.mk.inj ((after_isClosed d).symm.trans check)
    cases now
    cases done
    cases giveUp
    exact ⟨rfl, rfl⟩

end Pace

/-! ## The pauses -/

/-- No pause is longer than an interval, -/
theorem pause_le_interval (interval left : ℚ) : pause interval left ≤ interval := by
  unfold pause
  split
  next h => exact h.le
  next => exact le_rfl

/-- nor than what is left of the time. -/
theorem pause_le_left (interval left : ℚ) : pause interval left ≤ left := by
  unfold pause
  split
  next => exact le_rfl
  next h => exact not_lt.mp h

/-- While time is left a pause takes some of it, so that a wait does not spin. -/
theorem pause_pos {interval left : ℚ} (hinterval : 0 < interval) (hleft : 0 < left) :
    0 < pause interval left := by
  unfold pause
  split
  next => exact hleft
  next => exact hinterval

/-- A pause is an interval, or else all that is left. -/
theorem pause_eq (interval left : ℚ) : pause interval left = interval ∨
    pause interval left = left := by
  unfold pause
  split
  next => exact .inr rfl
  next => exact .inl rfl

/-! ## The invariant of the rounds -/

section

variable {p : Pace} {timeout interval start reading : ℚ} {d d' : Diary}

/-- **A wait is on time** at the beginning of a round. -/
structure OnTime (p : Pace) (timeout interval start : ℚ) (d : Diary) : Prop where
  /-- There was one check to each sleep. -/
  matched : d.checks.length = d.sleeps.length
  /-- As many intervals have passed as there were sleeps, or else the time is up. -/
  paced : d.sleeps.length * interval ≤ d.now - start ∨ timeout ≤ d.now - start
  /-- No sleep was longer than an interval, and all of them took time. -/
  pauses : ∀ seconds ∈ d.sleeps, 0 < seconds ∧ seconds ≤ interval
  /-- The sleeps together are not longer than the time that has passed, -/
  spent : d.sleeps.sum ≤ d.now - start
  /-- and not longer than the timeout. -/
  total : d.sleeps.sum ≤ timeout
  /-- There were not more of them than the timeout has intervals. -/
  count : d.sleeps.length ≤ ⌈timeout / interval⌉₊
  /-- When sleeps are exact it is not too late for a check, and never was. -/
  punctual : (∀ k, p.overrun k = 0) →
    d.now ≤ start + timeout ∧ ∀ check ∈ d.checks, check ≤ start + timeout

/-- A wait begins on time: nothing has been checked and nobody has slept. -/
theorem OnTime.beginning (htimeout : 0 ≤ timeout) (now : ℚ) :
    OnTime p timeout interval now { now := now } where
  matched := rfl
  paced := .inl (by simp)
  pauses := fun _ h => nomatch h
  spent := by simp
  total := htimeout
  count := Nat.zero_le _
  punctual _ := ⟨by linarith, fun _ h => nomatch h⟩

/-- **Before a sleep there is time left**, and so many intervals are less than the timeout. -/
theorem OnTime.before_sleep (hfair : p.IsFair) (hinterval : 0 < interval)
    (h : OnTime p timeout interval start d) {elapsed : ℚ}
    (helapsed : elapsed = d.now + p.latency (d.checks.length + 1) - start)
    (hearly : elapsed < timeout) :
    d.sleeps.length * interval ≤ elapsed ∧ d.sleeps.sum ≤ elapsed ∧
      d.sleeps.length < ⌈timeout / interval⌉₊ := by
  have hlatency := hfair.latency (d.checks.length + 1)
  have hpassed : d.now - start ≤ elapsed := by linarith
  have hspent := h.spent
  have hpaced : d.sleeps.length * interval ≤ elapsed := by
    rcases h.paced with hintervals | hup
    · linarith
    · -- the time was up when the check began
      linarith
  have hcount : (d.sleeps.length : ℚ) < timeout / interval := by
    rw [lt_div_iff₀ hinterval]
    linarith
  exact ⟨hpaced, by linarith, Nat.lt_ceil.mpr hcount⟩

/-- **A round keeps a wait on time.** -/
theorem OnTime.round (hfair : p.IsFair) (hinterval : 0 < interval)
    (h : OnTime p timeout interval start d)
    (hround : Round p.watch timeout interval start reading d d') :
    OnTime p timeout interval start d' ∧ d'.sleeps.length = d.sleeps.length + 1 := by
  obtain ⟨hreading, hearly, rfl⟩ := Pace.round_eq hround
  obtain ⟨hpaced, hspent, hcount⟩ :=
    h.before_sleep hfair hinterval (congrArg (· - start) hreading) hearly
  have hoverrun := hfair.overrun d.sleeps.length
  have hshort := pause_le_interval interval (timeout - (reading - start))
  have hwithin := pause_le_left interval (timeout - (reading - start))
  have hpos : 0 < pause interval (timeout - (reading - start)) :=
    pause_pos hinterval (by linarith)
  refine ⟨?_, List.length_append⟩
  constructor
  case matched => simp only [List.length_append, h.matched, List.length_singleton]
  case paced =>
    simp only [List.length_append, List.length_singleton]
    push_cast
    -- the pause is an interval, which is one more that has passed, or it is all the time there was
    -- left
    rcases pause_eq interval (timeout - (reading - start)) with hpause | hpause
    · left
      rw [hpause]
      linarith
    · right
      rw [hpause]
      linarith
  case pauses =>
    intro seconds hseconds
    rcases List.mem_append.mp hseconds with hseconds | hseconds
    · exact h.pauses seconds hseconds
    · rw [List.mem_singleton.mp hseconds]
      exact ⟨hpos, hshort⟩
  case spent =>
    simp only [List.sum_append, List.sum_singleton]
    linarith
  case total =>
    simp only [List.sum_append, List.sum_singleton]
    linarith
  case count =>
    rw [List.length_append, List.length_singleton]
    exact hcount
  case punctual =>
    intro hexact
    obtain ⟨hnow, hchecks⟩ := h.punctual hexact
    constructor
    -- the check began before the deadline, and no sleep goes beyond it
    · simp only [hexact]
      linarith
    · intro check hcheck
      rcases List.mem_append.mp hcheck with hcheck | hcheck
      · exact hchecks check hcheck
      · rw [List.mem_singleton.mp hcheck]
        exact hnow

/-- **Rounds keep a wait on time**, and each of them has one sleep. -/
theorem OnTime.rounds {readings : List ℚ} (hfair : p.IsFair) (hinterval : 0 < interval)
    (hrounds : Rounds p.watch timeout interval start readings d d')
    (h : OnTime p timeout interval start d) :
    OnTime p timeout interval start d' ∧
      d'.sleeps.length = d.sleeps.length + readings.length := by
  induction hrounds with
  | nil => exact ⟨h, rfl⟩
  | cons round rest ih =>
    obtain ⟨hround, hlength⟩ := h.round hfair hinterval round
    obtain ⟨hrest, hlengths⟩ := ih hround
    refine ⟨hrest, ?_⟩
    rw [hlengths, hlength, List.length_cons]
    omega

/-! ## The bound -/

/-- **A wait is bounded**, in all that it did from its start on. -/
structure Bounded (p : Pace) (timeout interval start : ℚ) (d : Diary) : Prop where
  /-- There are at most as many sleeps as the timeout has intervals, rounded up, -/
  sleeps : d.sleeps.length ≤ ⌈timeout / interval⌉₊
  /-- and at most one check more. -/
  checks : d.checks.length ≤ ⌈timeout / interval⌉₊ + 1
  /-- Every sleep takes time, and no more of it than an interval. -/
  pauses : ∀ seconds ∈ d.sleeps, 0 < seconds ∧ seconds ≤ interval
  /-- All sleeps together are not longer than the timeout. -/
  total : d.sleeps.sum ≤ timeout
  /-- When sleeps are exact no check begins when the time is over. -/
  punctual : (∀ k, p.overrun k = 0) → ∀ check ∈ d.checks, check ≤ start + timeout

/-- A wait that was on time is bounded when it ends. -/
theorem OnTime.ends {outcome : Outcome} {last : List ℚ} (h : OnTime p timeout interval start d)
    (hends : Ends p.watch timeout start outcome last d d') :
    Bounded p timeout interval start d' := by
  obtain ⟨hchecks, hsleeps⟩ := Pace.ends_eq hends
  constructor
  case sleeps =>
    rw [hsleeps]
    exact h.count
  case checks =>
    rw [hchecks, List.length_append, List.length_singleton, h.matched]
    exact Nat.succ_le_succ h.count
  case pauses =>
    rw [hsleeps]
    exact h.pauses
  case total =>
    rw [hsleeps]
    exact h.total
  case punctual =>
    intro hexact check hcheck
    obtain ⟨hnow, hbefore⟩ := h.punctual hexact
    rw [hchecks] at hcheck
    rcases List.mem_append.mp hcheck with hcheck | hcheck
    · exact hbefore check hcheck
    · rw [List.mem_singleton.mp hcheck]
      exact hnow

/-- What the opening of a wait leaves. -/
theorem opens_eq (hfair : p.IsFair) {now : ℚ} (h : Opens p.watch start { now := now } d) :
    start = now + p.latency 0 ∧ d = { now := now + p.latency 0 } := by
  obtain ⟨hrequesting, hrequest, hpolling, hnow⟩ := h
  cases hrequesting
  cases (Pace.after_request hfair _).symm.trans hrequest
  cases hpolling
  cases hnow
  exact ⟨rfl, rfl⟩

/-- A fair pace refuses no wait. -/
theorem not_refused (hfair : p.IsFair) {e : Failure} : ¬ Refused p.watch e d d' := by
  rintro ⟨hrequesting, hrequest⟩
  cases (Pace.after_request hfair _).symm.trans hrequest

/-- A wait that has opened and made rounds is on time, and has slept once in each of them. -/
theorem onTime_of_opens {readings : List ℚ} {d₁ d₂ : Diary} (hfair : p.IsFair)
    (htimeout : 0 ≤ timeout) (hinterval : 0 < interval) {now : ℚ}
    (hopens : Opens p.watch start { now := now } d₁)
    (hrounds : Rounds p.watch timeout interval start readings d₁ d₂) :
    OnTime p timeout interval start d₂ ∧ d₂.sleeps.length = readings.length := by
  obtain ⟨rfl, rfl⟩ := opens_eq hfair hopens
  obtain ⟨honTime, hlength⟩ := (OnTime.beginning htimeout _).rounds hfair hinterval hrounds
  exact ⟨honTime, hlength.trans (Nat.zero_add _)⟩

/-- **A wait is bounded and never overruns its deadline.** With more checks than the timeout has
intervals, rounded up, it comes to an outcome, and it is the same with however many. -/
theorem wait_bounded (hfair : p.IsFair) (htimeout : 0 ≤ timeout) (hinterval : 0 < interval)
    (now : ℚ) :
    ∃ outcome d, (∀ checks, ⌈timeout / interval⌉₊ < checks →
        after (wait p.watch timeout interval checks) { now := now } = (.ok (some outcome), d)) ∧
      Bounded p timeout interval (now + p.latency 0) d := by
  rcases wait_cases p.steady_watch timeout interval (⌈timeout / interval⌉₊ + 1) { now := now } with
    ⟨e, d, hrefused⟩ | ⟨start, readings, s₁, s₂, hused, hopens, hrounds⟩ |
      ⟨start, readings, last, outcome, d, hlength, hopens, hrounds, hends⟩ |
      ⟨start, readings, e, d, hlength, hopens, hrounds, hfailed⟩
  · exact absurd hrefused (not_refused hfair)
  -- as many rounds as there are checks would be more sleeps than the timeout has intervals
  · obtain ⟨honTime, hlength⟩ := onTime_of_opens hfair htimeout hinterval hopens hrounds
    have hcount := honTime.count
    omega
  · refine ⟨outcome, d, ?_, ?_⟩
    · intro checks hchecks
      exact (Course.mk hopens hrounds hends).wait
        (Nat.lt_of_lt_of_le hlength (Nat.succ_le_of_lt hchecks))
    · have honTime := (onTime_of_opens hfair htimeout hinterval hopens hrounds).1
      obtain ⟨rfl, -⟩ := opens_eq hfair hopens
      exact honTime.ends hends
  · cases hfailed

end

/-- A pace at which the request fails, exchanges take no time, sleeps are exact, and the file is
never closed. -/
def idlePace : Pace where
  recovery := .error .bareRefusal
  latency _ := 0
  overrun _ := 0
  closed _ := false

/-- A refusal without a response is one of the failures that the shell tells apart. -/
theorem isFair_idlePace : idlePace.IsFair where
  latency _ := le_rfl
  overrun _ := le_rfl
  recovery f hf := by
    cases hf
    rfl

theorem wait_bounded_idle : idlePace.IsFair ∧
    ∃ outcome d, (∀ checks, 3 < checks →
        after (wait idlePace.watch (5 / 2) 1 checks) { now := 0 } = (.ok (some outcome), d)) ∧
      d.sleeps.length ≤ 3 ∧ d.checks.length ≤ 4 ∧ d.sleeps.sum ≤ 5 / 2 := by
  have hceil : ⌈(5 / 2 : ℚ) / 1⌉₊ = 3 := by
    rw [Nat.ceil_eq_iff (by decide)]
    constructor <;> norm_num
  obtain ⟨outcome, d, hwait, hbounded⟩ := wait_bounded isFair_idlePace
    (show (0 : ℚ) ≤ 5 / 2 by norm_num) (show (0 : ℚ) < 1 by norm_num) 0
  rw [hceil] at hwait
  have hsleeps := hbounded.sleeps
  have hchecks := hbounded.checks
  rw [hceil] at hsleeps hchecks
  exact ⟨isFair_idlePace, outcome, d, hwait, hsleeps, hchecks, hbounded.total⟩

/-- The bound is met: the last sleep is what is left of the time. -/
example : (after (wait idlePace.watch (5 / 2) 1 4) { now := 0 }).2.sleeps = [1, 1, 1 / 2] ∧
    (after (wait idlePace.watch (5 / 2) 1 4) { now := 0 }).2.checks = [0, 1, 2, 5 / 2] := by
  constructor <;> decide +kernel

end NamenodeShell.Lease
