import NamenodeShell.Invocation
import NamenodeShell.Proofs.Decimal.Order
import NamenodeShell.Proofs.Lease.Recovery
import NamenodeShell.Proofs.Settings

/-!
# Whether accepted settings are in range

The check refuses seconds that are at most zero, or below it, and so passes what stands in no order
to zero. Of the seconds that it passes those that are numbers are in range, and no others
(`accepted_in_range`). What is no number is read from a text like all seconds are, and accepted: a
wait with it for a timeout cannot give up, since no time that has passed is as much
(`canGiveUp_iff`), and there it differs from a wait with any other timeout, long as it may be.

Infinite seconds are in range too. They take an infinite time to pass, so that by a clock that only
counts finite times a wait with them for a timeout goes on like one whose timeout is no number
(`canGiveUpInTime_iff`).
-/
set_option autoImplicit false

namespace NamenodeShell

open Decimal

namespace Lease

/-! ## Giving up -/

/-- **A wait can give up**: by some clock, and with some service, its time comes to be up. A timeout
that is infinite takes a clock that comes to read infinity. -/
def CanGiveUp (c : Client) (path : String) (timeout interval : Float) : Prop :=
  ∃ read w w', ComesTo (watchBy c path read) timeout interval w (.ok .timedOut) w'

/-- **A wait can give up in time**: it can by a clock for which a finite time passes between any two
readings. -/
def CanGiveUpInTime (c : Client) (path : String) (timeout interval : Float) : Prop :=
  ∃ read w w', (∀ v v' : Surroundings, ((read v').1 - (read v).1).isFinite = true) ∧
    ComesTo (watchBy c path read) timeout interval w (.ok .timedOut) w'

variable {c : Client} {path : String} {timeout interval : Float}

/-- What is heard of a file that is still open is the same by any client. -/
theorem heard_stillHeld (c : Client) : c.heard Client.closedIn stillHeld = .ok false := by
  have hsample : sampleClient.heard Client.closedIn stillHeld = .ok false :=
    eq_ok_of_toOption (by decide +kernel)
  exact Client.heard_eq_ok.mpr (Client.heard_eq_ok.mp hsample)

/-- Surroundings in which the request for the lease gets no answer, and then the file is open. -/
def heldSurroundings : Surroundings where
  service := [⟨.fault .timeout, none⟩, ⟨stillHeld, none⟩]
  disk := { tree := [] }

/-- A clock that stands at zero before the last answer and at a time after it. -/
def lateClock (late : Float) (answers : List Answer) (clock : Clock) : Float × Clock :=
  (if answers.isEmpty then late else 0.0, clock)

/-- **By the late clock the time comes to be up**, if the timeout is a number at all. -/
theorem comesTo_timedOut (c : Client) (path : String) (interval : Float)
    (hnumber : timeout.isNaN = false) :
    ∃ w', ComesTo (watchApart c path (lateClock timeout)) timeout interval heldSurroundings
      (.ok .timedOut) w' := by
  -- The wait opens at zero, and the clock reads the timeout once the last answer has come.
  have hadmitted : Admitted c heldSurroundings.reply := admitted_iff.mpr (.inl trivial)
  obtain ⟨w₁, hopens, hservice, -, -⟩ := opens_of_admitted c path (lateClock timeout) hadmitted
  have hreply : w₁.reply = stillHeld := by
    rw [Surroundings.reply, hservice]
    rfl
  have hcheck : after (watchApart c path (lateClock timeout)).isClosed w₁ =
      (.ok false, w₁.exchanged (question c path)) := by
    rw [← heard_stillHeld c, ← hreply]
    exact after_isClosed w₁
  have hemptied : (w₁.exchanged (question c path)).service.isEmpty = true := by
    rw [Surroundings.exchanged, hservice]
    rfl
  have hnow : after (watchApart c path (lateClock timeout)).now
      (w₁.exchanged (question c path)) = (.ok timeout, w₁.exchanged (question c path)) := by
    have hread : lateClock timeout (w₁.exchanged (question c path)).service
        (w₁.exchanged (question c path)).clock =
          (timeout, (w₁.exchanged (question c path)).clock) := by
      rw [lateClock, if_pos hemptied]
    change after (watchBy c path _).now _ = _
    rw [after_now, hread]
  have hlate : timeout ≤ timeout - 0.0 := by
    rw [sub_zero]
    exact le_self hnumber
  have hends := Ends.timedOut hcheck hnow hlate (after_enter .done _) (after_giveUp _ _)
  exact ⟨_, (comesTo_ok_iff (steady_watchBy c path _)).mpr ⟨_, [], [_], .mk hopens .nil hends⟩⟩

/-- **What a wait has seen when it gives up**: a reading that is as late after another as the
timeout asks for. -/
theorem late_of_comesTo {read : Surroundings → Float × Clock} {w w' : Surroundings}
    (h : ComesTo (watchBy c path read) timeout interval w (.ok .timedOut) w') :
    ∃ v v' : Surroundings, timeout ≤ (read v').1 - (read v).1 := by
  obtain ⟨start, readings, last, hopens, -, hends⟩ :=
    (comesTo_ok_iff (steady_watchBy c path read)).mp h
  cases hopens with
  | mk _ _ _ hstart =>
    cases hends with
    | timedOut _ hnow hlate _ _ =>
      cases hstart
      cases hnow
      exact ⟨_, _, hlate⟩

/-- **A wait can give up just when its timeout is a number.** One that is none is never over. -/
theorem canGiveUp_iff : CanGiveUp c path timeout interval ↔ timeout.isNaN = false := by
  constructor
  · rintro ⟨read, w, w', hcomes⟩
    obtain ⟨v, v', hlate⟩ := late_of_comesTo hcomes
    exact (isNumber_of_le hlate).1
  · intro hnumber
    obtain ⟨w', hcomes⟩ := comesTo_timedOut c path interval hnumber
    exact ⟨_, _, w', hcomes⟩

/-- **A wait can give up in time just when its timeout is finite**, if that is not below zero. -/
theorem canGiveUpInTime_iff (hnonnegative : ¬ timeout < 0.0) :
    CanGiveUpInTime c path timeout interval ↔ timeout.isFinite = true := by
  constructor
  case mp =>
    rintro ⟨read, w, w', hpasses, hcomes⟩
    obtain ⟨v, v', hlate⟩ := late_of_comesTo hcomes
    exact isFinite_of_le hlate (hpasses v v') hnonnegative
  case mpr =>
    intro hfinite
    obtain ⟨w', hcomes⟩ := comesTo_timedOut c path interval (isNumber_of_isFinite hfinite)
    refine ⟨_, _, w', fun v v' => ?_, hcomes⟩
    -- The late clock knows two times, of which the one is zero.
    simp only [lateClock]
    split <;> split
    · exact isFinite_sub_self hfinite
    · rwa [sub_zero]
    · exact isFinite_zero_sub hfinite
    · rw [sub_zero]
      decide +kernel

end Lease

namespace Settings

variable {s : Settings}

/-! ## The range -/

/-- **Settings that are in range**, as far as the seconds among them are numbers. -/
structure InRangeUnlessNaN (s : Settings) : Prop where
  scheme : s.scheme = "http" ∨ s.scheme = "https"
  replication : ∀ n, s.replication = some n → 1 ≤ n
  timeout : 0.0 < s.timeout ↔ s.timeout.isNaN = false
  leaseTimeout : 0.0 ≤ s.leaseTimeout ↔ s.leaseTimeout.isNaN = false
  pollInterval : 0.0 < s.pollInterval ↔ s.pollInterval.isNaN = false
  /-- A wait for a lease with these settings can give up. -/
  givesUp : ∀ c path,
    Lease.CanGiveUp c path s.leaseTimeout s.pollInterval ↔ s.leaseTimeout.isNaN = false
  /-- And by a clock that counts finite times. -/
  givesUpInTime : ∀ c path,
    Lease.CanGiveUpInTime c path s.leaseTimeout s.pollInterval ↔ s.leaseTimeout.isFinite = true

theorem positive_iff {x : Float} (h : ¬ x ≤ 0.0) : 0.0 < x ↔ x.isNaN = false := by
  refine ⟨fun hpos => (isNumber_of_lt hpos).2, fun hnumber => ?_⟩
  obtain hpos | hnan := not_le_zero_iff.mp h
  · exact hpos
  · rw [hnumber] at hnan
    cases hnan

theorem nonnegative_iff {x : Float} (h : ¬ x < 0.0) : 0.0 ≤ x ↔ x.isNaN = false := by
  refine ⟨fun hle => (isNumber_of_le hle).2, fun hnumber => ?_⟩
  obtain hle | hnan := not_lt_zero_iff.mp h
  · exact hle
  · rw [hnumber] at hnan
    cases hnan

/-- What the check passes. -/
theorem Passes.inRangeUnlessNaN (h : s.Passes) : s.InRangeUnlessNaN where
  scheme := h.scheme
  replication := h.replication
  timeout := positive_iff h.timeout
  leaseTimeout := nonnegative_iff h.leaseTimeout
  pollInterval := positive_iff h.pollInterval
  givesUp _ _ := Lease.canGiveUp_iff
  givesUpInTime _ _ := Lease.canGiveUpInTime_iff h.leaseTimeout

/-- The settings that a session begins with are those of the environment and the options. -/
theorem of_begin {env : Environment} {parts : Split} {host : String} {port : Int} {user : String}
    (h : Invocation.begin env parts = .ok (.session host port user s)) :
    ∃ overrides, ofOverrides env overrides = .ok s := by
  unfold Invocation.begin at h
  obtain ⟨overrides, -, h⟩ := of_bind h
  obtain ⟨_, -, h⟩ := of_bind h
  obtain ⟨_, -, h⟩ := of_bind h
  obtain ⟨_, -, h⟩ := of_bind h
  obtain ⟨_, -, h⟩ := of_bind h
  refine ⟨overrides, ?_⟩
  simp only at h
  split at h
  next =>
    split at h
    next hsettings =>
      cases h
      exact hsettings
    next => cases h
  next =>
    obtain ⟨_, hrefused, -⟩ := of_bind h
    cases hrefused

/-- **Accepted settings are in range**, as far as the seconds among them are numbers. This is so of
settings that come from an environment and overrides, and of those that a session begins with. By a
timeout that is a number a wait for a lease can give up, though when that is infinite not by a clock
that counts finite times. Seconds that are no number are not in range, and by a timeout that is none
no wait can give up. -/
theorem accepted_in_range (env : Environment) (s : Settings)
    (h : (∃ overrides, ofOverrides env overrides = .ok s) ∨
      ∃ words host port user, Invocation.ofWords env words = .session host port user s) :
    s.InRangeUnlessNaN := by
  obtain ⟨overrides, h⟩ | ⟨words, host, port, user, h⟩ := h
  · exact (check_eq_ok_iff.mp (check_of_ofOverrides h)).inRangeUnlessNaN
  · unfold Invocation.ofWords at h
    split at h
    next => cases h
    split at h
    next => cases h
    split at h
    next invocation hbegin =>
      cases h
      obtain ⟨overrides, h⟩ := of_begin hbegin
      exact (check_eq_ok_iff.mp (check_of_ofOverrides h)).inRangeUnlessNaN
    next => cases h

/-- Words that set all the seconds. -/
def sampleWords : List String :=
  ["--timeout", "inf", "--lease-timeout", "0", "--poll-interval", "5e-1", "nn", "9870", "alice"]

theorem sample_in_range : ∃ s, Invocation.ofWords [] sampleWords = .session "nn" 9870 "alice" s ∧
    0.0 < s.timeout ∧ 0.0 ≤ s.leaseTimeout ∧ 0.0 < s.pollInterval ∧
    ∀ c path, Lease.CanGiveUp c path s.leaseTimeout s.pollInterval := by
  refine ⟨_, rfl, ?_⟩
  have hrange := accepted_in_range [] _ (.inr ⟨sampleWords, "nn", 9870, "alice", rfl⟩)
  refine ⟨hrange.timeout.mpr ?_, hrange.leaseTimeout.mpr ?_, hrange.pollInterval.mpr ?_,
    fun c path => (hrange.givesUp c path).mpr ?_⟩
  all_goals decide +kernel

/-- An environment with a timeout for leases that is no number. -/
def unorderedEnvironment : Environment := [("HDFS_SHELL_LEASE_TIMEOUT", "nan")]

/-- **What is no number is accepted**, and not in range: no wait with it can give up. -/
theorem unordered_accepted : ∃ s, ofOverrides unorderedEnvironment [] = .ok s ∧
    ¬ 0.0 ≤ s.leaseTimeout ∧ ∀ c path, ¬ Lease.CanGiveUp c path s.leaseTimeout s.pollInterval := by
  refine ⟨_, rfl, ?_, ?_⟩
  · decide +kernel
  · intro c path
    rw [Lease.canGiveUp_iff]
    decide +kernel

end Settings

end NamenodeShell
