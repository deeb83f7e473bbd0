import NamenodeShell.Settings

/-!
# Settings that are accepted

Settings are accepted in steps, each of which may fail. Those that are accepted in the end have
passed the check, whatever the environment and the overrides are (`check_of_ofOverrides`): values
that would be run in place of the check are refused. The check looks for settings that are out of
range, and passes those of which it finds none (`check_eq_ok_iff`). For the seconds that is weaker
than being in range, since a double that is no number compares with nothing.
-/
set_option autoImplicit false

namespace NamenodeShell

/-- **Whether a refusal is about a value**, which is malformed or out of range. All others are about
the name that the value is given for. -/
def SettingsError.isOfValue : SettingsError → Bool
  | notANumber .. | notAnInteger .. | unknownScheme _ | timeoutNotPositive _
  | replicationTooSmall _ | leaseTimeoutNegative _ | pollIntervalNotPositive _ => true
  | _ => false

namespace Settings

/-- What is accepted was accepted at every step. -/
theorem of_bind {ε α β : Type} {x : Except ε α} {next : α → Except ε β} {b : β}
    (h : x >>= next = .ok b) : ∃ a, x = .ok a ∧ next a = .ok b := by
  cases x with
  | error e => cases h
  | ok a => exact ⟨a, rfl, h⟩

/-- What is refused was refused at some step. -/
theorem of_bind_error {ε α β : Type} {x : Except ε α} {next : α → Except ε β} {f : ε}
    (h : x >>= next = .error f) : x = .error f ∨ ∃ a, x = .ok a ∧ next a = .error f := by
  cases x with
  | error e => cases h; exact .inl rfl
  | ok a => exact .inr ⟨a, rfl, h⟩

variable {s : Settings}

/-- **Accepted settings have passed the check.** -/
theorem check_of_ofOverrides {env : Environment} {overrides : List Override}
    (h : ofOverrides env overrides = .ok s) : s.check = .ok () := by
  unfold ofOverrides at h
  simp only at h
  split at h
  next =>
    obtain ⟨_, hrefused, -⟩ := of_bind h
    cases hrefused
  next =>
    obtain ⟨_, -, h⟩ := of_bind h
    obtain ⟨_, -, h⟩ := of_bind h
    split at h
    next =>
      obtain ⟨_, hrefused, -⟩ := of_bind h
      cases hrefused
    next =>
      obtain ⟨⟨⟩, hcheck, h⟩ := of_bind h
      cases h
      exact hcheck

/-! ### What the check looks at -/

/-- **Nothing is out of range.** The seconds are compared the way the check compares them. -/
structure Passes (s : Settings) : Prop where
  scheme : s.scheme = "http" ∨ s.scheme = "https"
  timeout : ¬ s.timeout ≤ 0.0
  replication : ∀ n, s.replication = some n → 1 ≤ n
  leaseTimeout : ¬ s.leaseTimeout < 0.0
  pollInterval : ¬ s.pollInterval ≤ 0.0

/-- The check complains of the first setting that is out of range. -/
theorem check_eq (s : Settings) : s.check =
    if ¬ (s.scheme = "http" ∨ s.scheme = "https") then .error (.unknownScheme s.scheme)
    else if s.timeout ≤ 0.0 then .error (.timeoutNotPositive s.timeout)
    else match s.replication.filter (· < 1) with
      | some n => .error (.replicationTooSmall n)
      | none =>
        if s.leaseTimeout < 0.0 then .error (.leaseTimeoutNegative s.leaseTimeout)
        else if s.pollInterval ≤ 0.0 then .error (.pollIntervalNotPositive s.pollInterval)
        else .ok () := by
  unfold check
  by_cases hscheme : s.scheme = "http" ∨ s.scheme = "https"
  case neg => rw [if_neg hscheme, if_pos hscheme]; rfl
  rw [if_pos hscheme, if_neg (not_not_intro hscheme)]
  dsimp only
  by_cases htimeout : s.timeout ≤ 0.0
  case pos => rw [if_pos htimeout, if_pos htimeout]; rfl
  rw [if_neg htimeout, if_neg htimeout]
  cases s.replication with
  | none =>
    rw [Option.filter_none]
    dsimp only
    split <;> rfl
  | some n =>
    have hfilter : (some n).filter (· < 1) = if n < 1 then some n else none := by
      simp only [Option.filter_some, decide_eq_true_eq]
    rw [hfilter]
    dsimp only
    by_cases hn : n < 1
    case pos => rw [if_pos hn, if_pos hn]; rfl
    rw [if_neg hn, if_neg hn]
    split <;> rfl

/-- **The check accepts what has nothing out of range.** -/
theorem check_eq_ok_iff : s.check = .ok () ↔ s.Passes := by
  rw [check_eq]
  split
  next hscheme => simpa using fun h : s.Passes => hscheme h.scheme
  next hscheme =>
  split
  next htimeout => simpa using fun h : s.Passes => h.timeout htimeout
  next htimeout =>
  split
  next n hn =>
    obtain ⟨hsome, hsmall⟩ := Option.filter_eq_some_iff.mp hn
    have hnot : ¬ s.Passes := fun h => by
      have := h.replication n hsome
      have := of_decide_eq_true hsmall
      omega
    simpa using hnot
  next hreplication =>
  split
  next hlease => simpa using fun h : s.Passes => h.leaseTimeout hlease
  next hlease =>
  split
  next hpoll => simpa using fun h : s.Passes => h.pollInterval hpoll
  next hpoll =>
    have henough : ∀ n, s.replication = some n → 1 ≤ n := by
      simpa [Option.filter_eq_none_iff] using hreplication
    exact iff_of_true rfl ⟨Decidable.not_not.mp hscheme, htimeout, henough, hlease, hpoll⟩

/-- What the check complains of is a value. -/
theorem isOfValue_of_check {f : SettingsError} (h : s.check = .error f) : f.isOfValue = true := by
  rw [check_eq] at h
  repeat' split at h
  all_goals cases h
  all_goals rfl

end Settings

end NamenodeShell
