import NamenodeShell.Proofs.Shell.Laws

/-!
# Interruptions

The person at the terminal can interrupt the shell while it waits for an answer. A computation
*heeds* interruptions when it ends with one just where one of its exchanges was interrupted: it
makes none up, and it swallows none.

The notion carries over from the parts of a computation to the whole (`Heeds.bind`), and over a
rescue that hands interruptions on (`Heeds.tryCatch`). What asks for nothing heeds them when it
never ends with one (`heeds_of_silent`); of what is merely computed that is said by `Undisturbed`.
-/
set_option autoImplicit false

namespace NamenodeShell

open Shell

/-! ## Results -/

/-- **A result that is no interruption.** -/
def Undisturbed {α : Type} (x : Except Failure α) : Prop :=
  x ≠ .error .interrupted

section

variable {α β : Type}

theorem undisturbed_ok (a : α) : Undisturbed (.ok a) := nofun

theorem undisturbed_error {e : Failure} (h : e ≠ .interrupted) :
    Undisturbed (.error e : Except Failure α) :=
  fun he => h (Except.error.inj he)

/-- A failure handed on is no interruption if it was none. -/
theorem Undisturbed.of_eq_error {x : Except Failure α} {e : Failure} (hx : Undisturbed x)
    (h : x = .error e) : Undisturbed (.error e : Except Failure β) :=
  undisturbed_error fun he => hx (h.trans (congrArg Except.error he))

/-- Looking further into what was found does not disturb it. -/
theorem Undisturbed.bind {x : Except Failure α} {next : α → Except Failure β}
    (hx : Undisturbed x) (hnext : ∀ a, Undisturbed (next a)) : Undisturbed (x >>= next) := by
  cases x with
  | ok a => exact hnext a
  | error e => exact hx.of_eq_error rfl

theorem Undisturbed.map {x : Except Failure α} (hx : Undisturbed x) (f : α → β) :
    Undisturbed (x.map f) := by
  cases x with
  | ok a => exact undisturbed_ok _
  | error e => exact hx.of_eq_error rfl

/-- A list is gone through element by element, so an interruption of it would be one of an element.
-/
theorem undisturbed_mapM {f : α → Except Failure β} (h : ∀ a, Undisturbed (f a)) (as : List α) :
    Undisturbed (as.mapM f) := by
  induction as with
  | nil => exact undisturbed_ok []
  | cons a as ih =>
    rw [List.mapM_cons]
    exact (h a).bind fun _ => ih.bind fun _ => undisturbed_ok _

end

/-- Interruptions are a category of their own. -/
theorem Failure.eq_interrupted_of_category {f : Failure} (h : f.category = .interrupted) :
    f = .interrupted := by
  cases f with
  | interrupted => rfl
  | refused status =>
    simp only [category, statusCategory] at h
    split at h
    next => cases h
    next => split at h <;> cases h
  | reported name text =>
    simp only [category] at h
    unfold reportCategory at h
    split at h <;> cases h
  | unreadable why =>
    cases why with
    | brokenOff b => cases h
    | notJson e =>
      simp only [category] at h
      split at h <;> cases h
  | noWholePart infinite => cases infinite <;> cases h
  | disk cause path => cases cause <;> cases h
  | badMarkup problem => cases problem <;> cases h
  | _ => cases h

/-! ## Computations -/

/-- **Exchanges one of which was interrupted.** -/
def Interrupted (xs : List Exchange) : Prop :=
  ∃ x ∈ xs, x.reply = .interrupted

/-- Where nothing is exchanged nothing is interrupted. -/
theorem not_interrupted_nil : ¬ Interrupted [] := fun ⟨_, hx, _⟩ => nomatch hx

/-- Exchanges that follow each other are interrupted where the former are, or the latter. -/
theorem interrupted_append {xs ys : List Exchange} :
    Interrupted (xs ++ ys) ↔ Interrupted xs ∨ Interrupted ys := by
  simp only [Interrupted, List.mem_append, or_and_right, exists_or]

namespace Shell

variable {α β : Type}

/-- **A computation heeds interruptions** when it ends with one just where an exchange of it was
interrupted. -/
def Heeds (act : Shell α) : Prop :=
  ∀ w, ∃ xs, w.Passed (outcome act w).2 xs ∧
    ((outcome act w).1 = .error .interrupted ↔ Interrupted xs)

/-- An interruption at the end is one among the exchanges. -/
theorem Heeds.interrupted_iff {act : Shell α} (h : Heeds act) (w : Surroundings) :
    (outcome act w).1 = .error .interrupted ↔
      Interrupted (w.exchanges (outcome act w).2) := by
  obtain ⟨xs, hxs, hiff⟩ := h w
  rw [hxs.exchanges_eq]
  exact hiff

/-- **What follows is only done after no interruption.** So the exchanges of the whole are
interrupted just where those of the rest are, once the first part has come to a value. -/
theorem Heeds.bind {act : Shell α} {next : α → Shell β} (h : Heeds act)
    (hnext : ∀ a, Heeds (next a)) : Heeds (act >>= next) := by
  intro w
  obtain ⟨xs, hxs, hiff⟩ := h w
  rw [outcome_bind]
  cases hact : outcome act w with
  | mk result w' =>
    rw [hact] at hxs hiff
    cases result with
    | error e => exact ⟨xs, hxs, by simpa only [Except.error.injEq] using hiff⟩
    | ok a =>
      obtain ⟨ys, hys, hiff'⟩ := hnext a w'
      refine ⟨xs ++ ys, hxs.trans hys, ?_⟩
      -- the first part came to a value, so none of its exchanges was interrupted
      have hnot : ¬ Interrupted xs := fun hx => nomatch hiff.mpr hx
      rw [interrupted_append, or_iff_right hnot]
      exact hiff'

/-- **A rescue that hands interruptions on** heeds them. It is only asked to deal with failures that
are none, and for these it answers itself. -/
theorem Heeds.tryCatch {act : Shell α} {rescue : Failure → Shell α} (h : Heeds act)
    (hrescue : ∀ e, e ≠ .interrupted → Heeds (rescue e))
    (hthrow : rescue .interrupted = throw .interrupted) : Heeds (tryCatch act rescue) := by
  intro w
  obtain ⟨xs, hxs, hiff⟩ := h w
  rw [outcome_tryCatch]
  cases hact : outcome act w with
  | mk result w' =>
    rw [hact] at hxs hiff
    cases result with
    | ok a => exact ⟨xs, hxs, hiff⟩
    | error e =>
      simp only [Except.error.injEq] at hiff
      by_cases he : e = .interrupted
      · subst he
        simp only [hthrow, outcome_throw]
        exact ⟨xs, hxs, by simpa only [true_iff] using hiff⟩
      · obtain ⟨ys, hys, hiff'⟩ := hrescue e he w'
        refine ⟨xs ++ ys, hxs.trans hys, ?_⟩
        -- what is rescued is no interruption, so none of the exchanges before it was interrupted
        have hnot : ¬ Interrupted xs := fun hx => he (hiff.mpr hx)
        rw [interrupted_append, or_iff_right hnot]
        exact hiff'

/-- What asks for nothing and is never interrupted heeds interruptions. -/
theorem heeds_of_silent {act : Shell α} (hsilent : Silent act)
    (h : ∀ w, Undisturbed (outcome act w).1) : Heeds act := by
  intro w
  obtain ⟨xs, hxs, rfl⟩ := hsilent w
  exact ⟨[], hxs, iff_of_false (h w) not_interrupted_nil⟩

theorem heeds_pure (a : α) : Heeds (pure a) :=
  heeds_of_silent (obeys_pure a) fun _ => undisturbed_ok a

theorem heeds_throw {e : Failure} (h : e ≠ .interrupted) : Heeds (throw e : Shell α) :=
  heeds_of_silent (obeys_throw e) fun _ => undisturbed_error h

/-- What is merely computed heeds interruptions when it never comes to one. -/
theorem heeds_lift {x : Except Failure α} (h : Undisturbed x) : Heeds (liftM x : Shell α) :=
  heeds_of_silent (obeys_lift x) fun _ => h

theorem heeds_get : Heeds get :=
  heeds_of_silent obeys_get fun w => undisturbed_ok w

theorem heeds_disk : Heeds disk :=
  heeds_of_silent obeys_disk fun w => undisturbed_ok w.disk

theorem heeds_place : Heeds place :=
  heeds_of_silent obeys_place fun w => undisturbed_ok w.log.length

theorem heeds_now : Heeds now :=
  heeds_of_silent obeys_now fun _ => undisturbed_ok _

theorem heeds_setDisk (d : Disk) : Heeds (setDisk d) :=
  heeds_of_silent (silent_setDisk d) fun _ => undisturbed_ok ()

/-- An event is no interruption, and it is no exchange unless it is a request. -/
theorem heeds_note {e : Event} (he : e.request? = none) : Heeds (note e) :=
  heeds_of_silent (silent_note he) fun _ => undisturbed_ok ()

theorem heeds_warn (source : Source) (text : String) : Heeds (warn source text) :=
  heeds_note rfl

/-- Markup that cannot be shown is a failure of its own kind. -/
theorem heeds_say (markup : String) : Heeds (say markup) := by
  refine heeds_of_silent (obeys_say markup) fun w => ?_
  rw [outcome_say]
  cases Markup.render markup with
  | ok text => exact undisturbed_ok ()
  | error e => exact undisturbed_error nofun

theorem heeds_tell (line : String) : Heeds (tell line) :=
  heeds_say _

theorem heeds_sleep (seconds : Float) : Heeds (sleep seconds) :=
  heeds_of_silent (obeys_sleep seconds) fun _ => undisturbed_ok ()

/-- The disk refuses in its own ways, of which an interruption is none. -/
theorem heeds_onDisk (path : String) (act : Disk → Except Cause α) : Heeds (onDisk path act) := by
  refine heeds_of_silent (obeys_onDisk path act) fun w => ?_
  rw [outcome_onDisk]
  cases act w.disk with
  | ok a => exact undisturbed_ok a
  | error cause => exact undisturbed_error nofun

end Shell

end NamenodeShell
