import Mathlib.Order.Defs.Unbundled
import NamenodeShell.Shell

/-!
# Outcomes of computations

What a computation of the shell comes to: how it ends and the surroundings it leaves. `outcome` is
the view under which computations are reasoned about, with one equation for each way in which they
are put together and one for each primitive.

A **law** is a relation between surroundings that holds when nothing happens and carries over from
step to step. `Obeys` says that a computation keeps a law whatever surroundings it begins in. What
is put together from obedient parts obeys, so a law is checked where something happens and nowhere
else.
-/
set_option autoImplicit false

namespace NamenodeShell.Shell

variable {α β : Type}

/-- **What a computation comes to**: how it ends, and the surroundings it leaves. -/
def outcome (act : Shell α) (w : Surroundings) : Except Failure α × Surroundings :=
  act.run.run w

/-! ## Putting computations together -/

@[simp]
theorem outcome_pure (a : α) (w : Surroundings) : outcome (pure a) w = (.ok a, w) := rfl

@[simp]
theorem outcome_throw (e : Failure) (w : Surroundings) :
    outcome (throw e : Shell α) w = (.error e, w) := rfl

@[simp]
theorem outcome_lift (x : Except Failure α) (w : Surroundings) :
    outcome (liftM x : Shell α) w = (x, w) := rfl

/-- What is merely computed is no step of its own: a value is handed to what follows, and a failure
ends the computation. -/
@[simp]
theorem lift_ok_bind (a : α) (next : α → Shell β) :
    (liftM (.ok a : Except Failure α) : Shell α) >>= next = next a := rfl

@[simp]
theorem lift_error_bind (e : Failure) (next : α → Shell β) :
    (liftM (.error e : Except Failure α) : Shell α) >>= next = throw e := rfl

/-- **The equation of a computation in two parts**: the second begins where the first has left the
surroundings, and is not begun after a failure. -/
theorem outcome_bind (act : Shell α) (next : α → Shell β) (w : Surroundings) :
    outcome (act >>= next) w = match outcome act w with
      | (.ok a, w') => outcome (next a) w'
      | (.error e, w') => (.error e, w') := by
  unfold outcome
  rw [ExceptT.run_bind, StateT.run_bind]
  cases act.run.run w with
  | mk result w' => cases result <;> rfl

/-- **The equation of a rescue.** It begins in the surroundings that the failure has left: what has
been sent, shown or written by then is not taken back. -/
theorem outcome_tryCatch (act : Shell α) (rescue : Failure → Shell α) (w : Surroundings) :
    outcome (tryCatch act rescue) w = match outcome act w with
      | (.ok a, w') => (.ok a, w')
      | (.error e, w') => outcome (rescue e) w' := by
  unfold outcome
  rw [ExceptT.run_tryCatch, StateT.run_bind]
  cases act.run.run w with
  | mk result w' => cases result <;> rfl

/-- The equation as it is used: what the first part comes to is known. -/
theorem outcome_bind_of_ok {act : Shell α} {next : α → Shell β} {w w' : Surroundings} {a : α}
    (h : outcome act w = (.ok a, w')) : outcome (act >>= next) w = outcome (next a) w' := by
  rw [outcome_bind, h]

theorem outcome_bind_of_error {act : Shell α} {next : α → Shell β} {w w' : Surroundings}
    {e : Failure} (h : outcome act w = (.error e, w')) :
    outcome (act >>= next) w = (.error e, w') := by
  rw [outcome_bind, h]

/-- A computation in two parts that gives a value had a value from its first part. -/
theorem bind_eq_ok {act : Shell α} {next : α → Shell β} {w w'' : Surroundings} {b : β}
    (h : outcome (act >>= next) w = (.ok b, w'')) :
    ∃ a w', outcome act w = (.ok a, w') ∧ outcome (next a) w' = (.ok b, w'') := by
  rw [outcome_bind] at h
  cases hact : outcome act w with
  | mk result w' =>
    rw [hact] at h
    cases result with
    | error e => cases h
    | ok a => exact ⟨a, w', rfl, h⟩

/-! ## Primitives -/

@[simp]
theorem outcome_get (w : Surroundings) : outcome get w = (.ok w, w) := rfl

@[simp]
theorem outcome_modify (change : Surroundings → Surroundings) (w : Surroundings) :
    outcome (modify change) w = (.ok (), change w) := rfl

@[simp]
theorem outcome_note (e : Event) (w : Surroundings) :
    outcome (note e) w = (.ok (), { w with log := w.log ++ [e] }) := rfl

@[simp]
theorem outcome_disk (w : Surroundings) : outcome disk w = (.ok w.disk, w) := rfl

@[simp]
theorem outcome_setDisk (d : Disk) (w : Surroundings) :
    outcome (setDisk d) w = (.ok (), { w with disk := d }) := rfl

@[simp]
theorem outcome_place (w : Surroundings) : outcome place w = (.ok w.log.length, w) := rfl

/-- What the disk gives is the value, and the surroundings stay as they are. -/
theorem outcome_onDisk (path : String) (act : Disk → Except Cause α) (w : Surroundings) :
    outcome (onDisk path act) w = ((act w.disk).mapError (.disk · path), w) := by
  unfold onDisk
  rw [outcome_bind_of_ok (outcome_disk w)]
  cases act w.disk <;> rfl

/-- A line of markup is shown when it can be, and a failure otherwise. -/
theorem outcome_say (markup : String) (w : Surroundings) :
    outcome (say markup) w = match Markup.render markup with
      | .ok text => (.ok (), { w with log := w.log ++ [.shown text] })
      | .error e => (.error (.badMarkup e), w) := by
  unfold say
  cases Markup.render markup <;> rfl

/-- A line that can be shown is shown. -/
theorem outcome_say_of_render {markup : String} {text : Markup.Styled}
    (h : Markup.render markup = .ok text) (w : Surroundings) :
    outcome (say markup) w = (.ok (), { w with log := w.log ++ [.shown text] }) := by
  rw [outcome_say, h]

/-! ## Laws -/

/-- **A computation obeys a law** when it leads from any surroundings to such as the law allows. -/
def Obeys (T : Surroundings → Surroundings → Prop) (act : Shell α) : Prop :=
  ∀ w, T w (outcome act w).2

section

variable {T : Surroundings → Surroundings → Prop} [IsPreorder Surroundings T]

/-- A computation that leaves the surroundings as they are obeys every law. -/
theorem obeys_of_still {act : Shell α} (h : ∀ w, (outcome act w).2 = w) : Obeys T act := by
  intro w
  rw [h w]
  exact refl_of T w

/-- What only looks at the surroundings obeys every law. -/
theorem obeys_pure (a : α) : Obeys T (pure a) :=
  obeys_of_still fun _ => rfl

theorem obeys_throw (e : Failure) : Obeys T (throw e : Shell α) :=
  obeys_of_still fun _ => rfl

theorem obeys_lift (x : Except Failure α) : Obeys T (liftM x : Shell α) :=
  obeys_of_still fun _ => rfl

theorem obeys_get : Obeys T get :=
  obeys_of_still fun _ => rfl

theorem obeys_disk : Obeys T disk :=
  obeys_of_still fun _ => rfl

theorem obeys_place : Obeys T place :=
  obeys_of_still fun _ => rfl

theorem obeys_now : Obeys T now :=
  obeys_of_still fun _ => rfl

/-- Asking the disk changes nothing, also when it refuses. -/
theorem obeys_onDisk (path : String) (act : Disk → Except Cause α) : Obeys T (onDisk path act) :=
  obeys_of_still fun w => by rw [outcome_onDisk]

/-- What comes behind in a computation leads on from what is in front as the law allows. -/
theorem obeys_behind {act : Shell α} {next : α → Shell β} (hnext : ∀ a, Obeys T (next a))
    (w : Surroundings) : T (outcome act w).2 (outcome (act >>= next) w).2 := by
  rw [outcome_bind]
  cases outcome act w with
  | mk result w' =>
    cases result with
    | error e => exact refl_of T w'
    | ok a => exact hnext a w'

/-- A rescue leads on from what it rescues as the law allows. -/
theorem obeys_rescue {act : Shell α} {rescue : Failure → Shell α}
    (hrescue : ∀ e, Obeys T (rescue e)) (w : Surroundings) :
    T (outcome act w).2 (outcome (tryCatch act rescue) w).2 := by
  rw [outcome_tryCatch]
  cases outcome act w with
  | mk result w' =>
    cases result with
    | ok a => exact refl_of T w'
    | error e => exact hrescue e w'

/-- **A law carries over to the whole from the parts**, by its own transitivity. -/
theorem obeys_bind {act : Shell α} {next : α → Shell β} (h : Obeys T act)
    (hnext : ∀ a, Obeys T (next a)) : Obeys T (act >>= next) :=
  fun w => trans_of T (h w) (obeys_behind hnext w)

/-- And over a rescue, which goes on from what has happened until the failure. -/
theorem obeys_tryCatch {act : Shell α} {rescue : Failure → Shell α} (h : Obeys T act)
    (hrescue : ∀ e, Obeys T (rescue e)) : Obeys T (tryCatch act rescue) :=
  fun w => trans_of T (h w) (obeys_rescue hrescue w)

end

end NamenodeShell.Shell
