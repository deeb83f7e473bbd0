import NamenodeShell.Proofs.Session.Routine

/-!
# What every line keeps

A line may do more than its routine: a `get` closes a stream and puts a file on the disk. A law that
allows this too is obeyed by every line (`Session.obeys_execute`), so for such a law there are five
things to look at and not every command.

Of this kind are the laws of what is logged (`Surroundings.Grows`): what has been logged stays, and
what comes to it is of some kind, when that is a kind of all *discreet* events. A prompt is not
discreet, nor is the release of the connection. These are the business of whoever takes the lines.
-/
set_option autoImplicit false

namespace NamenodeShell

open Shell

/-- **A thorough law** allows everything that lines do. -/
class Thorough (T : Surroundings → Surroundings → Prop) : Prop extends Routine T where
  closing (stream : Nat) (w : Surroundings) : T w { w with log := w.log ++ [.closed stream] }
  storing (d : Disk) (w : Surroundings) : T w { w with disk := d }

section

variable {T : Surroundings → Surroundings → Prop} [Thorough T]

/-- What is put on the disk is put there at once, -/
theorem Shell.obeys_setDisk (d : Disk) : Obeys T (setDisk d) :=
  fun w => Thorough.storing d w

/-- and a stream that is read is closed. -/
theorem Client.obeys_readAll (c : Client) (d : Download) (size : Option Nat) :
    Obeys T (c.readAll d size) :=
  obeys_bind (fun w => Thorough.closing d.stream w) fun _ => obeys_pure _

/-- **A download** asks, opens, creates the file, reads the stream, which closes it, and stores what
came of it. -/
theorem Transfer.obeys_get (c : Client) (source localDir : String) :
    Obeys T (get c source localDir) := by
  refine obeys_bind (Client.obeys_exists (Routine.allows _)) fun there => ?_
  cases there with
  | false => exact obeys_throw _
  | true =>
    refine obeys_bind obeys_disk fun d => ?_
    simp only
    split
    next => exact obeys_throw _
    next =>
      refine obeys_bind (Client.obeys_openFile (Routine.allows _)) fun download => ?_
      refine obeys_bind (obeys_createLocal _ _) fun _ => ?_
      refine obeys_bind (c.obeys_readAll download _) fun read => ?_
      refine obeys_bind (obeys_createLocal _ _) fun d => obeys_bind (obeys_setDisk d) fun _ => ?_
      cases read.2 with
      | some f => exact obeys_throw f
      | none => exact obeys_pure _

namespace Session

variable (s : Session)

/-- `get` is a download and its report. -/
theorem obeys_get (name : String) : Obeys T (s.get name) :=
  obeys_bind (obeys_lift _) fun _ => obeys_bind (obeys_lift _) fun _ =>
    obeys_bind (Transfer.obeys_get _ _ _) fun t => obeys_report _ t

/-- **Every line obeys a thorough law.** -/
theorem obeys_execute (line : String) : Obeys T (s.execute line) := by
  -- All that is left is a `get` of a bare name, the one line whose transfer does more than the
  -- routine.
  rcases s.obeys_execute_or_get (T := T) line with h | ⟨name, cwd, hline, -, -⟩
  · exact h
  · rw [execute_eq (v := .get) (by rw [hline]), hline]
    exact obeys_tryCatch (obeys_unchanged (s.obeys_get name)) (s.obeys_recover .get)

end Session

end

/-! ## Discretion -/

/-- The text of a prompt. -/
def Event.prompt? : Event → Option String
  | .prompted text => some text
  | _ => none

/-- An event that is no business of those who take lines: neither a prompt nor a release. -/
def Event.isDiscreet : Event → Bool
  | .prompted _ | .released => false
  | _ => true

/-- Asides are discreet. -/
theorem Event.isDiscreet_of_isAside {e : Event} (h : e.isAside = true) :
    e.isDiscreet = true := by
  cases e <;> first | rfl | cases h

/-- Among discreet events there is no prompt. -/
theorem Event.filterMap_prompt?_eq_nil {events : List Event}
    (h : ∀ e ∈ events, e.isDiscreet = true) : events.filterMap Event.prompt? = [] := by
  rw [List.filterMap_eq_nil_iff]
  intro e he
  have hdiscreet := h e he
  cases e <;> first | rfl | cases hdiscreet

/-- Discreet events are among those of a kind. -/
class Admits (P : Event → Prop) : Prop where
  discreet (e : Event) (he : e.isDiscreet = true) : P e

namespace Surroundings

/-- **The log grows**, by events of a kind. -/
def Grows (P : Event → Prop) (w w' : Surroundings) : Prop :=
  ∃ events, w'.log = w.log ++ events ∧ ∀ e ∈ events, P e

/-- **Discretion**: the log grows by discreet events. -/
abbrev Discreet : Surroundings → Surroundings → Prop :=
  Grows (·.isDiscreet = true)

section

variable {P : Event → Prop}

/-- One event of the kind makes the log grow, -/
theorem Grows.of_log {e : Event} (he : P e) (w : Surroundings) {w' : Surroundings}
    (hlog : w'.log = w.log ++ [e]) : Grows P w w' := by
  refine ⟨[e], hlog, ?_⟩
  intro e' he'
  rwa [List.mem_singleton.mp he']

/-- and so does none. -/
theorem Grows.of_log_eq {w w' : Surroundings} (hlog : w'.log = w.log) : Grows P w w' :=
  ⟨[], by rw [hlog, List.append_nil], fun _ he => nomatch he⟩

instance : IsPreorder Surroundings (Grows P) where
  refl _ := .of_log_eq rfl
  trans := by
    rintro w w' w'' ⟨events, hlog, hevents⟩ ⟨events', hlog', hevents'⟩
    refine ⟨events ++ events', by rw [hlog', hlog, List.append_assoc], ?_⟩
    intro e he
    exact (List.mem_append.mp he).elim (hevents e) (hevents' e)

instance [Admits P] : Thorough (Grows P) where
  aside he w := .of_log (Admits.discreet _ (Event.isDiscreet_of_isAside he)) w rfl
  passing _ _ := .of_log_eq rfl
  allows _ w := .of_log (Admits.discreet _ rfl) w rfl
  closing _ w := .of_log (Admits.discreet _ rfl) w rfl
  storing _ _ := .of_log_eq rfl

end

end Surroundings

instance : Admits (·.isDiscreet = true) where
  discreet _ he := he

/-- Whoever is discreet does not give the connection back. -/
instance : Admits (· ≠ .released) where
  discreet e he := by
    rintro rfl
    cases he

end NamenodeShell
