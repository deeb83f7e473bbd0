import NamenodeShell.Proofs.Shell.Exchange

/-!
# Laws that allow to idle

Two kinds of laws, by what they allow. To idle is to tell something to whoever watches and to let
time pass; the routine of a computation is to idle and to ask the service. Whatever is put together
from these obeys the law (`Obeys`), and it takes two or three cases to see that a law is of the
kind. A law that allows to idle and not every request may allow some of them (`Allows`).

Of the laws of this project, that the disk is spared is a routine one; that all is quiet, and that
the exchanges are of a closed language, allow to idle.
-/
set_option autoImplicit false

namespace NamenodeShell

open Shell

/-- An event by which somebody who watches is told something. -/
def Event.isAside : Event → Bool
  | .warned .. | .slept _ | .waiting _ | .shown _ => true
  | _ => false

/-- A law that allows to idle: asides, and time that passes. -/
class Idle (T : Surroundings → Surroundings → Prop) : Prop extends IsPreorder Surroundings T where
  aside {e : Event} (he : e.isAside = true) (w : Surroundings) : T w { w with log := w.log ++ [e] }
  passing (w : Surroundings) (clock : Clock) : T w { w with clock := clock }

/-- **A law allows a request** when it holds of every exchange of it. -/
def Allows (T : Surroundings → Surroundings → Prop) (request : Request) : Prop :=
  ∀ w, T w (w.exchanged request)

/-- **A routine law** allows to idle and allows all requests. -/
class Routine (T : Surroundings → Surroundings → Prop) : Prop extends Idle T where
  allows (request : Request) : Allows T request

/-! ## Idling -/

namespace Shell

variable {T : Surroundings → Surroundings → Prop} [Idle T]

/-- To tell something to whoever watches is to idle. -/
theorem obeys_note {e : Event} (he : e.isAside = true) : Obeys T (note e) :=
  fun w => Idle.aside he w

theorem obeys_warn (source : Source) (text : String) : Obeys T (warn source text) :=
  obeys_note rfl

/-- A line is shown, or it cannot be and nothing happens. -/
theorem obeys_say (markup : String) : Obeys T (say markup) := by
  intro w
  rw [outcome_say]
  cases Markup.render markup with
  | ok text => exact Idle.aside rfl w
  | error e => exact refl_of T w

theorem obeys_tell (line : String) : Obeys T (tell line) :=
  obeys_say _

/-- A sleep is noted, and then time passes. -/
theorem obeys_sleep (seconds : Float) : Obeys T (sleep seconds) :=
  obeys_bind (obeys_note rfl) fun _ w => Idle.passing w _

end Shell

/-! ## Laws that allow it -/

/-- What is told to whoever watches is not told to the service. -/
theorem Event.request?_of_isAside {e : Event} (h : e.isAside = true) : e.request? = none := by
  cases e <;> first | rfl | cases h

instance {L : List Exchange → Prop} [Closed L] : Idle (Within L) where
  aside he w := ⟨[], .of_log (Event.request?_of_isAside he) w, Closed.nil⟩
  passing w _ := ⟨[], ⟨⟨[], (List.append_nil w.log).symm, rfl⟩, rfl, rfl⟩, Closed.nil⟩

namespace Surroundings

instance : Routine Spared where
  aside he w := .of_log (Event.request?_of_isAside he) w
  passing w _ := ⟨[], ⟨⟨[], (List.append_nil w.log).symm, rfl⟩, rfl, rfl⟩, rfl⟩
  allows request w := .exchanged w request

instance : Idle Quiet where
  aside he w := ⟨.of_log (Event.request?_of_isAside he) w, rfl⟩
  passing w _ := ⟨⟨⟨[], (List.append_nil w.log).symm, rfl⟩, rfl, rfl⟩, rfl⟩

end Surroundings

end NamenodeShell
