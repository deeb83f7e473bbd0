import NamenodeShell.Proofs.Replies

/-!
# Refusals that explain themselves

The failures that the shell tells apart are its own (`Failure.isOwn`). Of the replies that refuse,
those bring about one of them that explain themselves (`Reply.Explains`): faults on the way, and
refusing responses whose body is no JSON, or an object that reports as much as it should
(`Client.isOwn_refusal`). A body that cannot be read is no such failure, and neither is anything
else that is wrong with an accepted response; so for a question that is answered by one response
`Client.isOwn_of_heard` says which replies make it fail in one of the shell's own ways.
-/
set_option autoImplicit false

namespace NamenodeShell

/-- **A value that holds no others.** -/
def Json.isFlat : Json → Bool
  | .list _ | .object _ => false
  | _ => true

/-- What is wrong with a text that is seen to be unreadable. -/
def unreadableIn {α : Type} : Except Failure α → Option Unreadable
  | .error (.unreadable why) => some why
  | _ => none

/-- What is seen to be unreadable is a failure to read. -/
theorem eq_error_of_unreadableIn {α : Type} {x : Except Failure α} {why : Unreadable}
    (h : unreadableIn x = some why) : x = .error (.unreadable why) := by
  unfold unreadableIn at h
  split at h
  next why' => rw [Option.some.inj h]
  next => cases h

namespace Reply

/-- What a refusal may have to report: nothing, or a failure under a name that is one value. -/
def Reports : Option Json → Prop
  | none => True
  | some (.object report) => ((report.lookup "exception").getD .null).isFlat = true
  | some _ => False

/-- **A refusal that explains itself**: a fault on the way, or a refusing response whose body is no
JSON, or an object that reports as much as it should. -/
def Explains : Reply → Prop
  | .fault _ => True
  | .response r => r.isRefusal = true ∧
    ((∃ why, r.json = .error why ∧ why.isOtherText = true) ∨
      ∃ members, r.json = .ok (.object members) ∧
        Reports ((members.lookup "RemoteException").filter Json.truthy))
  | .interrupted => False

end Reply

namespace Failure

/-- A failure is one of the shell's own just where its category is one of the five that the shell
has. -/
theorem isOwn_iff {f : Failure} : f.isOwn = true ↔
    f.category ∈ [.notFound, .alreadyExists, .invalidInput, .remote, .unavailable] := by
  unfold isOwn
  generalize f.category = kind
  cases kind <;> simp

/-- A status alone always means one of these, -/
theorem isOwn_refused (status : Nat) : (refused status).isOwn = true := by
  apply isOwn_iff.mpr
  simp only [category, statusCategory]
  split
  next => decide
  next => split <;> decide

/-- a report does whatever it reports, -/
theorem isOwn_reported (name text : Json) : (reported name text).isOwn = true := by
  apply isOwn_iff.mpr
  simp only [category]
  unfold reportCategory
  split <;> decide

/-- and a body that cannot be read never does. -/
theorem isOwn_unreadable (why : Unreadable) : (unreadable why).isOwn = false := by
  cases why with
  | brokenOff b => rfl
  | notJson e =>
    obtain ⟨problem⟩ := e
    cases problem <;> rfl

end Failure

namespace Client

/-- **A refusal with an object for a body** means one of the shell's own failures just where it
reports nothing, or a failure under a name that can be looked up. -/
theorem isOwn_reportFailure (status : Nat) (members : List (String × Json)) :
    (reportFailure status (.object members)).isOwn = true ↔
      Reply.Reports ((members.lookup "RemoteException").filter Json.truthy) := by
  unfold reportFailure
  simp only
  cases (members.lookup "RemoteException").filter Json.truthy with
  | none => exact iff_of_true (Failure.isOwn_refused status) trivial
  | some v =>
    cases v with
    | object report =>
      simp only [Reply.Reports]
      cases (report.lookup "exception").getD .null with
      | list _ => exact iff_of_false Bool.false_ne_true Bool.false_ne_true
      | object _ => exact iff_of_false Bool.false_ne_true Bool.false_ne_true
      | _ => exact iff_of_true (Failure.isOwn_reported _ _) rfl
    | _ => exact iff_of_false Bool.false_ne_true id

/-- **What a refusing response means is one of the shell's own failures just where it explains
itself.** -/
theorem isOwn_refusal {r : Response} (hr : r.isRefusal = true) :
    (refusal r).isOwn = true ↔ (Reply.response r).Explains := by
  unfold refusal
  simp only [Reply.Explains, hr, true_and]
  cases hjson : r.json with
  | error why =>
    simp only
    split
    -- Text that is no JSON leaves the status to go by; a body that breaks off or is too deep does
    -- not.
    next hother => exact iff_of_true (Failure.isOwn_refused _) (Or.inl ⟨why, rfl, hother⟩)
    next hother =>
      rw [Failure.isOwn_unreadable]
      refine iff_of_false Bool.false_ne_true ?_
      rintro (⟨why', hwhy, hother'⟩ | ⟨members, hmembers, -⟩)
      · cases hwhy
        exact hother hother'
      · cases hmembers
  | ok body =>
    cases body with
    | object members =>
      rw [isOwn_reportFailure]
      simp
    | _ =>
      refine iff_of_false Bool.false_ne_true ?_
      rintro (⟨why, hwhy, -⟩ | ⟨members, hmembers, -⟩)
      · cases hwhy
      · cases hmembers

/-- What is wrong with an object that lacks a member, or with what should be one, is none of the
shell's own failures. -/
theorem isOwn_of_sub {name : String} {body : Json} {f : Failure} (h : body.sub name = .error f) :
    f.isOwn = false := by
  cases body with
  | object members =>
    rw [sub_object] at h
    split at h
    next => cases h
    next =>
      cases h
      rfl
  | _ =>
    cases h
    rfl

/-- **The failures of a question that the shell tells apart** are those of refusals that explain
themselves, when none of them comes from what an accepted response holds. -/
theorem isOwn_of_heard {α : Type} {c : Client} {look : Response → Except Failure α} {reply : Reply}
    {f : Failure} (hlook : ∀ r f, look r = .error f → f.isOwn = false)
    (h : c.heard look reply = .error f) : f.isOwn = true ↔ reply.Explains := by
  cases reply with
  | fault fault =>
    cases h
    cases fault <;> exact iff_of_true rfl trivial
  | interrupted =>
    cases h
    exact iff_of_false Bool.false_ne_true id
  | response r =>
    unfold heard at h
    rw [verdict_response] at h
    split at h
    next hr =>
      cases h
      exact isOwn_refusal hr
    next hr =>
      rw [hlook r f h]
      exact iff_of_false Bool.false_ne_true fun hexplains => hr hexplains.1

end Client

end NamenodeShell
