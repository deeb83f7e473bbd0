import NamenodeShell.Proofs.Interruption.Operations
import NamenodeShell.Proofs.Session.Commands

/-!
# Commands heed interruptions

Every command heeds interruptions (`Session.heeds_run`), and so does every typed line
(`Session.heeds_execute`): a line ends with an interruption just where one of its exchanges was
interrupted. What commands make up for, and how their failures are reported, never stands in the way
of one.
-/
set_option autoImplicit false

namespace NamenodeShell

open Shell

namespace Session

variable {s : Session}

/-- A name that is not bare is refused as such. -/
theorem undisturbed_bareName (name : String) : Undisturbed (bareName name) := by
  unfold bareName
  split <;> nofun

/-- A remote directory that is no path fails in its own way. -/
theorem undisturbed_child (name : String) (r : Remote) : Undisturbed (r.child name) := by
  cases r <;> nofun

theorem undisturbed_here (r : Remote) : Undisturbed r.here := by
  cases r <;> nofun

/-! ## Commands -/

/-- That the session stays as it is changes nothing about it. -/
theorem heeds_unchanged {act : Shell Unit} (h : Heeds act) : Heeds (s.unchanged act) :=
  h.bind fun _ => heeds_pure _

/-- Lines are shown one after the other. -/
theorem heeds_sayAll (lines : List String) : Heeds (sayAll lines) := by
  induction lines with
  | nil => exact heeds_pure ()
  | cons line rest ih => exact (heeds_say line).bind fun _ => ih

/-- The two exchanges of `mkdir`, after the name has been looked at. -/
theorem heeds_mkdir (name : String) : Heeds (s.mkdir name) := by
  refine (heeds_lift (undisturbed_bareName _)).bind fun _ =>
    (heeds_lift (undisturbed_child _ _)).bind fun path => Client.heeds_exists.bind fun there => ?_
  cases there with
  | true => exact heeds_throw nofun
  | false => exact Client.heeds_makeDirectories.bind fun _ => heeds_tell _

/-- An upload, and the line that says how it went. -/
theorem heeds_put (name : String) : Heeds (s.put name) := by
  refine (heeds_lift (undisturbed_bareName _)).bind fun name => ?_
  simp only
  split
  next => exact (Transfer.heeds_put _).bind fun _ => heeds_tell _
  next => exact Transfer.heeds_needFile.bind fun _ => heeds_throw nofun

/-- A download, and the line that says how it went. -/
theorem heeds_get (name : String) : Heeds (s.get name) :=
  (heeds_lift (undisturbed_bareName _)).bind fun _ =>
    (heeds_lift (undisturbed_child _ _)).bind fun _ =>
    (Transfer.heeds_get _).bind fun _ => heeds_tell _

/-- An addition, the line that says how it went, and another when the file is still open. -/
theorem heeds_append (localName remoteName : String) : Heeds (s.append localName remoteName) := by
  refine (heeds_lift (undisturbed_bareName _)).bind fun _ =>
    (heeds_lift (undisturbed_bareName _)).bind fun _ =>
    (heeds_lift (undisturbed_child _ _)).bind fun _ =>
    (Transfer.heeds_append _ _).bind fun t => (heeds_tell _).bind fun _ => ?_
  split
  next => exact heeds_say _
  next => exact heeds_pure _

/-- The two exchanges of `delete`, after the name has been looked at. -/
theorem heeds_delete (name : String) : Heeds (s.delete name) := by
  refine (heeds_lift (undisturbed_bareName _)).bind fun _ =>
    (heeds_lift (undisturbed_child _ _)).bind fun path => Client.heeds_exists.bind fun there => ?_
  cases there with
  | false => exact heeds_throw nofun
  | true => exact Client.heeds_delete.bind fun _ => heeds_tell _

/-- The two exchanges of `ls`. What cannot be listed of the answer fails after the lines that could
be. -/
theorem heeds_ls : Heeds s.ls := by
  refine (heeds_lift (undisturbed_here _)).bind fun path =>
    Client.heeds_isDirectory.bind fun there => ?_
  cases there with
  | false => exact (heeds_tell _).bind fun _ => heeds_pure _
  | true =>
    refine Client.heeds_list.bind fun rows => (heeds_sayAll _).bind fun _ => ?_
    split
    next f hf =>
      refine heeds_throw ?_
      rintro rfl
      exact Listing.reportedLines_ne_interrupted rows hf
    next => exact heeds_pure ()

theorem heeds_lls : Heeds s.lls := by
  refine Heeds.bind (heeds_disk.bind fun d => ?_) fun _ => heeds_sayAll _
  split
  next => exact heeds_pure _
  next => exact heeds_throw nofun

theorem heeds_showRemote : Heeds s.showRemote := by
  unfold showRemote
  split
  next => exact heeds_tell _
  next => exact heeds_throw nofun

/-- The questions of `cd`: whether a directory is there, and if not, whether anything is. -/
theorem heeds_cd (target : String) : Heeds (s.cd target) := by
  unfold cd
  split
  next current _ =>
    refine Heeds.bind ?_ fun _ => heeds_pure _
    unfold Navigation.remote
    split
    next => exact heeds_pure _
    next =>
      refine Client.heeds_isDirectory.bind fun there => ?_
      cases there with
      | true => exact heeds_pure _
      | false =>
        refine Client.heeds_exists.bind fun there => ?_
        cases there with
        | true => exact heeds_throw nofun
        | false => exact heeds_throw nofun
  next => exact heeds_throw nofun

theorem heeds_lcd (target : String) : Heeds (s.lcd target) := by
  refine heeds_disk.bind fun d => (heeds_lift ?_).bind fun _ => heeds_pure _
  unfold Navigation.local
  split
  next => exact undisturbed_ok _
  next => split <;> nofun

theorem heeds_complain (v : Verb) : Heeds (complain v) :=
  (heeds_say _).bind fun _ => heeds_say _

/-- **Every command heeds interruptions**, whatever its arguments are. -/
theorem heeds_run (v : Verb) (args : List String) : Heeds (s.run v args) := by
  unfold run
  split
  next name => exact heeds_unchanged (heeds_mkdir name)
  next name => exact heeds_unchanged (heeds_put name)
  next name => exact heeds_unchanged (heeds_get name)
  next a b => exact heeds_unchanged (heeds_append a b)
  next name => exact heeds_unchanged (heeds_delete name)
  next => exact heeds_unchanged heeds_ls
  next => exact heeds_unchanged heeds_showRemote
  next target =>
    split
    next => exact heeds_unchanged heeds_showRemote
    next => exact (heeds_cd target).bind fun _ => heeds_pure _
  next => exact heeds_unchanged heeds_lls
  next => exact heeds_unchanged (heeds_tell _)
  next target =>
    split
    next => exact heeds_unchanged (heeds_tell _)
    next => exact (heeds_lcd target).bind fun _ => heeds_pure _
  next => exact heeds_unchanged (heeds_tell _)
  next => exact heeds_pure _
  next => exact heeds_unchanged (heeds_complain _)

/-! ## Lines -/

/-- What recovers a command hands interruptions on. -/
theorem heeds_recover {act : Shell (Session × Bool)} (h : Heeds act) (v : Verb) :
    Heeds (tryCatch act (s.recover v)) := by
  refine h.tryCatch (fun f hf => ?_) rfl
  rw [recover, if_neg fun hcategory => hf (Failure.eq_interrupted_of_category hcategory)]
  exact heeds_unchanged (heeds_say _)

/-- **Every line heeds interruptions.** -/
theorem heeds_execute (line : String) : Heeds (s.execute line) := by
  by_cases hverb : ∃ v : Verb, (Command.ofLine line).name = v.word
  · obtain ⟨v, hv⟩ := hverb
    rw [execute_eq hv]
    exact heeds_recover (heeds_run v _) v
  · rw [not_exists] at hverb
    rw [execute_of_unknown hverb]
    split
    next => exact heeds_pure _
    next => exact heeds_unchanged ((heeds_say _).bind fun _ => heeds_say _)

end Session

end NamenodeShell
