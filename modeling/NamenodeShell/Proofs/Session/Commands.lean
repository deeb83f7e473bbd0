import NamenodeShell.Proofs.Checks
import NamenodeShell.Proofs.Normal
import NamenodeShell.Session

/-!
# What commands exchange

`Verb.operations` lists the operations of each command and `Verb.Needs` the reply it goes on after.
What a command exchanges is a word of the language that the two give for one path
(`follows_run`). For a command on an entry that is the path of the entry its argument names
(`follows_run_entry`), and an argument that is no bare name gets it nowhere (`silent_run_entry`).
A typed line exchanges what the command it names does, and nothing if it names none
(`follows_execute`, `silent_execute`).
-/
set_option autoImplicit false

namespace NamenodeShell

open Shell

/-- **The operations of a command.** -/
def Verb.operations : Verb → List Operation
  | .mkdir => [.status, .makeDirectory]
  | .put => [.status, .create]
  | .get => [.status, .openFile]
  | .append => [.status, .serverDefaults, .setReplication, .append, .blockLocations]
  | .delete => [.status, .delete]
  | .ls => [.status, .list]
  | .cd => [.status]
  | .lls | .lcd | .help | .exit => []

/-- **The reply a command goes on after.** -/
def Verb.Needs : Verb → Reply → Prop
  | .mkdir | .put => Reply.IsNotFound
  | .get | .append | .delete => Reply.IsFound
  | _ => fun _ => True

/-- The argument that names an entry of the remote directory. -/
def Verb.entryName? : Verb → List String → Option String
  | .mkdir, [name] | .put, [name] | .get, [name] | .delete, [name] => some name
  | .append, [_, name] => some name
  | _, _ => none

/-- The path of an entry of the remote directory; a directory that is no path has none. -/
def Remote.entry (name : String) : Remote → String
  | .path dir => Path.remoteChild dir name
  | .value _ => ""

/-- Every command is found by its name. -/
theorem Verb.ofWord?_word (v : Verb) : Verb.ofWord? v.word = some v := by
  cases v <;> decide

/-- A command is found by its own name alone, -/
theorem Verb.word_of_ofWord? {name : String} {v : Verb} (h : Verb.ofWord? name = some v) :
    name = v.word := by
  have hword := List.find?_some (p := fun v : Verb => v.word == name) h
  exact (beq_iff_eq.mp hword).symm

/-- so no two commands have one name. -/
theorem Verb.word_injective {v v' : Verb} (h : v.word = v'.word) : v = v' := by
  have hfound := congrArg Verb.ofWord? h
  rw [ofWord?_word, ofWord?_word] at hfound
  exact Option.some.inj hfound

namespace Session

variable (s : Session)

/-! ## Saying how it went -/

section

variable {T : Surroundings → Surroundings → Prop} [Idle T]

theorem obeys_report (verb : String) (t : Transfer) : Obeys T (report verb t) :=
  obeys_tell _

/-- Lines are shown one after the other. -/
theorem obeys_sayAll (lines : List String) : Obeys T (sayAll lines) := by
  induction lines with
  | nil => exact obeys_pure ()
  | cons line rest ih => exact obeys_bind (obeys_say line) fun _ => ih

/-- Wrong input is answered by two lines, the second of which tells the usage. -/
theorem obeys_complain (v : Verb) : Obeys T (complain v) :=
  obeys_bind (obeys_say _) fun _ => obeys_say _

variable {s} in
theorem obeys_unchanged {act : Shell Unit} (h : Obeys T act) : Obeys T (s.unchanged act) :=
  obeys_bind h fun _ => obeys_pure _

/-- A failure is reported on one line, except an interruption, which is handed on. -/
theorem obeys_recover (v : Verb) (f : Failure) : Obeys T (s.recover v f) := by
  unfold recover
  split
  next => exact obeys_throw f
  next => exact obeys_unchanged (obeys_say _)

/-! ## Commands that ask for nothing -/

/-- The local directory is listed from the disk alone. -/
theorem obeys_lls : Obeys T s.lls := by
  refine obeys_bind (obeys_bind obeys_disk fun d => ?_) fun _ => obeys_sayAll _
  split
  next => exact obeys_pure _
  next => exact obeys_throw _

theorem obeys_showRemote : Obeys T s.showRemote := by
  unfold showRemote
  split
  next => exact obeys_tell _
  next => exact obeys_throw _

/-- Going elsewhere on the disk asks nobody but the disk. -/
theorem obeys_lcd (target : String) : Obeys T (s.lcd target) :=
  obeys_bind obeys_disk fun _ => obeys_bind (obeys_lift _) fun _ => obeys_pure _

end

/-- Something done that leaves the session as it is gives that session. -/
theorem outcome_unchanged {s : Session} {act : Shell Unit} {w w' : Surroundings}
    (h : outcome act w = (.ok (), w')) : outcome (s.unchanged act) w = (.ok (s, true), w') :=
  outcome_bind_of_ok h

/-! ## Commands on an entry -/

/-- Something done that leaves the session as it is exchanges the same. -/
theorem follows_unchanged {L : List Exchange → Prop} {act : Shell Unit} (h : Follows L act) :
    Follows L (s.unchanged act) :=
  h.bind_silent fun _ => obeys_pure _

/-- What is no bare name is refused before anything is asked, -/
theorem bareName_of_not_isBare {name : String} (h : Path.isBare name = false) :
    bareName name = .error (.notBare name) := by
  rw [bareName, h]
  rfl

/-- and a bare name is taken as it is typed. -/
theorem bareName_of_isBare {name : String} (h : Path.isBare name = true) :
    bareName name = .ok name := by
  rw [bareName, if_pos h]

variable {s}

/-- A command on an entry: it names a bare name, and the remote directory has a path. -/
theorem follows_child_bind {L : List Exchange → Prop} {α : Type} {name : String}
    {next : String → Shell α} (hnil : L [])
    (hnext : Path.isBare name = true → Follows L (next (s.remote.entry name))) :
    Follows L ((liftM (bareName name) : Shell String) >>= fun n =>
      (liftM (s.remote.child n) : Shell String) >>= next) := by
  cases hbare : Path.isBare name with
  | false =>
    rw [bareName_of_not_isBare hbare, lift_error_bind]
    exact Silent.follows (obeys_throw _) hnil
  | true =>
    rw [bareName_of_isBare hbare, lift_ok_bind]
    have hnext := hnext hbare
    cases hremote : s.remote with
    | path dir =>
      rw [hremote] at hnext
      exact hnext
    -- a remote directory that is no path has no entries, and the failure comes before any request
    | value v => exact Silent.follows (obeys_throw _) hnil

/-- MKDIRS follows after an answer that nothing is there. -/
theorem follows_mkdir (name : String) :
    Follows (Checked s.client (s.remote.entry name) Verb.mkdir.operations Verb.mkdir.Needs)
      (s.mkdir name) := by
  refine follows_child_bind Checked.nil fun _ => ?_
  refine Checked.of_exists (b := false) (fun _ => Client.presence_eq_false.mp) ?_ (obeys_throw _)
  exact obeys_bind (Client.obeys_makeDirectories (Client.allows_of_mem (by decide) (by decide)))
    fun _ => obeys_tell _

/-- CREATE follows after an answer that nothing is there, under the name of the local file. -/
theorem follows_put (name : String) :
    Follows (Checked s.client (s.remote.entry name) Verb.put.operations Verb.put.Needs)
      (s.put name) := by
  unfold put
  cases hbare : Path.isBare name with
  | false =>
    rw [bareName_of_not_isBare hbare, lift_error_bind]
    exact Silent.follows (obeys_throw _) Checked.nil
  | true =>
    rw [bareName_of_isBare hbare, lift_ok_bind]
    cases s.remote with
    | path dir =>
      have hput := Transfer.follows_put s.client (Path.localChild s.localDir name) dir
      -- the transfer takes its name from the local path, which for a bare name is the name typed
      rw [Path.base_localChild (Path.isBare_iff.mp hbare).slash_free] at hput
      exact hput.bind_silent fun t => obeys_report _ t
    | value v =>
      exact Silent.follows (obeys_bind (Transfer.obeys_needFile _) fun _ => obeys_throw _)
        Checked.nil

/-- OPEN follows after an answer that the file is there. -/
theorem follows_get (name : String) :
    Follows (Checked s.client (s.remote.entry name) Verb.get.operations Verb.get.Needs)
      (s.get name) :=
  follows_child_bind Checked.nil fun _ =>
    (Transfer.follows_get s.client _ _).bind_silent fun t => obeys_report _ t

/-- All that an addition asks for is about the remote file, and comes after an answer that it is
there. -/
theorem follows_append (localName remoteName : String) :
    Follows (Checked s.client (s.remote.entry remoteName) Verb.append.operations
      Verb.append.Needs) (s.append localName remoteName) := by
  refine Silent.bind (obeys_lift _) Checked.nil fun _ => follows_child_bind Checked.nil fun _ => ?_
  refine (Transfer.follows_append s.client s.patience _ _).bind_silent fun t => ?_
  refine obeys_bind (obeys_report _ t) fun _ => ?_
  split
  next => exact obeys_say _
  next => exact obeys_pure _

/-- DELETE follows after an answer that something is there. -/
theorem follows_delete (name : String) :
    Follows (Checked s.client (s.remote.entry name) Verb.delete.operations Verb.delete.Needs)
      (s.delete name) := by
  refine follows_child_bind Checked.nil fun _ => ?_
  refine Checked.of_exists (b := true) (fun _ => Client.presence_eq_true.mp) ?_ (obeys_throw _)
  exact obeys_bind (Client.obeys_delete (Client.allows_of_mem (by decide) (by decide)))
    fun _ => obeys_tell _

/-- **A command on an entry asks for it first** and deals with nothing else. -/
theorem follows_run_entry {v : Verb} {args : List String} {name : String}
    (h : v.entryName? args = some name) :
    Follows (Checked s.client (s.remote.entry name) v.operations v.Needs) (s.run v args) := by
  unfold Verb.entryName? at h
  split at h
  next => cases h; exact follows_unchanged s (follows_mkdir name)
  next => cases h; exact follows_unchanged s (follows_put name)
  next => cases h; exact follows_unchanged s (follows_get name)
  next => cases h; exact follows_unchanged s (follows_delete name)
  next localName _ => cases h; exact follows_unchanged s (follows_append localName name)
  next => cases h

/-- A name that is not bare gets a command on an entry nowhere. -/
theorem silent_run_entry {v : Verb} {args : List String} {name : String}
    (h : v.entryName? args = some name) (hbare : Path.isBare name = false) :
    Silent (s.run v args) := by
  have hthrow : ∀ {α : Type} {next : String → Shell α},
      Silent ((liftM (bareName name) : Shell String) >>= next) := by
    intro α next
    rw [bareName_of_not_isBare hbare, lift_error_bind]
    exact obeys_throw _
  unfold Verb.entryName? at h
  split at h
  next => cases h; exact follows_unchanged s hthrow
  next => cases h; exact follows_unchanged s hthrow
  next => cases h; exact follows_unchanged s hthrow
  next => cases h; exact follows_unchanged s hthrow
  next localName _ =>
    cases h
    exact follows_unchanged s (obeys_bind (obeys_lift _) fun _ => hthrow)
  next => cases h

/-! ## The other commands -/

/-- A listing asks for the directory and lists it. -/
theorem follows_ls : ∃ p, Follows (Checked s.client p Verb.ls.operations Verb.ls.Needs) s.ls := by
  unfold ls
  cases s.remote with
  | value v => exact ⟨"", Silent.follows (obeys_throw _) Checked.nil⟩
  | path dir =>
    refine ⟨dir, Checked.of_isDirectory fun b => ?_⟩
    cases b with
    | false => exact obeys_bind (obeys_tell _) fun _ => obeys_pure _
    | true =>
      refine obeys_bind (Client.obeys_list (Client.allows_of_mem (by decide) (by decide)))
        fun rows => ?_
      refine obeys_bind (obeys_sayAll _) fun _ => ?_
      split
      next f _ => exact obeys_throw f
      next => exact obeys_pure ()

/-- Going elsewhere asks for nothing but the place. -/
theorem follows_cd (target : String) :
    ∃ p, Follows (Checked s.client p Verb.cd.operations Verb.cd.Needs) (s.cd target) := by
  unfold cd
  cases s.remote with
  | value v => exact ⟨"", Silent.follows (obeys_throw _) Checked.nil⟩
  | path current =>
    refine ⟨Path.remoteChild current target, ?_⟩
    refine Follows.bind_silent ?_ fun _ => obeys_pure _
    unfold Navigation.remote
    split
    next => exact Silent.follows (obeys_pure _) Checked.nil
    next =>
      refine Checked.of_isDirectory fun b => ?_
      cases b with
      | true => exact obeys_pure _
      | false =>
        refine obeys_bind (Client.obeys_exists (Client.allows_of_mem (by decide) (by decide)))
          fun b => ?_
        cases b with
        | true => exact obeys_throw _
        | false => exact obeys_throw _

variable (s)

/-- **Every command deals with one path**, after asking for it where it needs to. -/
theorem follows_run (v : Verb) (args : List String) :
    ∃ p, Follows (Checked s.client p v.operations v.Needs) (s.run v args) := by
  cases hname : v.entryName? args with
  | some name => exact ⟨_, follows_run_entry hname⟩
  | none =>
    have hsilent : ∀ {v : Verb} {act : Shell (Session × Bool)}, Silent act →
        ∃ p, Follows (Checked s.client p v.operations v.Needs) act :=
      fun h => ⟨"", h.follows Checked.nil⟩
    unfold run
    split
    -- the commands on an entry are dealt with already; the others come in the order of `run`
    next => cases hname
    next => cases hname
    next => cases hname
    next => cases hname
    next => cases hname
    next =>
      obtain ⟨p, hp⟩ := s.follows_ls
      exact ⟨p, follows_unchanged s hp⟩
    next => exact hsilent (follows_unchanged s s.obeys_showRemote)
    next target =>
      split
      next => exact hsilent (follows_unchanged s s.obeys_showRemote)
      next =>
        obtain ⟨p, hp⟩ := s.follows_cd target
        exact ⟨p, hp.bind_silent fun _ => obeys_pure _⟩
    next => exact hsilent (follows_unchanged s s.obeys_lls)
    next => exact hsilent (follows_unchanged s (obeys_tell _))
    next target =>
      split
      next => exact hsilent (follows_unchanged s (obeys_tell _))
      next => exact hsilent (obeys_bind (s.obeys_lcd target) fun _ => obeys_pure _)
    next => exact hsilent (follows_unchanged s (obeys_tell _))
    next => exact hsilent (obeys_pure _)
    next => exact hsilent (follows_unchanged s (obeys_complain _))

/-! ## Lines -/

variable {s}

/-- **A line that names a command carries it out**, and is recovered when it fails. -/
theorem execute_eq {line : String} {v : Verb} (hv : (Command.ofLine line).name = v.word) :
    s.execute line = tryCatch (s.run v (Command.ofLine line).args) (s.recover v) := by
  have hword : v.word ≠ "" := by
    cases v <;> decide
  unfold execute
  simp only [hv, if_neg hword, Verb.ofWord?_word]

/-- **A line exchanges what its command does.** -/
theorem follows_execute {L : List Exchange → Prop} {line : String} {v : Verb}
    (hv : (Command.ofLine line).name = v.word)
    (h : Follows L (s.run v (Command.ofLine line).args)) : Follows L (s.execute line) := by
  rw [execute_eq hv]
  exact h.tryCatch_silent (s.obeys_recover v)

/-- A line that names no command is let be when it is blank, and otherwise complained of. -/
theorem execute_of_unknown {line : String} (h : ∀ v : Verb, (Command.ofLine line).name ≠ v.word) :
    s.execute line = if (Command.ofLine line).name = "" then pure (s, true)
      else s.unchanged (unknown (Command.ofLine line).name) := by
  have hverb : Verb.ofWord? (Command.ofLine line).name = none := by
    refine List.find?_eq_none.mpr fun v _ hv => h v (beq_iff_eq.mp hv).symm
  unfold execute
  simp only [hverb]

/-- A line that names no command exchanges nothing. -/
theorem silent_execute {line : String} (h : ∀ v : Verb, (Command.ofLine line).name ≠ v.word) :
    Silent (s.execute line) := by
  rw [execute_of_unknown h]
  split
  next => exact obeys_pure _
  next => exact follows_unchanged s (obeys_bind (obeys_say _) fun _ => obeys_say _)

/-- A session in the home directory of a user. -/
def sample : Session where
  client := { host := "nn", port := 9870, user := "alice" }
  remote := .path "/user/alice"
  localDir := "/home"

/-- Surroundings in which nobody answers. -/
def unanswered : Surroundings where
  service := []
  disk := { tree := [] }

end Session

end NamenodeShell
