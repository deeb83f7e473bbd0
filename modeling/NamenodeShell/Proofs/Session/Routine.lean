import NamenodeShell.Proofs.Session.Commands

/-!
# What all commands but one keep

No command does more around it than to tell something to whoever watches, to let time pass, and to
ask the service, but for `get`, which also closes a stream and puts a file on the disk. So a routine
law is obeyed by every line that is no `get` of a name (`Session.obeys_execute_or_get`), and for a
law of this kind there are three cases to look at and not every command.

What is said of a command in the end, that it is done or has failed, is idle. So a `get` ends where
its transfer does, for every law that allows to idle (`Session.after_get`).
-/
set_option autoImplicit false

namespace NamenodeShell

open Shell

namespace Session

/-- **A `get` ends where its transfer does**, but for asides. -/
theorem after_get {T : Surroundings → Surroundings → Prop} [Idle T] (s : Session)
    {cwd name line : String} (hline : Command.ofLine line = ⟨Verb.get.word, [name]⟩)
    (hremote : s.remote = .path cwd) (hbare : Path.isBare name = true) (w : Surroundings) :
    T (outcome (Transfer.get s.client (Path.remoteChild cwd name) s.localDir) w).2
      (outcome (s.execute line) w).2 := by
  have hget : s.get name =
      Transfer.get s.client (Path.remoteChild cwd name) s.localDir >>= report "Downloaded" := by
    unfold get
    rw [bareName_of_isBare hbare, lift_ok_bind, hremote]
    rfl
  rw [execute_eq (v := .get) (by rw [hline]), hline]
  -- Behind the transfer there are its report and what is made of a failure, which are asides.
  refine trans_of T ?_ (obeys_rescue (s.obeys_recover .get) w)
  change T _ (outcome (s.unchanged (s.get name)) w).2
  refine trans_of T ?_ (obeys_behind (fun _ => obeys_pure _) w)
  rw [hget]
  exact obeys_behind (fun t => obeys_report _ t) w

end Session

variable {T : Surroundings → Surroundings → Prop} [Routine T]

/-! ## Transfers that leave the disk alone -/

/-- CREATE and APPEND are two requests and no more. -/
theorem Client.obeys_write (c : Client) (op : Operation) (path : String)
    (more : List (String × String)) (data : Payload) : Obeys T (c.write op path more data) := by
  refine obeys_bind (obeys_perform (Routine.allows _)) fun r =>
    obeys_bind (obeys_lift _) fun target => ?_
  split
  next => exact obeys_throw _
  next => exact obeys_bind (obeys_send (Routine.allows _)) fun _ => obeys_pure _

namespace Transfer

variable (c : Client) (source : String)

/-- An upload looks at a local file, asks, creates and sends. -/
theorem obeys_put (remoteDir : String) : Obeys T (put c source remoteDir) := by
  refine obeys_bind (obeys_needFile source) fun _ => ?_
  refine obeys_bind (Client.obeys_exists (Routine.allows _)) fun there => ?_
  cases there with
  | true => exact obeys_throw _
  | false =>
    refine obeys_bind (obeys_onDisk _ _) fun place => ?_
    refine obeys_bind (c.obeys_write _ _ _ _) fun _ => ?_
    exact obeys_bind (obeys_sizeAt place) fun _ => obeys_pure _

/-- An addition looks at a local file, asks, sets the replication, adds and waits for the lease. -/
theorem obeys_append (patience : Lease.Patience) (dest : String) :
    Obeys T (append c patience source dest) := by
  refine obeys_bind (obeys_needFile source) fun _ => ?_
  refine obeys_bind (Client.obeys_exists (Routine.allows _)) fun there => ?_
  cases there with
  | false => exact obeys_throw _
  | true =>
    refine obeys_bind (Client.obeys_defaultReplication (Routine.allows _)) fun n => ?_
    refine obeys_bind (Client.obeys_setReplication (Routine.allows _)) fun _ => ?_
    refine obeys_bind (obeys_onDisk _ _) fun place => ?_
    refine obeys_bind (c.obeys_write _ _ _ _) fun _ => ?_
    refine obeys_bind (obeys_sizeAt place) fun _ => ?_
    exact obeys_bind (Lease.obeys_await (Routine.allows _) patience) fun _ => obeys_pure _

end Transfer

/-! ## Commands -/

namespace Session

variable (s : Session)

/-- `mkdir` asks for the path and makes it. -/
theorem obeys_mkdir (name : String) : Obeys T (s.mkdir name) := by
  refine obeys_bind (obeys_lift _) fun _ => obeys_bind (obeys_lift _) fun path => ?_
  refine obeys_bind (Client.obeys_exists (Routine.allows _)) fun there => ?_
  cases there with
  | true => exact obeys_throw _
  | false =>
    exact obeys_bind (Client.obeys_makeDirectories (Routine.allows _)) fun _ => obeys_tell _

/-- `put` uploads a file of the local directory, and for another path only sees whether it is one.
-/
theorem obeys_put (name : String) : Obeys T (s.put name) := by
  refine obeys_bind (obeys_lift _) fun name => ?_
  simp only
  split
  next => exact obeys_bind (Transfer.obeys_put _ _ _) fun t => obeys_report _ t
  next => exact obeys_bind (Transfer.obeys_needFile _) fun _ => obeys_throw _

/-- `append` adds a local file to a remote one, and tells how long it waited if it gave up. -/
theorem obeys_append (localName remoteName : String) : Obeys T (s.append localName remoteName) := by
  refine obeys_bind (obeys_lift _) fun _ => obeys_bind (obeys_lift _) fun _ =>
    obeys_bind (obeys_lift _) fun _ => ?_
  refine obeys_bind (Transfer.obeys_append _ _ _ _) fun t => ?_
  refine obeys_bind (obeys_report _ t) fun _ => ?_
  split
  next => exact obeys_say _
  next => exact obeys_pure _

/-- `delete` asks for the path and removes it. -/
theorem obeys_delete (name : String) : Obeys T (s.delete name) := by
  refine obeys_bind (obeys_lift _) fun _ => obeys_bind (obeys_lift _) fun path => ?_
  refine obeys_bind (Client.obeys_exists (Routine.allows _)) fun there => ?_
  cases there with
  | false => exact obeys_throw _
  | true => exact obeys_bind (Client.obeys_delete (Routine.allows _)) fun _ => obeys_tell _

/-- `ls` asks whether the directory is there and lists it. -/
theorem obeys_ls : Obeys T s.ls := by
  refine obeys_bind (obeys_lift _) fun path => ?_
  refine obeys_bind (Client.obeys_isDirectory (Routine.allows _)) fun there => ?_
  cases there with
  | false => exact obeys_bind (obeys_tell _) fun _ => obeys_pure _
  | true =>
    refine obeys_bind (Client.obeys_list (Routine.allows _)) fun rows => ?_
    refine obeys_bind (obeys_sayAll _) fun _ => ?_
    split
    next f _ => exact obeys_throw f
    next => exact obeys_pure ()

/-- `cd` asks whether the target is a directory and, if not, whether it is there at all. -/
theorem obeys_cd (target : String) : Obeys T (s.cd target) := by
  unfold cd
  split
  next current _ =>
    refine obeys_bind ?_ fun _ => obeys_pure _
    unfold Navigation.remote
    split
    next => exact obeys_pure _
    next =>
      refine obeys_bind (Client.obeys_isDirectory (Routine.allows _)) fun there => ?_
      cases there with
      | true => exact obeys_pure _
      | false =>
        refine obeys_bind (Client.obeys_exists (Routine.allows _)) fun there => ?_
        cases there with
        | true => exact obeys_throw _
        | false => exact obeys_throw _
  next => exact obeys_throw _

/-- **Every command but `get` obeys a routine law**, whatever its arguments are. -/
theorem obeys_run {v : Verb} (hv : v ≠ .get) (args : List String) : Obeys T (s.run v args) := by
  unfold run
  split
  next name => exact obeys_unchanged (s.obeys_mkdir name)
  next name => exact obeys_unchanged (s.obeys_put name)
  -- One case for every command; the one of `get` is left out by the hypothesis.
  next => exact absurd rfl hv
  next a b => exact obeys_unchanged (s.obeys_append a b)
  next name => exact obeys_unchanged (s.obeys_delete name)
  next => exact obeys_unchanged s.obeys_ls
  next => exact obeys_unchanged s.obeys_showRemote
  next target =>
    split
    next => exact obeys_unchanged s.obeys_showRemote
    next => exact obeys_bind (s.obeys_cd target) fun _ => obeys_pure _
  next => exact obeys_unchanged s.obeys_lls
  next => exact obeys_unchanged (obeys_tell _)
  next target =>
    split
    next => exact obeys_unchanged (obeys_tell _)
    next => exact obeys_bind (s.obeys_lcd target) fun _ => obeys_pure _
  next => exact obeys_unchanged (obeys_tell _)
  next => exact obeys_pure _
  next => exact obeys_unchanged (obeys_complain _)

/-! ## Lines -/

/-- A `get` that does not come to its transfer obeys a routine law. -/
theorem obeys_run_get {args : List String} (h : ∀ name cwd, args = [name] →
    s.remote = .path cwd → Path.isBare name = false) : Obeys T (s.run .get args) := by
  unfold run
  split
  case h_3 name _ =>
    refine obeys_unchanged ?_
    unfold get
    cases hbare : Path.isBare name with
    | false =>
      rw [bareName_of_not_isBare hbare, lift_error_bind]
      exact obeys_throw _
    | true =>
      rw [bareName_of_isBare hbare, lift_ok_bind]
      cases hremote : s.remote with
      | path cwd => rw [h name cwd rfl hremote] at hbare; cases hbare
      | value v => exact obeys_throw _
  case h_14 => exact obeys_unchanged (obeys_complain _)
  all_goals contradiction

/-- **Every line obeys a routine law, or is a `get` of a bare name.** -/
theorem obeys_execute_or_get (line : String) : Obeys T (s.execute line) ∨
    ∃ name cwd, Command.ofLine line = ⟨Verb.get.word, [name]⟩ ∧ Path.isBare name = true ∧
      s.remote = .path cwd := by
  by_cases hverb : ∃ v : Verb, (Command.ofLine line).name = v.word
  · obtain ⟨v, hv⟩ := hverb
    rw [execute_eq hv]
    by_cases hget : v = .get
    · subst hget
      -- A `get` comes to its transfer with one bare name under a remote path, and fails before it
      -- else.
      by_cases hname : ∃ name cwd, (Command.ofLine line).args = [name] ∧
          s.remote = .path cwd ∧ Path.isBare name = true
      · obtain ⟨name, cwd, hargs, hremote, hbare⟩ := hname
        exact Or.inr ⟨name, cwd, by rw [← hv, ← hargs], hbare, hremote⟩
      · refine Or.inl (obeys_tryCatch (s.obeys_run_get ?_) (s.obeys_recover _))
        intro name cwd hargs hremote
        exact Bool.eq_false_iff.mpr fun hbare => hname ⟨name, cwd, hargs, hremote, hbare⟩
    · exact Or.inl (obeys_tryCatch (s.obeys_run hget _) (s.obeys_recover v))
  · rw [not_exists] at hverb
    rw [execute_of_unknown hverb]
    refine Or.inl ?_
    split
    next => exact obeys_pure _
    next => exact obeys_unchanged (obeys_bind (obeys_say _) fun _ => obeys_say _)

end Session

end NamenodeShell
