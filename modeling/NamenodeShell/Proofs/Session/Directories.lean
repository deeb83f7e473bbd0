import Mathlib.Data.List.Induction
import NamenodeShell.Proofs.Session.Commands

/-!
# The directories of a session

How the two current directories change. `cd` and `lcd` are inverted once (`cd_eq_ok`, `lcd_eq_ok`),
no other command gives another session (`run_eq_ok`), and a failure gives the one it met. So a line
stays, goes elsewhere on the remote side or goes elsewhere on the local side (`Step.of_line`).

A run takes line after line, and an interrupted line leaves the session in which it was typed. That
the remote directory is rooted, and normal once it has changed, carries over from line to line
(`Wandered.step`); it is read off the last change, not off the first.
-/
set_option autoImplicit false

namespace NamenodeShell

open Shell

namespace Session

variable {s s' : Session} {w w' : Surroundings}

/-! ## What gives another session -/

/-- A command that only acts gives back the session it was given. -/
theorem unchanged_eq_ok {act : Shell Unit} {goesOn : Bool}
    (h : outcome (s.unchanged act) w = (.ok (s', goesOn), w')) : s' = s := by
  obtain ⟨_, _, _, hpure⟩ := bind_eq_ok h
  cases hpure
  rfl

/-- A remote path is taken for a directory only after one GETFILESTATUS, and the reply says
`DIRECTORY` as its type. -/
theorem isDirectory_eq_ok {c : Client} {path : String}
    (h : outcome (c.isDirectory path) w = (.ok true, w')) :
    w' = w.exchanged (c.request .status path) ∧ w.reply.IsDirectory := by
  rw [Client.outcome_isDirectory] at h
  obtain ⟨hdirectory, rfl⟩ := Prod.mk.inj h
  exact ⟨rfl, Client.directory_eq_true.mp hdirectory⟩

/-- **Where a remote target leads**, if it leads anywhere: to the path under the current directory,
which the one exchange has shown to be a directory. -/
theorem navigation_remote_eq_ok {c : Client} {current target path : String} (ht : target ≠ "")
    (h : outcome (Navigation.remote c current target) w = (.ok path, w')) :
    path = Path.remoteChild current target ∧ w' = w.exchanged (c.request .status path) ∧
      w.reply.IsDirectory := by
  unfold Navigation.remote at h
  rw [if_neg ht] at h
  obtain ⟨b, w₁, hdir, h⟩ := bind_eq_ok h
  cases b with
  | true =>
    simp only [if_true, outcome_pure] at h
    obtain ⟨hpath, rfl⟩ := Prod.mk.inj h
    obtain rfl := Except.ok.inj hpath
    exact ⟨rfl, isDirectory_eq_ok hdir⟩
  -- There is no directory: one more question tells a file from nothing, and both are refused.
  | false =>
    obtain ⟨b, w₂, _, h⟩ := bind_eq_ok h
    cases b with
    | true => cases h
    | false => cases h

/-- **A `cd` that succeeds**: the remote directory was a path, one GETFILESTATUS has found a
directory at the path of the target under it, and the session differs in that alone. -/
theorem cd_eq_ok {target : String} (ht : target ≠ "")
    (h : outcome (s.cd target) w = (.ok s', w')) :
    ∃ cwd, s.remote = .path cwd ∧ s' = { s with remote := .path (Path.remoteChild cwd target) } ∧
      w' = w.exchanged (s.client.request .status (Path.remoteChild cwd target)) ∧
      w.reply.IsDirectory := by
  unfold cd at h
  cases hremote : s.remote with
  | path cwd =>
    rw [hremote] at h
    obtain ⟨path, w₁, hnav, h⟩ := bind_eq_ok h
    cases h
    obtain ⟨rfl, hw, hreply⟩ := navigation_remote_eq_ok ht hnav
    exact ⟨cwd, rfl, rfl, hw, hreply⟩
  | value v =>
    rw [hremote] at h
    cases h

/-- The local paths that are tried are the target itself and the target under the current
directory. -/
theorem mem_candidates {current target candidate : String}
    (h : candidate ∈ Navigation.candidates current target) :
    candidate = target ∨ candidate = Path.join current target := by
  unfold Navigation.candidates at h
  split at h
  next => exact Or.inl (List.mem_singleton.mp h)
  next =>
    rcases List.mem_cons.mp h with rfl | h
    · exact Or.inr rfl
    · exact Or.inl (List.mem_singleton.mp h)

/-- Where a local target leads, if it leads anywhere: to the full path of the first candidate that
is a directory on the disk. -/
theorem navigation_local_eq_ok {d : Disk} {current target path : String} (ht : target ≠ "")
    (h : Navigation.local d current target = .ok path) :
    ∃ candidate, (candidate = target ∨ candidate = Path.join current target) ∧
      d.isDirectory candidate = true ∧ path = Path.absolute d.cwdPath candidate := by
  unfold Navigation.local at h
  rw [if_neg ht] at h
  split at h
  next candidate hfind =>
    obtain rfl := Except.ok.inj h
    exact ⟨candidate, mem_candidates (List.mem_of_find?_eq_some hfind),
      List.find?_some hfind, rfl⟩
  next => cases h

/-- **An `lcd` that succeeds**: one of the two candidates is a directory on the disk as it is then,
and the session differs in the local directory alone. Nothing is asked of the namenode. -/
theorem lcd_eq_ok {target : String} (ht : target ≠ "")
    (h : outcome (s.lcd target) w = (.ok s', w')) :
    ∃ candidate, (candidate = target ∨ candidate = Path.join s.localDir target) ∧
      w.disk.isDirectory candidate = true ∧
      s' = { s with localDir := Path.absolute w.disk.cwdPath candidate } := by
  obtain ⟨d, w₁, hdisk, h⟩ := bind_eq_ok h
  cases hdisk
  obtain ⟨path, w₂, hpath, h⟩ := bind_eq_ok h
  cases h
  rw [outcome_lift] at hpath
  obtain ⟨candidate, hcandidate, hdir, rfl⟩ := navigation_local_eq_ok ht (Prod.mk.inj hpath).1
  exact ⟨candidate, hcandidate, hdir, rfl⟩

/-- **Only `cd` and `lcd` with a target give another session.** -/
theorem run_eq_ok {v : Verb} {args : List String} {goesOn : Bool}
    (h : outcome (s.run v args) w = (.ok (s', goesOn), w')) :
    s' = s ∨ ∃ target, args = [target] ∧ target ≠ "" ∧
      (v = .cd ∧ outcome (s.cd target) w = (.ok s', w') ∨
        v = .lcd ∧ outcome (s.lcd target) w = (.ok s', w')) := by
  unfold run at h
  split at h
  -- `cd` with one argument; an empty one is a question, which changes nothing.
  case h_8 target =>
    split at h
    next => exact Or.inl (unchanged_eq_ok h)
    next ht =>
      obtain ⟨s₁, w₁, hcd, h⟩ := bind_eq_ok h
      cases h
      exact Or.inr ⟨target, rfl, ht, Or.inl ⟨rfl, hcd⟩⟩
  -- `lcd` with one argument, in the same way.
  case h_11 target =>
    split at h
    next => exact Or.inl (unchanged_eq_ok h)
    next ht =>
      obtain ⟨s₁, w₁, hlcd, h⟩ := bind_eq_ok h
      cases h
      exact Or.inr ⟨target, rfl, ht, Or.inr ⟨rfl, hlcd⟩⟩
  case h_13 =>
    cases h
    exact Or.inl rfl
  -- All other commands, and all other counts of arguments, go through `unchanged`.
  all_goals exact Or.inl (unchanged_eq_ok h)

/-- A failed command leaves the session as it was: its failure is reported or raised again, and
nothing else. -/
theorem recover_eq_ok {v : Verb} {f : Failure} {goesOn : Bool}
    (h : outcome (s.recover v f) w = (.ok (s', goesOn), w')) : s' = s := by
  unfold recover at h
  split at h
  next => cases h
  next => exact unchanged_eq_ok h

/-- **A line gives another session only as its command does.** -/
theorem execute_eq_ok {line : String} {goesOn : Bool}
    (h : outcome (s.execute line) w = (.ok (s', goesOn), w')) :
    s' = s ∨ ∃ v, (Command.ofLine line).name = v.word ∧
      outcome (s.run v (Command.ofLine line).args) w = (.ok (s', goesOn), w') := by
  unfold execute at h
  simp only at h
  split at h
  next => cases h; exact Or.inl rfl
  next =>
    split at h
    next => exact Or.inl (unchanged_eq_ok h)
    next v hv =>
      rw [outcome_tryCatch] at h
      split at h
      next hrun =>
        cases h
        exact Or.inr ⟨v, Verb.word_of_ofWord? hv, hrun⟩
      next => exact Or.inl (recover_eq_ok h)

/-! ## What a line does to the directories -/

/-- **The session and its surroundings after a line.** An interrupted line leaves the session in
which it was typed. -/
def afterLine (state : Session × Surroundings) (line : String) : Session × Surroundings :=
  match outcome (state.1.execute line) state.2 with
  | (.ok (s', _), w') => (s', w')
  | (.error _, w') => (state.1, w')

/-- **A step of the directories**: what has to be so of a line when one of them changes by it. -/
structure Step (s : Session) (w : Surroundings) (line : String) (s' : Session)
    (w' : Surroundings) : Prop where
  /-- The remote directory changes by a `cd` whose only request has shown a directory there. -/
  remote : s'.remote ≠ s.remote → ∃ cwd target reply, s.remote = .path cwd ∧ target ≠ "" ∧
    Command.ofLine line = ⟨"cd", [target]⟩ ∧
    s'.remote = .path (Path.remoteChild cwd target) ∧
    w.exchanges w' = [⟨s.client.request .status (Path.remoteChild cwd target), reply⟩] ∧
    reply.IsDirectory
  /-- The local directory changes by an `lcd` to a path that is a directory on the disk. -/
  localDir : s'.localDir ≠ s.localDir → ∃ target candidate, target ≠ "" ∧
    Command.ofLine line = ⟨"lcd", [target]⟩ ∧
    (candidate = target ∨ candidate = Path.join s.localDir target) ∧
    w.disk.isDirectory candidate = true ∧
    s'.localDir = Path.absolute w.disk.cwdPath candidate
  /-- One side at most changes. -/
  one : s'.remote = s.remote ∨ s'.localDir = s.localDir
  /-- All else of a session stays. -/
  client : s'.client = s.client ∧ s'.patience = s.patience

namespace Step

variable {line : String}

/-- A line that changes neither directory is a step. -/
theorem stay (s : Session) (w : Surroundings) (line : String) (w' : Surroundings) :
    Step s w line s w' where
  remote h := absurd rfl h
  localDir h := absurd rfl h
  one := Or.inl rfl
  client := ⟨rfl, rfl⟩

/-- A line that is a `cd` and succeeds is a step on the remote side. -/
theorem of_cd {target : String} (hline : Command.ofLine line = ⟨"cd", [target]⟩)
    (ht : target ≠ "") (h : outcome (s.cd target) w = (.ok s', w')) : Step s w line s' w' := by
  obtain ⟨cwd, hremote, rfl, rfl, hreply⟩ := cd_eq_ok ht h
  have hpassed := w.passed_operation s.client .status (Path.remoteChild cwd target) []
  exact {
    remote := fun _ => ⟨cwd, target, w.reply, hremote, ht, hline, rfl, hpassed.exchanges_eq, hreply⟩
    localDir := fun hchanged => absurd rfl hchanged
    one := Or.inr rfl
    client := ⟨rfl, rfl⟩ }

/-- A line that is an `lcd` and succeeds is a step on the local side. -/
theorem of_lcd {target : String} (hline : Command.ofLine line = ⟨"lcd", [target]⟩)
    (ht : target ≠ "") (h : outcome (s.lcd target) w = (.ok s', w')) : Step s w line s' w' := by
  obtain ⟨candidate, hcandidate, hdir, rfl⟩ := lcd_eq_ok ht h
  exact {
    remote := fun hchanged => absurd rfl hchanged
    localDir := fun _ => ⟨target, candidate, ht, hline, hcandidate, hdir, rfl⟩
    one := Or.inl rfl
    client := ⟨rfl, rfl⟩ }

/-- **Every line is a step**, whether it ends in a session or is interrupted. -/
theorem of_line (state : Session × Surroundings) (line : String) :
    Step state.1 state.2 line (afterLine state line).1 (afterLine state line).2 := by
  obtain ⟨s, w⟩ := state
  unfold afterLine
  cases hexecute : outcome (s.execute line) w with
  | mk result w' =>
    cases result with
    | error e => exact stay s w line w'
    | ok a =>
      obtain ⟨s', goesOn⟩ := a
      rcases execute_eq_ok hexecute with rfl | ⟨v, hname, hrun⟩
      · exact stay s' w line w'
      · have hline : ∀ args, (Command.ofLine line).args = args →
            Command.ofLine line = ⟨v.word, args⟩ := fun args hargs => by
          rw [← hname, ← hargs]
        rcases run_eq_ok hrun with rfl | ⟨target, hargs, ht, ⟨rfl, hcd⟩ | ⟨rfl, hlcd⟩⟩
        · exact stay s' w line w'
        · exact of_cd (hline _ hargs) ht hcd
        · exact of_lcd (hline _ hargs) ht hlcd

/-- A step from a rooted remote directory keeps it or ends in a normal one. -/
theorem keeps_or_normal {cwd : String} (h : Step s w line s' w') (hs : s.remote = .path cwd)
    (hcwd : Path.isRooted cwd.toList = true) :
    s'.remote = .path cwd ∨ ∃ cwd', s'.remote = .path cwd' ∧ Path.IsNormal cwd' := by
  by_cases hsame : s'.remote = s.remote
  · exact Or.inl (hsame.trans hs)
  · obtain ⟨cwd', target, _, hremote, _, _, hnew, _⟩ := h.remote hsame
    obtain rfl : cwd' = cwd := Remote.path.inj (hremote.symm.trans hs)
    exact Or.inr ⟨_, hnew, Path.isNormal_remoteChild hcwd target⟩

end Step

/-! ## Runs -/

/-- **The session and its surroundings after a run of lines.** -/
def afterLines (start : Session × Surroundings) (lines : List String) : Session × Surroundings :=
  lines.foldl afterLine start

/-- The last line of a run is typed in the session that the lines in front of it have led to. -/
theorem afterLines_concat (start : Session × Surroundings) (lines : List String) (line : String) :
    afterLines start (lines ++ [line]) = afterLine (afterLines start lines) line := by
  rw [afterLines, List.foldl_append]
  rfl

/-- Where a run has led on the remote side: to a rooted directory, which is normal if the run has
left the one it began in at any time. -/
def Wandered (start : Session × Surroundings) (cwd : String) (lines : List String) : Prop :=
  ∃ cwd', (afterLines start lines).1.remote = .path cwd' ∧ Path.isRooted cwd'.toList = true ∧
    ((∀ earlier, earlier <+: lines → (afterLines start earlier).1.remote = .path cwd) ∨
      Path.IsNormal cwd')

/-- **Every run wanders**, by induction on its last line: the next line keeps the remote directory
or ends in a normal one, and a normal one is rooted, so that the next `cd` is normal again. -/
theorem wandered {s : Session} {cwd : String} (hs : s.remote = .path cwd)
    (hcwd : Path.isRooted cwd.toList = true) (w : Surroundings) (lines : List String) :
    Wandered (s, w) cwd lines := by
  induction lines using List.reverseRecOn with
  | nil =>
    refine ⟨cwd, hs, hcwd, Or.inl ?_⟩
    intro earlier hearlier
    rw [List.prefix_nil.mp hearlier]
    exact hs
  | append_singleton lines line ih =>
    obtain ⟨cwd', hremote, hrooted, hstill⟩ := ih
    have hstep := Step.of_line (afterLines (s, w) lines) line
    rw [← afterLines_concat] at hstep
    rcases hstep.keeps_or_normal hremote hrooted with hkeep | ⟨cwd'', hnew, hnormal⟩
    -- The line keeps the directory: the prefixes of the longer run are those of the shorter and
    -- itself.
    · refine ⟨cwd', hkeep, hrooted, hstill.imp_left ?_⟩
      intro hstill earlier hearlier
      rcases List.prefix_concat_iff.mp hearlier with rfl | hearlier
      · rw [hkeep, ← hremote]
        exact hstill lines List.prefix_rfl
      · exact hstill earlier hearlier
    · exact ⟨cwd'', hnew, hnormal.isRooted, Or.inr hnormal⟩

/-- **The directories along a run.** After any run, whatever the next line is, it is a step of the
directories; and from a rooted remote directory every run leads to a rooted one, which is normal
once it has changed. -/
theorem directories_along_runs (s : Session) (w : Surroundings) (lines : List String) :
    (∀ line, Step (afterLines (s, w) lines).1 (afterLines (s, w) lines).2 line
      (afterLines (s, w) (lines ++ [line])).1 (afterLines (s, w) (lines ++ [line])).2) ∧
    ∀ cwd, s.remote = .path cwd → Path.isRooted cwd.toList = true →
      Wandered (s, w) cwd lines := by
  constructor
  · intro line
    rw [afterLines_concat]
    exact Step.of_line _ line
  · intro cwd hs hcwd
    exact wandered hs hcwd w lines

end Session

end NamenodeShell
