import NamenodeShell.Proofs.Command.Grammar
import NamenodeShell.Proofs.Resolution
import NamenodeShell.Proofs.Session.Boundary
import NamenodeShell.Proofs.Transfer.Moves

/-!
# Journeys on the remote side

A way through the remote directories can be gone by one `cd` after another, or by one `cd` to the
targets with a slash between each two. Where both succeed they end in the same session
(`stepwise_navigation`).

That a `cd` succeeds can be told from outside: a failure is reported, so it is the one that shows
nothing (`Goes`). What such a line has done is settled once (`goes_iff`). From there a journey is
the fold of `Path.remoteChild` over its targets, by induction on its lines (`Visits.eq`), and the
fold is a single step by what holds of paths (`Path.foldl_remoteChild`).
-/
set_option autoImplicit false

namespace NamenodeShell

open Shell

namespace Session

variable {s s' s'' : Session} {w w' : Surroundings} {target cwd : String}

/-! ## One step -/

/-- **A `cd` that succeeds**: a typed line that goes to a target, of which nothing is shown. -/
structure Goes (s : Session) (w : Surroundings) (target : String) (s' : Session)
    (w' : Surroundings) : Prop where
  typed : ∃ line, Command.ofLine line = ⟨"cd", [target]⟩ ∧
    outcome (s.execute line) w = (.ok (s', true), w')
  silent : w.shown w' = []

/-- The session in another remote directory. -/
def moved (s : Session) (cwd : String) : Session :=
  { s with remote := .path cwd }

/-- To move to where one is changes nothing. -/
theorem moved_self (hs : s.remote = .path cwd) : s.moved cwd = s := by
  rw [moved, ← hs]

/-- After a move one is where one went, -/
theorem remote_moved (s : Session) (there : String) : (s.moved there).remote = .path there := rfl

/-- and only the last of two moves counts. -/
theorem moved_moved (s : Session) (there elsewhere : String) :
    (s.moved there).moved elsewhere = s.moved elsewhere := rfl

/-- The report of a failure is among what has been shown. -/
theorem shown_report_ne_nil {f : Failure} {shown : Markup.Styled}
    (h : outcome (s.run .cd [target]) w = (.error f, w')) :
    w.shown { w' with log := w'.log ++ [.shown shown] } ≠ [] := by
  obtain ⟨_, hfollows⟩ := s.follows_run .cd [target]
  obtain ⟨xs, hpassed, -⟩ := hfollows w
  rw [h] at hpassed
  obtain ⟨events, hlog, -⟩ := hpassed.log
  have htells : w.Tells w' (events.filterMap Event.shown?) := ⟨events, hlog, rfl⟩
  rw [(htells.trans (.say w' shown)).shown_eq]
  exact List.append_ne_nil_of_right_ne_nil _ (List.cons_ne_nil _ _)

/-- **A target that is a directory is gone to.** -/
theorem run_cd_of_directory (ht : target ≠ "") (hs : s.remote = .path cwd)
    (h : w.reply.IsDirectory) :
    outcome (s.run .cd [target]) w = (.ok (s.moved (Path.remoteChild cwd target), true),
      w.exchanged (s.client.request .status (Path.remoteChild cwd target))) := by
  have hdirectory : s.client.directory w.reply = .ok true := Client.directory_eq_true.mpr h
  have hnavigation : outcome (Navigation.remote s.client cwd target) w =
      (.ok (Path.remoteChild cwd target),
        w.exchanged (s.client.request .status (Path.remoteChild cwd target))) := by
    unfold Navigation.remote
    rw [if_neg ht]
    refine (outcome_bind_of_ok (a := true) ?_).trans rfl
    rw [Client.outcome_isDirectory, hdirectory]
  rw [run, if_neg ht, cd, hs]
  simp only [bind_assoc]
  exact outcome_bind_of_ok hnavigation

/-- A line that goes to a target is the command and what is made of its failure. -/
theorem execute_cd {line : String} (hline : Command.ofLine line = ⟨"cd", [target]⟩) :
    s.execute line = tryCatch (s.run .cd [target]) (s.recover .cd) := by
  rw [execute_eq (v := .cd) (congrArg Command.name hline), hline]

/-- A `cd` of which nothing is shown has not failed. -/
theorem Goes.run (h : Goes s w target s' w') :
    outcome (s.run .cd [target]) w = (.ok (s', true), w') := by
  obtain ⟨line, hline, houtcome⟩ := h.typed
  rw [execute_cd hline, outcome_tryCatch] at houtcome
  cases hrun : outcome (s.run .cd [target]) w with
  | mk result w₁ =>
    rw [hrun] at houtcome
    cases result with
    | ok a => exact houtcome
    | error f =>
      -- A failure would have been reported, and then something would have been shown.
      by_cases hf : f = .interrupted
      · subst hf
        cases houtcome
      · obtain ⟨shown, hrecover, -⟩ := outcome_recover (s := s) .cd hf w₁
        cases hrecover.symm.trans houtcome
        exact absurd h.silent (shown_report_ne_nil hrun)

/-- **What a `cd` that succeeds has done**: its one request has shown a directory, and the session
has moved there. -/
theorem goes_iff (ht : target ≠ "") :
    Goes s w target s' w' ↔ (∃ line, Command.ofLine line = ⟨"cd", [target]⟩) ∧
      ∃ cwd, s.remote = .path cwd ∧ w.reply.IsDirectory ∧
        s' = s.moved (Path.remoteChild cwd target) ∧
        w' = w.exchanged (s.client.request .status (Path.remoteChild cwd target)) := by
  constructor
  · intro h
    obtain ⟨line, hline, -⟩ := h.typed
    have hrun := h.run
    rw [Session.run, if_neg ht] at hrun
    obtain ⟨s₁, w₁, hcd, hpure⟩ := bind_eq_ok hrun
    cases hpure
    obtain ⟨cwd, hs, rfl, rfl, hreply⟩ := cd_eq_ok ht hcd
    exact ⟨⟨line, hline⟩, cwd, hs, hreply, rfl, rfl⟩
  · rintro ⟨⟨line, hline⟩, cwd, hs, hreply, rfl, rfl⟩
    refine ⟨⟨line, hline, ?_⟩, (Surroundings.Tells.exchanged w _).shown_eq⟩
    rw [execute_cd hline, outcome_tryCatch, run_cd_of_directory ht hs hreply]

/-- **A target that can be typed is gone to**, when it is shown to be a directory. -/
theorem goes_of_directory (s : Session) (target : String) (ht : target ≠ "")
    (hquote : '"' ∉ target.toList) (hs : s.remote = .path cwd) (h : w.reply.IsDirectory) :
    ∃ w', Goes s w target (s.moved (Path.remoteChild cwd target)) w' := by
  have hname : Command.IsTypable "cd" := Command.isTypable_of_strip (by decide) (by decide)
  have hgap : Text.IsBlanks " ".toList := List.all_eq_true.mp (by decide)
  have hline := Command.ofLine_quote hname hgap hquote ""
  exact ⟨_, (goes_iff ht).mpr ⟨⟨_, hline⟩, cwd, hs, h, rfl, rfl⟩⟩

/-! ## Journeys -/

/-- **A journey**: one `cd` after another that succeeds, whatever the surroundings are in which each
is typed. -/
inductive Visits : Session → List String → Session → Prop
  | stay (s : Session) : Visits s [] s
  | onward {s s₁ s' : Session} {w w₁ : Surroundings} {target : String} {targets : List String}
      (goes : Goes s w target s₁ w₁) (rest : Visits s₁ targets s') : Visits s (target :: targets) s'

/-- **A journey leads to the fold of its targets.** -/
theorem Visits.eq {targets : List String} (h : Visits s targets s') (hs : s.remote = .path cwd)
    (htargets : ∀ target ∈ targets, target ≠ "") :
    s' = s.moved (targets.foldl Path.remoteChild cwd) := by
  induction h generalizing cwd with
  | stay s => exact (moved_self hs).symm
  | onward goes rest ih =>
    rw [List.forall_mem_cons] at htargets
    obtain ⟨-, cwd', hs', -, rfl, -⟩ := (goes_iff htargets.1).mp goes
    -- The first step has moved to the child, from where the others go on.
    obtain rfl := Remote.path.inj (hs.symm.trans hs')
    have hend := ih rfl htargets.2
    rwa [moved_moved, ← List.foldl_cons] at hend

/-- **A journey to targets that can be typed is made** where directories are found. -/
theorem visits_of_directory {targets : List String} (hs : s.remote = .path cwd)
    (htargets : ∀ target ∈ targets, target ≠ "" ∧ '"' ∉ target.toList)
    (h : w.reply.IsDirectory) :
    Visits s targets (s.moved (targets.foldl Path.remoteChild cwd)) := by
  induction targets generalizing s cwd with
  | nil =>
    rw [List.foldl_nil, moved_self hs]
    exact .stay s
  | cons target targets ih =>
    rw [List.forall_mem_cons] at htargets
    obtain ⟨_, hgoes⟩ := goes_of_directory s target htargets.1.1 htargets.1.2 hs h
    have hrest := ih (s := s.moved (Path.remoteChild cwd target)) rfl htargets.2
    rw [moved_moved, ← List.foldl_cons] at hrest
    exact .onward hgoes hrest

/-- What begins with a target is not empty. -/
theorem intercalate_ne_empty {target : String} (h : target ≠ "") (targets : List String) :
    "/".intercalate (target :: targets) ≠ "" := by
  cases targets with
  | nil => exact h
  | cons b targets => simp [String.intercalate_cons_cons]

/-- **Going step by step is going at once.** To go to a path and on from there leads where the two
with a slash between them lead; so all `cd`s of a journey end in the session in which one to all the
targets ends, when they succeed; and two dots take a bare name back. -/
theorem stepwise_navigation :
    (∀ cwd a b : String, Path.isRooted cwd.toList = true → a ≠ "" →
      Path.isRooted b.toList = false →
      Path.remoteChild (Path.remoteChild cwd a) b = Path.remoteChild cwd (a ++ "/" ++ b)) ∧
      (∀ (s s' : Session) (cwd : String) (targets : List String), s.remote = .path cwd →
        Path.isRooted cwd.toList = true → targets ≠ [] →
        (∀ target ∈ targets, target ≠ "" ∧ Path.isRooted target.toList = false) →
        Visits s targets s' →
          s'.remote = .path (Path.remoteChild cwd ("/".intercalate targets)) ∧
          ∀ w w' s'', Goes s w ("/".intercalate targets) s'' w' → s'' = s') ∧
      ∀ (cwd n : String), Path.isRooted cwd.toList = true → Path.isBare n = true →
        Path.remoteChild (Path.remoteChild cwd n) ".." = Path.remoteChild cwd "." ∧
        ∀ s s' : Session, s.remote = .path cwd → Visits s [n, ".."] s' →
          s'.remote = .path (Path.remoteChild cwd ".") := by
  refine ⟨fun cwd a b hcwd ha hb => Path.remoteChild_remoteChild hcwd ha hb, ?_, ?_⟩
  -- The steps are a fold over the targets, and the fold is one step to all of them at once.
  · intro s s' cwd targets hs hcwd hsome htargets hvisits
    obtain ⟨target, targets, rfl⟩ := List.exists_cons_of_ne_nil hsome
    have hfold := Path.foldl_remoteChild hcwd (htargets target List.mem_cons_self).1
      fun b hb => (htargets b (List.mem_cons_of_mem _ hb)).2
    have hend := hvisits.eq hs fun b hb => (htargets b hb).1
    rw [List.foldl_cons, hfold] at hend
    refine ⟨by rw [hend, remote_moved], fun w w' s'' hgoes => ?_⟩
    have hjoined := intercalate_ne_empty (htargets target List.mem_cons_self).1 targets
    obtain ⟨-, cwd', hs', -, hatOnce, -⟩ := (goes_iff hjoined).mp hgoes
    cases hs.symm.trans hs'
    exact hatOnce.trans hend.symm
  · intro cwd n hcwd hn
    have hback := Path.remoteChild_bare_dots hcwd hn
    refine ⟨hback, fun s s' hs hvisits => ?_⟩
    have hend := hvisits.eq hs fun b hb => by
      rcases List.mem_cons.mp hb with rfl | hb
      · exact (Path.isBare_iff.mp hn).ne_texts.1
      · rw [List.mem_singleton.mp hb]
        decide
    rw [hend, remote_moved, List.foldl_cons, List.foldl_cons, List.foldl_nil, hback]

/-- Surroundings in which a directory is found at what is asked for. -/
def sampleDirectory : Surroundings where
  service := [⟨.response
    { status := 200
      headers := []
      body := .whole (Bytes.ofText
        "\x7b\"FileStatus\":\x7b\"type\":\"DIRECTORY\"\x7d\x7d") }, none⟩]
  disk := { tree := [] }

/-- The reply of the sample is read as showing a directory. -/
theorem isDirectory_sampleDirectory : sampleDirectory.reply.IsDirectory :=
  (Client.directory_eq_true (c := sample.client)).mp (eq_ok_of_toOption (by decide +kernel))

/-- Up beyond the root and down again, in three steps and in one. -/
theorem stepwise_navigation_sample :
    ∃ s', Visits sample ["../..", "../x", "./y/"] s' ∧ s'.remote = .path "/x/y" ∧
      ∃ w', Goes sample sampleDirectory "../../../x/./y/" s' w' := by
  have hdirectory := isDirectory_sampleDirectory
  have hvisits : Visits sample ["../..", "../x", "./y/"] _ :=
    visits_of_directory rfl (by decide) hdirectory
  obtain ⟨w', honce⟩ :=
    goes_of_directory sample "../../../x/./y/" (by decide) (by decide) rfl hdirectory
  obtain ⟨hremote, hsame⟩ := stepwise_navigation.2.1 sample _ "/user/alice" _ rfl (by decide)
    (List.cons_ne_nil _ _) (by decide) hvisits
  have hend : Path.remoteChild "/user/alice" "../../../x/./y/" = "/x/y" := by
    decide +kernel
  exact ⟨_, hvisits, hremote.trans (congrArg Remote.path hend), w', hsame _ _ _ honce ▸ honce⟩

end Session

end NamenodeShell
