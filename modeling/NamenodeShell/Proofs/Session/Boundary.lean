import NamenodeShell.Proofs.Console
import NamenodeShell.Proofs.Interruption.Commands
import NamenodeShell.Proofs.Markup.Lines
import NamenodeShell.Proofs.Session.Directories

/-!
# The boundary of a line

What gets out of a typed line. A command that fails is reported by one line, under its own name or
as an error, and the report can always be shown, whatever is in the text of the failure
(`render_failureLine`). So nothing gets out but an interruption, and that only where an exchange was
interrupted; the session stays as it was, and only `exit` says to stop (`execute_boundary`).

The text of a failure is shown as it is where it is kept when escaped, and written as it is where it
has no tabs and controls in it. Where a backslash of it stands in front of a bracket the report
loses it, and a tab becomes spaces (`report_sheds_backslash`).
-/
set_option autoImplicit false

namespace NamenodeShell

open Shell

namespace Session

variable {s s' : Session} {w w' : Surroundings}

/-! ## Reports -/

/-- What a failure of a command is reported under. -/
def label (v : Verb) (f : Failure) : String :=
  if f.isOwn ∨ f.isSystem then v.word else "Error"

/-- It is the command's own name for what the shell or the system is known to fail with. -/
theorem label_eq (v : Verb) (f : Failure) :
    label v f = if f.isExpected then v.word else "Error" := by
  simp only [label, Failure.isExpected, Bool.or_eq_true]

/-- There is no markup in what a failure is reported under. -/
theorem isFront_label (v : Verb) (f : Failure) : Markup.IsFront (label v f ++ ": ").toList := by
  unfold label
  split
  next => cases v <;> exact ⟨by decide, by decide⟩
  next => exact ⟨by decide, by decide⟩

/-- **The line of a report**: red from its beginning to its end, with the text of the failure
escaped. -/
theorem toList_failureLine (v : Verb) (f : Failure) :
    (failureLine v f).toList = Markup.bracketed "red".toList ++
      ((label v f ++ ": ").toList ++ (Markup.escape f.message).toList ++
        Markup.bracketed ('/' :: "red".toList)) := by
  simp only [failureLine, ← label_eq, Markup.bracketed, String.toList_append, toString]
  simp

/-- **What is shown of a failure**: a kept text as it is, behind what it is reported under; and so
it is written if it can be. -/
def Shows (v : Verb) (f : Failure) (shown : List Char) : Prop :=
  Markup.IsKept f.message.toList →
    shown = (label v f ++ ": " ++ f.message).toList ∧
    (Console.IsWritable f.message.toList →
      Console.written false (.allOver .red shown) = label v f ++ ": " ++ f.message ++ "\n")

/-- There are no tabs and controls in what a failure is reported under. -/
theorem isWritable_label (v : Verb) (f : Failure) :
    Console.IsWritable (label v f ++ ": ").toList := by
  unfold label
  split
  next => cases v <;> decide
  next => decide

/-- A report shows a failure when the characters behind the label are those of its text. -/
theorem shows_of_eq {v : Verb} {f : Failure} {shown : List Char}
    (h : Markup.IsKept f.message.toList →
      shown = (label v f ++ ": ").toList ++ f.message.toList) : Shows v f shown := by
  intro hkept
  have hshown : shown = (label v f ++ ": " ++ f.message).toList := by
    rw [String.toList_append, h hkept]
  refine ⟨hshown, fun hwritable => ?_⟩
  have hall : Console.IsWritable (Markup.Styled.allOver .red shown).chars := by
    intro c hc
    rcases List.mem_append.mp ((h hkept) ▸ hc) with hc | hc
    · exact isWritable_label v f c hc
    · exact hwritable c hc
  rw [Console.written_of_isWritable hall]
  apply String.toList_injective
  rw [String.toList_ofList, String.toList_append]
  exact congrArg (· ++ ['\n']) hshown

/-- **The report of a failure can always be shown**, and shows what failed. -/
theorem render_failureLine (v : Verb) (f : Failure) :
    ∃ shown, Markup.render (failureLine v f) = .ok (.allOver .red shown) ∧ Shows v f shown := by
  obtain ⟨shown, hrender, hshown⟩ :=
    Markup.render_report Markup.isStyle_red (isFront_label v f) (toList_failureLine v f)
  exact ⟨shown, hrender, shows_of_eq hshown⟩

/-- The report of a failure begins with what it is reported under. -/
theorem front_of_render_failureLine {v : Verb} {f : Failure} {shown : List Char}
    (h : Markup.render (failureLine v f) = .ok (.allOver .red shown)) :
    (label v f ++ ": ").toList <+: shown :=
  Markup.front_of_render_report Markup.isStyle_red (isFront_label v f) (toList_failureLine v f) h

/-- The complaint about a name of no command is a report of the same kind. -/
theorem toList_unknown (name : String) :
    (s!"[red]Did not recognise command: {Markup.escape name}[/red]").toList =
      Markup.bracketed "red".toList ++ ("Did not recognise command: ".toList ++
        (Markup.escape name).toList ++ Markup.bracketed ('/' :: "red".toList)) := by
  simp only [Markup.bracketed, String.toList_append, toString]
  simp

/-! ## What is made of a failure -/

/-- A command that only acts never says to stop. -/
theorem unchanged_goesOn {act : Shell Unit} {goesOn : Bool}
    (h : outcome (s.unchanged act) w = (.ok (s', goesOn), w')) : goesOn = true := by
  obtain ⟨_, _, _, hpure⟩ := bind_eq_ok h
  cases hpure
  rfl

/-- A report that can be shown is all that becomes of a failure. -/
theorem outcome_recover_of_render {v : Verb} {f : Failure} {text : Markup.Styled}
    (hf : f ≠ .interrupted) (hrender : Markup.render (failureLine v f) = .ok text)
    (w : Surroundings) :
    outcome (s.recover v f) w = (.ok (s, true), { w with log := w.log ++ [.shown text] }) := by
  rw [recover, if_neg fun hcategory => hf (Failure.eq_interrupted_of_category hcategory)]
  exact outcome_unchanged (outcome_say_of_render hrender w)

/-- A failure that is no interruption is reported by one line, and the session stays. -/
theorem outcome_recover (v : Verb) {f : Failure} (hf : f ≠ .interrupted) (w : Surroundings) :
    ∃ shown, outcome (s.recover v f) w =
        (.ok (s, true), { w with log := w.log ++ [.shown (.allOver .red shown)] }) ∧
      Shows v f shown := by
  obtain ⟨shown, hrender, hshown⟩ := render_failureLine v f
  exact ⟨shown, outcome_recover_of_render hf hrender w, hshown⟩

/-- A name that names no command is complained of, and the complaint can be shown. -/
theorem outcome_unknown (name : String) (w : Surroundings) :
    ∃ w', outcome (unknown name) w = (.ok (), w') := by
  obtain ⟨shown, hrender, -⟩ := Markup.render_report Markup.isStyle_red
    ⟨by decide, by decide⟩ (toList_unknown name)
  have hhint : Markup.render "Type 'help' for available commands" =
      .ok (.ofChars "Type 'help' for available commands".toList) :=
    Markup.render_front ⟨by decide, by decide⟩
  exact ⟨_, (outcome_bind_of_ok (outcome_say_of_render hrender w)).trans
    (outcome_say_of_render hhint _)⟩

/-- **Only `exit` says to stop.** -/
theorem run_stops {v : Verb} {args : List String}
    (h : outcome (s.run v args) w = (.ok (s', false), w')) : v = .exit ∧ s' = s := by
  unfold run at h
  split at h
  -- `cd` with one argument, whose session is handed on with the word to go on.
  case h_8 target =>
    split at h
    next => cases unchanged_goesOn h
    next =>
      obtain ⟨_, _, _, h⟩ := bind_eq_ok h
      cases h
  -- `lcd` with one argument, in the same way.
  case h_11 target =>
    split at h
    next => cases unchanged_goesOn h
    next =>
      obtain ⟨_, _, _, h⟩ := bind_eq_ok h
      cases h
  case h_13 =>
    cases h
    exact ⟨rfl, rfl⟩
  all_goals cases unchanged_goesOn h

/-! ## The boundary -/

/-- **What a line comes to**, as far as whoever takes lines is concerned. -/
structure Contained (s : Session) (w : Surroundings) (line : String)
    (result : Except Failure (Session × Bool)) (w' : Surroundings) : Prop where
  /-- Nothing gets out but an interruption, -/
  escapes : ∀ f, result = .error f → f = .interrupted
  /-- and that just where an exchange of the line was interrupted. -/
  interrupted : result = .error .interrupted ↔ ∃ x ∈ w.exchanges w', x.reply = .interrupted
  /-- `exit` says to stop, and nothing else does. -/
  stops : ∀ s', result = .ok (s', false) ↔
    (Command.ofLine line).name = Verb.exit.word ∧ s' = s
  /-- A blank line does nothing. -/
  blank : (Command.ofLine line).name = "" → result = .ok (s, true) ∧ w' = w
  /-- A name of no command asks for nothing and changes nothing. -/
  unknown : (∀ v : Verb, (Command.ofLine line).name ≠ v.word) →
    result = .ok (s, true) ∧ w.exchanges w' = [] ∧ w'.disk = w.disk
  /-- A command that fails, and is not interrupted, is reported by one line and no more. -/
  reported : ∀ v f w₁, (Command.ofLine line).name = Verb.word v →
    outcome (s.run v (Command.ofLine line).args) w = (.error f, w₁) → f ≠ .interrupted →
    result = .ok (s, true) ∧ ∃ shown,
      w' = { w₁ with log := w₁.log ++ [.shown (.allOver .red shown)] } ∧ Shows v f shown

/-! ## Its parts -/

/-- A line that fails ends with an interruption. -/
theorem execute_escapes {line : String} {f : Failure}
    (h : outcome (s.execute line) w = (.error f, w')) : f = .interrupted := by
  by_contra hf
  by_cases hverb : ∃ v : Verb, (Command.ofLine line).name = v.word
  · obtain ⟨v, hv⟩ := hverb
    rw [execute_eq hv, outcome_tryCatch] at h
    split at h
    next => cases h
    next g w₁ hrun =>
      -- An interruption is raised again; any other failure ends in a report, which can be shown.
      by_cases hg : g = .interrupted
      · subst hg
        cases h
        exact hf rfl
      · obtain ⟨shown, hrecover, -⟩ := outcome_recover (s := s) v hg w₁
        cases hrecover.symm.trans h
  · rw [not_exists] at hverb
    rw [execute_of_unknown hverb] at h
    split at h
    next => cases h
    next =>
      obtain ⟨w₁, hunknown⟩ := outcome_unknown (Command.ofLine line).name w
      cases (outcome_unchanged hunknown).symm.trans h

/-- A line that carries out `exit` says to stop, whatever stands behind it. -/
theorem execute_exit {line : String} (h : (Command.ofLine line).name = Verb.exit.word)
    (w : Surroundings) : outcome (s.execute line) w = (.ok (s, false), w) := by
  rw [execute_eq h, outcome_tryCatch]
  rfl

/-- A line that says to stop names `exit`. -/
theorem execute_stops {line : String} (h : outcome (s.execute line) w = (.ok (s', false), w')) :
    (Command.ofLine line).name = Verb.exit.word ∧ s' = s := by
  by_cases hverb : ∃ v : Verb, (Command.ofLine line).name = v.word
  · obtain ⟨v, hv⟩ := hverb
    rw [execute_eq hv, outcome_tryCatch] at h
    split at h
    next a w₁ hrun =>
      cases h
      obtain ⟨rfl, rfl⟩ := run_stops hrun
      exact ⟨hv, rfl⟩
    -- What is made of a failure never says to stop.
    next g w₁ hrun =>
      unfold recover at h
      split at h
      next => cases h
      next => cases unchanged_goesOn h
  · rw [not_exists] at hverb
    rw [execute_of_unknown hverb] at h
    split at h
    next => cases h
    next => cases unchanged_goesOn h

/-- A line that names no command leaves the session and the disk as they are. -/
theorem execute_unknown {line : String} (h : ∀ v : Verb, (Command.ofLine line).name ≠ v.word)
    (w : Surroundings) :
    ∃ w', outcome (s.execute line) w = (.ok (s, true), w') ∧ w.Quiet w' := by
  -- Nothing is sent and the disk is left alone, since all that is done is to say something.
  have hquiet : Obeys Surroundings.Quiet (s.execute line) := by
    rw [execute_of_unknown h]
    split
    next => exact obeys_pure _
    next => exact obeys_unchanged (obeys_bind (obeys_say _) fun _ => obeys_say _)
  refine ⟨_, Prod.ext ?_ rfl, hquiet w⟩
  rw [execute_of_unknown h]
  split
  next => rfl
  next =>
    obtain ⟨w₁, hunknown⟩ := outcome_unknown (Command.ofLine line).name w
    rw [outcome_unchanged hunknown]

/-- **A command that fails is left to what is made of its failure.** -/
theorem execute_of_failed {line : String} {v : Verb} {f : Failure} {w₁ : Surroundings}
    (hv : (Command.ofLine line).name = v.word)
    (hrun : outcome (s.run v (Command.ofLine line).args) w = (.error f, w₁)) :
    outcome (s.execute line) w = outcome (s.recover v f) w₁ := by
  rw [execute_eq hv, outcome_tryCatch, hrun]

/-- **A command that fails is reported** by one red line, unless it was interrupted. -/
theorem execute_reported {line : String} {v : Verb} {f : Failure} {w₁ : Surroundings}
    (hv : (Command.ofLine line).name = v.word)
    (hrun : outcome (s.run v (Command.ofLine line).args) w = (.error f, w₁))
    (hf : f ≠ .interrupted) :
    ∃ shown, outcome (s.execute line) w =
        (.ok (s, true), { w₁ with log := w₁.log ++ [.shown (.allOver .red shown)] }) ∧
      Shows v f shown := by
  rw [execute_of_failed hv hrun]
  exact outcome_recover v hf w₁

/-- What is shown of a failure begins with what it is reported under. -/
theorem execute_reported_front {line : String} {v : Verb} {f : Failure} {w₁ : Surroundings}
    (hv : (Command.ofLine line).name = v.word)
    (hrun : outcome (s.run v (Command.ofLine line).args) w = (.error f, w₁))
    (hf : f ≠ .interrupted) :
    ∃ shown, outcome (s.execute line) w =
        (.ok (s, true), { w₁ with log := w₁.log ++ [.shown (.allOver .red shown)] }) ∧
      Shows v f shown ∧ (label v f ++ ": ").toList <+: shown := by
  obtain ⟨shown, hrender, hshown⟩ := render_failureLine v f
  refine ⟨shown, ?_, hshown, front_of_render_failureLine hrender⟩
  rw [execute_of_failed hv hrun]
  exact outcome_recover_of_render hf hrender w₁

/-- **The boundary of a line holds**, whatever the line is and whatever the service answers. -/
theorem execute_boundary (s : Session) (line : String) (w : Surroundings) :
    Contained s w line (outcome (s.execute line) w).1 (outcome (s.execute line) w).2 where
  escapes f hf := execute_escapes (Prod.ext hf rfl)
  interrupted := (heeds_execute line).interrupted_iff w
  stops s' := by
    constructor
    · intro hstops
      exact execute_stops (Prod.ext hstops rfl)
    · rintro ⟨hexit, rfl⟩
      rw [execute_exit hexit]
  blank hblank := by
    unfold execute
    rw [if_pos hblank]
    exact ⟨rfl, rfl⟩
  unknown hname := by
    obtain ⟨w', hexecute, hquiet⟩ := execute_unknown (s := s) hname w
    rw [hexecute]
    exact ⟨rfl, hquiet.1.exchanges_eq, hquiet.2⟩
  reported v f w₁ hv hrun hf := by
    obtain ⟨shown, hexecute, hshown⟩ := execute_reported hv hrun hf
    rw [hexecute]
    exact ⟨rfl, shown, rfl, hshown⟩

/-- What a line shows when nobody answers. -/
def shownFor (line : String) : List Markup.Styled :=
  (outcome (sample.execute line) unanswered).2.log.filterMap Event.shown?

/-- The report that a name is not bare, when it is the text of the failure. -/
def reportOf (name : String) : String :=
  label .mkdir (.notBare name) ++ ": " ++ (Failure.notBare name).message ++ "\n"

/-- **Reports that are not the text of the failure**: the backslash in front of a bracket is lost,
and a tab is written as spaces. -/
theorem report_sheds_backslash :
    (Command.ofLine "mkdir \"\\[1/\"" = ⟨Verb.mkdir.word, ["\\[1/"]⟩ ∧
        outcome (sample.run .mkdir ["\\[1/"]) unanswered = (.error (.notBare "\\[1/"), unanswered) ∧
        reportOf "\\[1/" = "mkdir: '\\[1/' is not a file name\n" ∧
        (shownFor "mkdir \"\\[1/\"").map (Console.written false) =
          ["mkdir: '[1/' is not a file name\n"]) ∧
      Command.ofLine "mkdir \"a/\tb\"" = ⟨Verb.mkdir.word, ["a/\tb"]⟩ ∧
        outcome (sample.run .mkdir ["a/\tb"]) unanswered = (.error (.notBare "a/\tb"), unanswered) ∧
        reportOf "a/\tb" = "mkdir: 'a/\tb' is not a file name\n" ∧
        (shownFor "mkdir \"a/\tb\"").map (Console.written false) =
          ["mkdir: 'a/      b' is not a file name\n"] := by
  have hbackslash : shownFor "mkdir \"\\[1/\"" =
      [.allOver .red "mkdir: '[1/' is not a file name".toList] := by
    decide +kernel
  have htab : shownFor "mkdir \"a/\tb\"" =
      [.allOver .red "mkdir: 'a/\tb' is not a file name".toList] := by
    decide +kernel
  rw [hbackslash, htab, List.map_singleton, List.map_singleton, Console.written_eq,
    Console.written_eq]
  refine ⟨⟨?_, rfl, ?_, ?_⟩, ?_, rfl, ?_, ?_⟩ <;> decide +kernel

end Session

end NamenodeShell
