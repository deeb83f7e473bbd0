import NamenodeShell.Proofs.Session.Boundary
import NamenodeShell.Proofs.Transfer.Moves

/-!
# Numbers of arguments

What becomes of a line that gives a command a number of arguments it does not take. The commands
that look at their arguments fall through to the complaint (`run_of_count`), which can always be
shown and is all that happens (`outcome_complain`): the line is *turned away*. `help` and `exit` do
not look at theirs, so no line that names one of them is (`turned_away_iff`, `miscounted_help`).
-/
set_option autoImplicit false

namespace NamenodeShell

open Shell

namespace Session

variable {s : Session} {v : Verb} {line : String} {w w' : Surroundings}

/-! ## The complaint -/

/-- What the complaint about a command shows. -/
def complaint (v : Verb) : List Markup.Styled :=
  [.allOver .red "Wrong input!".toList, .ofChars ("Usage: " ++ v.usage).toList]

/-- How a command is typed is kept when it is shown. -/
theorem isKept_usage (v : Verb) : Markup.IsKept v.usage.toList := by
  refine Markup.isKept_of_not_mem ?_
  cases v <;> decide

/-- The second line of the complaint shows how the command is typed, -/
theorem render_usage (v : Verb) :
    Markup.render ("Usage: " ++ Markup.escape v.usage) =
      .ok (.ofChars ("Usage: " ++ v.usage).toList) := by
  rw [Markup.render_behind ⟨by decide, by decide⟩ (String.toList_append ..),
    Markup.shownOf_escape (isKept_usage v), String.toList_append]

/-- and the first is red. -/
theorem render_wrongInput :
    Markup.render "[red]Wrong input![/red]" = .ok (.allOver .red "Wrong input!".toList) := by
  have hwords : Markup.IsFront "Wrong input!".toList := ⟨by decide, by decide⟩
  have hmarkup : "[red]Wrong input![/red]".toList = Markup.bracketed "red".toList ++
      ("Wrong input!".toList ++ Markup.bracketed ('/' :: "red".toList)) := by
    decide
  have hpieces := Markup.pieces_front hwords []
  rw [List.append_nil] at hpieces
  obtain ⟨shown, hrender, hshown⟩ :=
    Markup.render_between Markup.isStyle_red hwords.isLiteralText hmarkup
  rw [hrender, hshown hwords.no_backslash, hpieces, Markup.shownOf_front hwords]
  rfl

/-- **The complaint can always be shown**, and nothing else happens. -/
theorem outcome_complain (v : Verb) (w : Surroundings) :
    outcome (complain v) w =
      (.ok (), { w with log := w.log ++ (complaint v).map .shown }) := by
  refine (outcome_bind_of_ok (outcome_say_of_render render_wrongInput w)).trans ?_
  rw [outcome_say_of_render (render_usage v), List.append_assoc]
  rfl

/-- The complaint is written as it is, in two lines. -/
theorem written_complaint (v : Verb) :
    (complaint v).map (Console.written false) =
      ["Wrong input!\n", "Usage: " ++ v.usage ++ "\n"] := by
  have hwrong : Console.written false (.allOver .red "Wrong input!".toList) =
      "Wrong input!" ++ "\n" :=
    Console.written_words rfl (by decide)
  have husage : Console.written false (.ofChars ("Usage: " ++ v.usage).toList) =
      "Usage: " ++ v.usage ++ "\n" := by
    refine Console.written_words rfl ?_
    cases v <;> decide
  have hline : "Wrong input!" ++ "\n" = "Wrong input!\n" := by
    decide
  rw [complaint, List.map_cons, List.map_singleton, hwrong, husage, hline]

/-- The complaint is two texts. -/
theorem tells_complaint (v : Verb) (w : Surroundings) :
    w.Tells { w with log := w.log ++ (complaint v).map .shown } (complaint v) :=
  ⟨_, rfl, rfl⟩

/-! ## Lines that are turned away -/

/-- **A line is turned away**: it complains about the command it names and does nothing else. -/
structure TurnedAway (s : Session) (v : Verb) (w : Surroundings)
    (result : Except Failure (Session × Bool)) (w' : Surroundings) : Prop where
  /-- The session is the same, with both of its directories, and goes on. -/
  goesOn : result = .ok (s, true)
  /-- Two texts are shown and there is no other event, -/
  log : w'.log = w.log ++ (complaint v).map .shown
  /-- and this is how what is shown is written. -/
  written : (w.shown w').map (Console.written false) =
    ["Wrong input!\n", "Usage: " ++ v.usage ++ "\n"]
  /-- Nothing is asked of the service, -/
  unasked : w.exchanges w' = []
  /-- and the disk is as it was. -/
  disk : w'.disk = w.disk

/-- A command that looks at its arguments complains when their number is none of its. -/
theorem run_of_count {args : List String} (hcount : args.length ∉ v.counts) (hhelp : v ≠ .help)
    (hexit : v ≠ .exit) : s.run v args = s.unchanged (complain v) := by
  unfold run
  split
  case h_12 => exact absurd rfl hhelp
  case h_13 => exact absurd rfl hexit
  -- What is left after all commands with a number of arguments that they take.
  case h_14 => rfl
  all_goals exact absurd (by simp [Verb.counts]) hcount

/-- **A wrong number of arguments is turned away** by a command that looks at its arguments. -/
theorem turnedAway_execute (hv : (Command.ofLine line).name = v.word)
    (hcount : (Command.ofLine line).args.length ∉ v.counts) (hhelp : v ≠ .help)
    (hexit : v ≠ .exit) (w : Surroundings) :
    TurnedAway s v w (outcome (s.execute line) w).1 (outcome (s.execute line) w).2 := by
  have hrun := outcome_unchanged (s := s) (outcome_complain v w)
  have hquiet : w.Quiet (outcome (s.unchanged (complain v)) w).2 :=
    obeys_unchanged (obeys_complain v) w
  rw [hrun] at hquiet
  rw [execute_eq hv, run_of_count hcount hhelp hexit, outcome_tryCatch, hrun]
  exact
    { goesOn := rfl
      log := rfl
      written := by
        rw [(tells_complaint v w).shown_eq, written_complaint]
      unasked := hquiet.1.exchanges_eq
      disk := hquiet.2 }

/-- `help` shows one text, whatever stands behind it. -/
theorem execute_help (h : (Command.ofLine line).name = Verb.help.word) (w : Surroundings) :
    ∃ text, outcome (s.execute line) w =
      (.ok (s, true), { w with log := w.log ++ [.shown text] }) := by
  obtain ⟨cs, hrender⟩ := Markup.render_escape helpText
  refine ⟨.ofChars cs, ?_⟩
  have hrun : outcome (s.run .help (Command.ofLine line).args) w =
      (.ok (s, true), { w with log := w.log ++ [.shown (.ofChars cs)] }) :=
    outcome_unchanged (outcome_say_of_render hrender w)
  rw [execute_eq h, outcome_tryCatch, hrun]

/-- `help` does not complain, whatever number of arguments it is given, -/
theorem not_turnedAway_help (h : (Command.ofLine line).name = Verb.help.word) (w : Surroundings) :
    ¬ TurnedAway s .help w (outcome (s.execute line) w).1 (outcome (s.execute line) w).2 := by
  intro haway
  obtain ⟨text, hhelp⟩ := execute_help (s := s) h w
  have hlog := haway.log
  rw [hhelp, List.append_cancel_left_eq] at hlog
  -- the complaint is one text longer
  cases (List.cons.inj hlog).2

/-- and neither does `exit`, which says to stop. -/
theorem not_turnedAway_exit (h : (Command.ofLine line).name = Verb.exit.word) (w : Surroundings) :
    ¬ TurnedAway s .exit w (outcome (s.execute line) w).1 (outcome (s.execute line) w).2 := by
  intro haway
  have hgoesOn := haway.goesOn
  rw [execute_exit h] at hgoesOn
  cases hgoesOn

/-- **A wrong number of arguments is turned away** by every command but `help` and `exit`, and by
these never. -/
theorem turned_away_iff (hv : (Command.ofLine line).name = v.word)
    (hcount : (Command.ofLine line).args.length ∉ v.counts) (w : Surroundings) :
    TurnedAway s v w (outcome (s.execute line) w).1 (outcome (s.execute line) w).2 ↔
      v ≠ .help ∧ v ≠ .exit := by
  constructor
  · intro haway
    constructor
    · rintro rfl
      exact not_turnedAway_help hv w haway
    · rintro rfl
      exact not_turnedAway_exit hv w haway
  · rintro ⟨hhelp, hexit⟩
    exact turnedAway_execute hv hcount hhelp hexit w

/-- A name without quotes is no argument, so the line is turned away. -/
theorem turned_away_unquoted :
    (Command.ofLine "mkdir reports").name = Verb.mkdir.word ∧
      (Command.ofLine "mkdir reports").args.length ∉ Verb.mkdir.counts ∧
      TurnedAway sample .mkdir unanswered (outcome (sample.execute "mkdir reports") unanswered).1
        (outcome (sample.execute "mkdir reports") unanswered).2 := by
  have hv : (Command.ofLine "mkdir reports").name = Verb.mkdir.word := by
    decide
  have hcount : (Command.ofLine "mkdir reports").args.length ∉ Verb.mkdir.counts := by
    decide
  exact ⟨hv, hcount, (turned_away_iff hv hcount unanswered).mpr ⟨by decide, by decide⟩⟩

/-- **The two commands that do not count**: with an argument, of which they take none, `help` does
what it does without, and `exit` says to stop. -/
theorem miscounted_help :
    (Command.ofLine "help \"x\"" = ⟨Verb.help.word, ["x"]⟩ ∧ 1 ∉ Verb.help.counts ∧
        sample.execute "help \"x\"" = sample.execute "help" ∧
        ¬ TurnedAway sample .help unanswered (outcome (sample.execute "help \"x\"") unanswered).1
          (outcome (sample.execute "help \"x\"") unanswered).2) ∧
      Command.ofLine "exit \"x\"" = ⟨Verb.exit.word, ["x"]⟩ ∧ 1 ∉ Verb.exit.counts ∧
        outcome (sample.execute "exit \"x\"") unanswered = (.ok (sample, false), unanswered) ∧
        ¬ TurnedAway sample .exit unanswered (outcome (sample.execute "exit \"x\"") unanswered).1
          (outcome (sample.execute "exit \"x\"") unanswered).2 := by
  have hhelp : Command.ofLine "help \"x\"" = ⟨Verb.help.word, ["x"]⟩ := by
    decide
  have hbare : (Command.ofLine "help").name = Verb.help.word := by
    decide
  have hexit : Command.ofLine "exit \"x\"" = ⟨Verb.exit.word, ["x"]⟩ := by
    decide
  have hname : (Command.ofLine "help \"x\"").name = Verb.help.word := congrArg Command.name hhelp
  refine ⟨⟨hhelp, by decide, ?_, not_turnedAway_help hname unanswered⟩, hexit, by decide, ?_, ?_⟩
  · rw [execute_eq hname, execute_eq hbare]
    rfl
  · exact execute_exit (congrArg Command.name hexit) unanswered
  · exact not_turnedAway_exit (congrArg Command.name hexit) unanswered

end Session

end NamenodeShell
