import NamenodeShell.Proofs.Listing
import NamenodeShell.Proofs.Session.Boundary

/-!
# Names and texts stay what they are

Nothing that comes from outside is taken for a tag, neither the name of an entry in a listing nor
the text of a failure in a report. The line of an entry looks as the template of its kind does
(`Listing.template`), whatever its name is; a report is red from end to end (`names_stay_text`).

A report stands under the name of the command where the failure is one that is expected of a
command, and is called an error everywhere else (`report_of_unexpected`). A text that ends in an odd
number of backslashes, three or more, makes the tag that closes the report literal
(`Markup.TakesTag`). The report is red then as well, but shows the tag.
-/
set_option autoImplicit false

namespace NamenodeShell

open Shell

namespace Listing

/-! ## Lines of entries -/

/-- **The template of a line**, as the runs of a line that shows a name. -/
def template (name : List Char) : Kind → List (Markup.Style × List Char)
  | .directory => [(.plain, "    📁 ".toList), (.boldCyan, name ++ ['/'])]
  | .symlink => [(.plain, "    📂 ".toList), (.cyan, name ++ ['@'])]
  | .file => [(.plain, "    📄 ".toList ++ name)]
  | .other => [(.plain, "    ".toList), (.yellow, ['?']),
      (.plain, ' ' :: (name ++ " (neither file nor directory)".toList))]

theorem runs_drawn (name : List Char) (kind : Kind) :
    (drawn name kind).runs = template name kind := by
  have hsigned (sign : Char) : name ++ [sign] ≠ [] :=
    List.append_ne_nil_of_right_ne_nil _ (List.cons_ne_nil _ _)
  cases kind with
  | directory => exact Markup.Styled.runs_within (by decide) (hsigned _) _ _
  | symlink => exact Markup.Styled.runs_within (by decide) (hsigned _) _ _
  | file =>
    have hfront : "    📄 ".toList ≠ [] := by
      decide
    exact Markup.Styled.runs_ofChars (List.append_ne_nil_of_left_ne_nil hfront _)
  | other => exact Markup.Styled.runs_within (by decide) (List.cons_ne_nil _ _) _ _

/-- **The line of an entry follows its template**, as a text: nothing of the name is a tag. -/
structure Follows (e : Entry) (text : Markup.Styled) : Prop where
  /-- The line can be shown, -/
  rendered : Markup.render (line e) = .ok text
  /-- no tag is read in the name, -/
  literal : Markup.tagsRead (Markup.escape e.name) = []
  /-- and those of the line are the ones of the template. -/
  tags : Markup.tagsRead (line e) = tags e.kind
  /-- The line looks as the template does, around what is shown of the name by itself. That is the
  name if it has no backslashes. -/
  runs : ∃ shown, Markup.render (Markup.escape e.name) = .ok (.ofChars shown) ∧
    text.runs = template shown e.kind ∧ ('\\' ∉ e.name.toList → shown = e.name.toList)

theorem follows_drawn (e : Entry) : Follows e (drawn (shownName e.name) e.kind) where
  rendered := (line_drawn e).1
  literal := (Markup.isLiteralText_escape e.name).tagsRead_eq_nil
  tags := (line_drawn e).2
  runs := by
    refine ⟨shownName e.name, Markup.render_escape_eq e.name, runs_drawn _ _, fun hplain => ?_⟩
    exact Markup.shownOf_escape (Markup.isKept_of_not_mem hplain)

end Listing

namespace Session

/-! ## Reports -/

/-- **A failure is reported by a text**: one that is red from end to end. -/
structure ReportedBy (v : Verb) (f : Failure) (text : Markup.Styled) : Prop where
  /-- The report can be shown, -/
  rendered : Markup.render (failureLine v f) = .ok text
  /-- in one run, which is red. -/
  runs : text.runs = [(.red, text.chars)]
  /-- No tags are read but those of the report, unless the text makes the closing one literal. -/
  tags : ¬ Markup.TakesTag f.message.toList →
    Markup.tagsRead (failureLine v f) = ["red".toList, "/red".toList]
  /-- A text without backslashes is shown as it is, behind what it is reported under. -/
  words : '\\' ∉ f.message.toList → text.chars = (label v f ++ ": " ++ f.message).toList

theorem exists_reportedBy (v : Verb) (f : Failure) : ∃ text, ReportedBy v f text := by
  obtain ⟨shown, hrender, hshows⟩ := render_failureLine v f
  have hshown : shown ≠ [] := by
    rintro rfl
    have hfront := List.prefix_nil.mp (front_of_render_failureLine hrender)
    rw [String.toList_append, List.append_eq_nil_iff] at hfront
    exact absurd hfront.2 (by decide)
  refine ⟨.allOver .red shown, hrender, Markup.Styled.runs_allOver hshown, fun htakes => ?_, ?_⟩
  · exact Markup.tagsRead_report Markup.isStyle_red (isFront_label v f) htakes
      (toList_failureLine v f)
  · exact fun hplain => (hshows (Markup.isKept_of_not_mem hplain)).1

/-- **Names and texts stay what they are.** The line of every entry follows its template; and what
is shown of a line that fails is the report of the failure, and it alone. -/
theorem names_stay_text :
    (∀ e : Entry, ∃ text, Listing.Follows e text) ∧
    ∀ (v : Verb) (f : Failure), ∃ text, ReportedBy v f text ∧
      ∀ (s : Session) (line : String) (w w' : Surroundings),
        (Command.ofLine line).name = v.word →
        outcome (s.run v (Command.ofLine line).args) w = (.error f, w') → f ≠ .interrupted →
        outcome (s.execute line) w =
          (.ok (s, true), { w' with log := w'.log ++ [.shown text] }) := by
  refine ⟨fun e => ⟨_, Listing.follows_drawn e⟩, fun v f => ?_⟩
  obtain ⟨text, htext⟩ := exists_reportedBy v f
  refine ⟨text, htext, fun s line w w' hv hrun hf => ?_⟩
  rw [execute_of_failed hv hrun]
  exact outcome_recover_of_render hf htext.rendered w'

/-- A directory and a failure with tags in their names. -/
theorem names_stay_text_sample :
    (∃ text, Markup.render (Listing.line ⟨"[red]x[/red]", .directory⟩) = .ok text ∧
      text.runs = [(.plain, "    📁 ".toList), (.boldCyan, "[red]x[/red]/".toList)]) ∧
    ∃ text, outcome (sample.execute "mkdir \"[/red]/\"") unanswered =
        (.ok (sample, true), { unanswered with log := [.shown text] }) ∧
      text.runs = [(.red, "mkdir: '[/red]/' is not a file name".toList)] := by
  constructor
  · obtain ⟨text, htext⟩ := names_stay_text.1 ⟨"[red]x[/red]", .directory⟩
    obtain ⟨shown, -, hruns, hshown⟩ := htext.runs
    rw [hshown (by decide)] at hruns
    exact ⟨text, htext.rendered, hruns⟩
  · have hline : Command.ofLine "mkdir \"[/red]/\"" = ⟨Verb.mkdir.word, ["[/red]/"]⟩ := by
      decide
    obtain ⟨text, htext, hexecute⟩ := names_stay_text.2 .mkdir (.notBare "[/red]/")
    refine ⟨text, hexecute sample _ unanswered unanswered ?_ ?_ nofun, ?_⟩
    · exact congrArg Command.name hline
    · rw [hline]
      rfl
    · rw [htext.runs, htext.words (by decide +kernel)]
      exact congrArg (fun s => [(Markup.Style.red, String.toList s)]) (by decide +kernel)

/-- A service that answers with an object that has no members. -/
def memberless : Surroundings where
  service := [⟨.response { status := 200, headers := [], body := .whole (Bytes.ofText "\x7b\x7d") },
    none⟩]
  disk := { tree := [] }

/-- The text of what a command fails of, and whether that is reported under its name. -/
def failureOf (s : Session) (v : Verb) (args : List String) (w : Surroundings) :
    Option (String × Bool) :=
  match (outcome (s.run v args) w).1 with
  | .error f => some (f.message, f.isExpected)
  | .ok _ => none

/-- **A report that is not under the name of the command**: an answer without the status that was
asked for is not among the failures that are expected. -/
theorem report_of_unexpected :
    Command.ofLine "delete \"x\"" = ⟨Verb.delete.word, ["x"]⟩ ∧
      sample.failureOf .delete ["x"] memberless = some ("'FileStatus'", false) ∧
      (outcome (sample.execute "delete \"x\"") memberless).2.log.filterMap Event.shown? =
        [.allOver .red "Error: 'FileStatus'".toList] ∧
      "Error: 'FileStatus'" ≠ Verb.delete.word ++ ": " ++ "'FileStatus'" := by
  refine ⟨?_, ?_, ?_, ?_⟩ <;> decide +kernel

end Session

end NamenodeShell
