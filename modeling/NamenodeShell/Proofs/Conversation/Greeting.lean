import NamenodeShell.Conversation
import NamenodeShell.Proofs.Disk.Refusals
import NamenodeShell.Proofs.Markup.Lines
import NamenodeShell.Proofs.Session.Discretion

/-!
# What is said before the first line

Between the answer that tells the home directory and the first prompt the person is greeted, and the
file that remembers lines is opened. The greeting can always be shown when there is no opening
bracket in the name of the host (`completes_greet`). Where the file cannot be used another one is
meant to be, and it is whenever the disk can be asked for the path (`completes_openHistory`); a path
with a NUL in it is refused before the disk is asked, and that refusal is not made up for but gets
out (`openHistory_of_nul`).
-/
set_option autoImplicit false

namespace NamenodeShell

open Shell

/-! ## Computations that do not fail -/

namespace Shell

variable {α β : Type}

/-- **A computation that comes to a value** whatever surroundings it begins in. -/
def Completes (act : Shell α) : Prop :=
  ∀ w, ∃ a w', outcome act w = (.ok a, w')

theorem completes_disk : Completes disk := fun w => ⟨w.disk, w, rfl⟩

theorem completes_setDisk (d : Disk) : Completes (setDisk d) :=
  fun w => ⟨(), _, outcome_setDisk d w⟩

/-- What completes in two parts completes. -/
theorem Completes.bind {act : Shell α} {next : α → Shell β} (h : Completes act)
    (hnext : ∀ a, Completes (next a)) : Completes (act >>= next) := by
  intro w
  obtain ⟨a, w', hact⟩ := h w
  obtain ⟨b, w'', hb⟩ := hnext a w'
  exact ⟨b, w'', (outcome_bind_of_ok hact).trans hb⟩

/-- A line that can be shown is shown. -/
theorem completes_say {markup : String} {text : Markup.Styled}
    (h : Markup.render markup = .ok text) : Completes (say markup) :=
  fun w => ⟨(), _, outcome_say_of_render h w⟩

/-- Escaped text can always be shown. -/
theorem completes_tell (line : String) : Completes (tell line) := by
  obtain ⟨cs, hrender⟩ := Markup.render_escape line
  exact completes_say hrender

end Shell

/-! ## The base of all URLs -/

namespace Client

/-- A number is written in digits, and a minus in front. -/
theorem not_mem_toString (n : Int) : '[' ∉ (toString n).toList := by
  have hdigits (m : Nat) : '[' ∉ (toString m).toList := by
    rw [Nat.toString_eq_ofList_toDigits, String.toList_ofList]
    exact fun h => absurd (Nat.isDigit_of_mem_toDigits (by decide) (by decide) h) (by decide)
  cases n with
  | ofNat m => exact hdigits m
  | negSucc m =>
    change '[' ∉ ("-" ++ toString (m + 1)).toList
    rw [String.toList_append, List.mem_append, not_or]
    exact ⟨by decide, hdigits (m + 1)⟩

/-- There is no opening bracket in what all URLs begin with if there is none in the scheme and the
host. -/
theorem not_mem_apiBase {c : Client} (hscheme : '[' ∉ c.scheme.toList)
    (hhost : '[' ∉ c.host.toList) : '[' ∉ c.apiBase.toList := by
  have hport := not_mem_toString c.port
  simp only [apiBase, String.toList_append, List.mem_append, not_or]
  exact ⟨⟨⟨⟨⟨hscheme, by decide⟩, hhost⟩, by decide⟩, hport⟩, by decide⟩

end Client

namespace Conversation

variable {w w₁ : Surroundings} {c : Client}

/-- Words around a text without opening brackets. -/
theorem isFront_around {front base back : String} {last : Char} (hfront : '[' ∉ front.toList)
    (hbase : '[' ∉ base.toList) (hback : '[' ∉ back.toList)
    (hlast : back.toList.getLast? = some last) (hne : last ≠ '\\') :
    Markup.IsFront (front ++ base ++ back).toList where
  no_bracket := by
    simp only [String.toList_append, List.mem_append, not_or]
    exact ⟨⟨hfront, hbase⟩, hback⟩
  no_backslash := by
    rw [String.toList_append, List.getLast?_append, hlast, Option.some_or]
    exact fun h => hne (Option.some.inj h)

/-- The words in front of the name of the user, whose own brackets are escaped, -/
theorem isFront_connected (h : '[' ∉ c.apiBase.toList) :
    Markup.IsFront ("Connected to " ++ c.apiBase ++ " as ").toList :=
  isFront_around (by decide) h (by decide) (show _ = some ' ' by decide) (by decide)

/-- and those in front of what is wrong. -/
theorem isFront_failed (h : '[' ∉ c.apiBase.toList) :
    Markup.IsFront ("Failed to connect to " ++ c.apiBase ++ "\n").toList :=
  isFront_around (by decide) h (by decide) (show _ = some '\n' by decide) (by decide)

/-! ## Greeting -/

/-- The line that tells the release is the shell's own from end to end. -/
theorem render_release : ∃ text,
    Markup.render ("[dim]Client: " ++ Release.text ++ "[/dim]") = .ok text := by
  have hfront : Markup.IsFront ("Client: " ++ Release.text).toList := ⟨by decide, by decide⟩
  have hmarkup : ("[dim]Client: " ++ Release.text ++ "[/dim]").toList =
      Markup.bracketed "dim".toList ++ (("Client: " ++ Release.text).toList ++
        Markup.bracketed ('/' :: "dim".toList)) := by
    decide
  obtain ⟨shown, hrender, -⟩ :=
    Markup.render_between Markup.isStyle_dim hfront.isLiteralText hmarkup
  exact ⟨_, hrender⟩

/-- **The greeting can always be shown.** -/
theorem completes_greet (h : '[' ∉ c.apiBase.toList) : Completes (greet c) := by
  obtain ⟨text, hrelease⟩ := render_release
  have hconnected : ∃ text,
      Markup.render ("Connected to " ++ c.apiBase ++ " as " ++ Markup.escape c.user) = .ok text :=
    ⟨_, Markup.render_behind (isFront_connected h) (String.toList_append)⟩
  have hempty : ∃ text, Markup.render "" = .ok text :=
    ⟨_, Markup.render_front ⟨by decide, by decide⟩⟩
  obtain ⟨text', hconnected⟩ := hconnected
  obtain ⟨text'', hempty⟩ := hempty
  exact (completes_say hrelease).bind fun _ => (completes_say hconnected).bind fun _ =>
    (completes_tell _).bind fun _ => completes_say hempty

/-- To greet is to idle. -/
theorem obeys_greet {T : Surroundings → Surroundings → Prop} [Idle T] (c : Client) :
    Obeys T (greet c) :=
  obeys_bind (obeys_say _) fun _ => obeys_bind (obeys_say _) fun _ =>
    obeys_bind (obeys_tell _) fun _ => obeys_say _

/-! ## The file for lines -/

/-- The warning is words and the path between the tags of a style. -/
theorem toList_warning (path : String) :
    (s!"[yellow]Warning: Cannot use {Markup.escape path}, using temporary history file[/yellow]"
      ).toList = Markup.bracketed "yellow".toList ++ ("Warning: Cannot use ".toList ++
        ((Markup.escape path).toList ++ ", using temporary history file".toList) ++
          Markup.bracketed ('/' :: "yellow".toList)) := by
  simp only [Markup.bracketed, String.toList_append, toString]
  simp

/-- The warning that another file is used can always be shown. -/
theorem render_warning (path : String) : ∃ text, Markup.render
    s!"[yellow]Warning: Cannot use {Markup.escape path}, using temporary history file[/yellow]" =
      .ok text := by
  have hfront : Markup.IsFront "Warning: Cannot use ".toList := ⟨by decide, by decide⟩
  have hplain : Markup.IsPlain ", using temporary history file".toList := by
    simp [Markup.IsPlain]
  have hliteral := ((Markup.isLiteralText_escape path).append_plain hplain).behind hfront
  obtain ⟨shown, hrender, -⟩ :=
    Markup.render_between Markup.isStyle_yellow hliteral (toList_warning path)
  exact ⟨_, hrender⟩

/-- The directory of a path, as one that can be ensured. -/
def aboveOf (path : String) : String :=
  if Path.parent path = "" then "." else Path.parent path

/-- The place where the file is opened spells it out. -/
theorem aboveOf_eq (path : String) :
    (if Path.parent path = "" then "." else Path.parent path) = aboveOf path := rfl

/-- What the disk refuses is made up for. The path has to be one that the disk can be asked for: it
is the refusals of the disk that are caught. -/
theorem completes_openHistory {home file : String}
    (h : '\x00' ∉ (Path.expandHome home file).toList) : Completes (openHistory home file) := by
  have habove : '\x00' ∉ (aboveOf (Path.expandHome home file)).toList := by
    unfold aboveOf
    split
    next => decide
    next => exact Path.not_mem_parent h
  refine completes_disk.bind fun d => ?_
  simp only [aboveOf_eq]
  generalize aboveOf (Path.expandHome home file) = above at habove ⊢
  cases hensure : d.ensureDirectories (above.length + 1) above with
  | mk d' refusal =>
    refine (completes_setDisk d').bind fun _ => ?_
    obtain ⟨text, hwarning⟩ := render_warning (Path.expandHome home file)
    split
    next d'' _ => exact completes_setDisk d''
    -- neither the directories nor the file are refused for a NUL when there is none in the path
    next hnul =>
      have hrefused := Disk.ensureDirectories_ne_nul (above.length + 1) d habove
      rw [hensure] at hrefused
      cases refusal with
      | none => exact absurd hnul (Disk.openForAppend_ne_nul h)
      | some cause => exact absurd (congrArg some (Except.error.inj hnul)) hrefused
    next => exact completes_say hwarning

/-- **The refusal that is not caught**: a path with a NUL in it, in a directory that can be made, is
refused before the disk is asked for it, and the failure gets out instead of the warning. -/
theorem openHistory_of_nul {home file : String}
    (h : '\x00' ∈ (Path.expandHome home file).toList)
    (habove : (w.disk.ensureDirectories ((aboveOf (Path.expandHome home file)).length + 1)
      (aboveOf (Path.expandHome home file))).2 = none) :
    ∃ w', outcome (openHistory home file) w =
      (.error (.disk .nul (Path.expandHome home file)), w') := by
  unfold openHistory
  rw [outcome_bind_of_ok (outcome_disk w)]
  simp only [aboveOf_eq]
  cases hensure : w.disk.ensureDirectories ((aboveOf (Path.expandHome home file)).length + 1)
    (aboveOf (Path.expandHome home file)) with
  | mk d' refusal =>
    rw [hensure] at habove
    obtain rfl := habove
    rw [outcome_bind_of_ok (outcome_setDisk d' w)]
    simp only [Disk.openForAppend_of_nul h]
    exact ⟨_, rfl⟩

/-- Opening the file for lines asks for nothing. -/
theorem obeys_openHistory {T : Surroundings → Surroundings → Prop} [Idle T]
    (hstoring : ∀ d w, T w { w with disk := d }) (home file : String) :
    Obeys T (openHistory home file) := by
  refine obeys_bind obeys_disk fun d => ?_
  simp only
  refine obeys_bind (hstoring _) fun _ => ?_
  split
  next d' _ => exact hstoring d'
  next => exact obeys_throw _
  next => exact obeys_say _

/-- **What is said and done before the first line.** -/
def prepare (env : Environment) (settings : Settings) (c : Client) : Shell Unit := do
  greet c
  openHistory env.home settings.historyFile

/-- **Nothing fails before the first line**, when no bracket is in the base of the URLs and no NUL
in the path of the file. -/
theorem completes_prepare {env : Environment} {settings : Settings}
    (hbase : '[' ∉ c.apiBase.toList)
    (hhistory : '\x00' ∉ (Path.expandHome env.home settings.historyFile).toList) :
    Completes (prepare env settings c) :=
  (completes_greet hbase).bind fun _ => completes_openHistory hhistory

/-- So a path with a NUL in it ends it all behind the greeting. -/
theorem prepare_of_nul (env : Environment) (settings : Settings) (hbase : '[' ∉ c.apiBase.toList)
    (h : '\x00' ∈ (Path.expandHome env.home settings.historyFile).toList)
    (habove : (w.disk.ensureDirectories
      ((aboveOf (Path.expandHome env.home settings.historyFile)).length + 1)
      (aboveOf (Path.expandHome env.home settings.historyFile))).2 = none) :
    ∃ w', outcome (prepare env settings c) w =
      (.error (.disk .nul (Path.expandHome env.home settings.historyFile)), w') := by
  obtain ⟨⟨⟩, w₁, hgreet⟩ := completes_greet hbase w
  have hquiet := obeys_greet (T := Surroundings.Quiet) c w
  rw [hgreet] at hquiet
  rw [← hquiet.2] at habove
  obtain ⟨w₂, hopen⟩ := openHistory_of_nul h habove
  exact ⟨w₂, (outcome_bind_of_ok hgreet).trans hopen⟩

/-- What is said and done before the first line is to idle, but for the disk. -/
theorem obeys_prepare {T : Surroundings → Surroundings → Prop} [Idle T]
    (hstoring : ∀ d w, T w { w with disk := d }) (env : Environment) (settings : Settings)
    (c : Client) : Obeys T (prepare env settings c) :=
  obeys_bind (obeys_greet c) fun _ => obeys_openHistory hstoring _ _

end Conversation

end NamenodeShell
