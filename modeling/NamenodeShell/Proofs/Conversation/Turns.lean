import NamenodeShell.Proofs.Conversation.Opening
import NamenodeShell.Proofs.Session.Boundary

/-!
# How lines are taken

Once there is a session the conversation takes turns: a prompt, and what becomes of the input. One
`turn` leads from one standing, a session with what it has around it, to the next, and says whether
another is taken; all the turns are a fold of this (`standing`). A line is carried out, and one that
is interrupted leaves the session in which it was typed; nothing else gets out of a line, so nothing
gets out of a turn.

A conversation is the fold over its inputs up to the first that says to stop, and over all of them
where none does (`course_converse`). However it ends, also before there is a session, the connection
is given back once, at the end (`released_hold`).
-/
set_option autoImplicit false

namespace NamenodeShell

open Shell

namespace Surroundings

/-- The surroundings once a line has been asked for. -/
def prompted (w : Surroundings) (s : Session) : Surroundings :=
  { w with log := w.log ++ [.prompted (Conversation.prompt s)] }

/-- The surroundings once something has been said. -/
def told (w : Surroundings) (text : List Char) : Surroundings :=
  { w with log := w.log ++ [.shown (.ofChars text)] }

end Surroundings

namespace Conversation

variable {w : Surroundings} {s : Session}

/-! ## What is said between the lines -/

/-- An interrupted prompt or line is answered with how to leave, -/
theorem outcome_explainExit (w : Surroundings) :
    outcome explainExit w = (.ok (), w.told "\nUse 'exit' to leave".toList) :=
  outcome_say_of_render (Markup.render_front ⟨by decide, by decide⟩) w

/-- the end of the input with a farewell, -/
theorem outcome_goodbye (w : Surroundings) :
    outcome goodbye w = (.ok (), w.told "\nGoodbye!".toList) :=
  outcome_say_of_render (Markup.render_front ⟨by decide, by decide⟩) w

/-- The line about a failure of the terminal. -/
def unexpectedLine (message : String) : List Char :=
  "Unexpected error: ".toList ++ Markup.shownOf (Markup.pieces (Markup.escape message).toList)

/-- and a failure of the terminal with what it is. -/
theorem outcome_unexpected (message : String) (w : Surroundings) :
    outcome (unexpected message) w = (.ok (), w.told (unexpectedLine message)) :=
  outcome_say_of_render
    (Markup.render_behind ⟨by decide, by decide⟩ String.toList_append) w

/-! ## One turn -/

/-- **One turn**: the standing after an input, and whether another is taken. -/
def turn (stand : Session × Surroundings) : Input → (Session × Surroundings) × Bool
  | .line text =>
    match outcome (stand.1.execute text) (stand.2.prompted stand.1) with
    | (.ok (s, goesOn), w) => ((s, w), goesOn)
    | (.error _, w) => ((stand.1, w.told "\nUse 'exit' to leave".toList), true)
  | .interrupt =>
    ((stand.1, (stand.2.prompted stand.1).told "\nUse 'exit' to leave".toList), true)
  | .endOfInput => ((stand.1, (stand.2.prompted stand.1).told "\nGoodbye!".toList), false)
  | .broken message => ((stand.1, (stand.2.prompted stand.1).told (unexpectedLine message)), true)

variable (stand : Session × Surroundings)

/-- **A conversation takes a turn**, and goes on from there or is over. -/
theorem outcome_converse_cons (input : Input) (rest : List Input) :
    outcome (converse stand.1 (input :: rest)) stand.2 =
      if (turn stand input).2 then
        outcome (converse (turn stand input).1.1 rest) (turn stand input).1.2
      else (.ok (), (turn stand input).1.2) := by
  conv_lhs => unfold converse
  rw [outcome_bind_of_ok (outcome_note _ _)]
  cases input with
  | line text =>
    change outcome (tryCatch (stand.1.execute text) (survive stand.1) >>= _)
      (stand.2.prompted stand.1) = _
    rw [outcome_bind, outcome_tryCatch, turn]
    cases hexecute : outcome (stand.1.execute text) (stand.2.prompted stand.1) with
    | mk result w' =>
      cases result with
      | ok a =>
        obtain ⟨s', goesOn⟩ := a
        cases goesOn <;> rfl
      | error f =>
        -- Nothing else gets out of a line, so there is nothing that would end the conversation
        -- here.
        obtain rfl := Session.execute_escapes hexecute
        have hsurvive : outcome (survive stand.1 .interrupted) w' =
            (.ok (stand.1, true), w'.told "\nUse 'exit' to leave".toList) :=
          outcome_bind_of_ok (outcome_explainExit w')
        simp only [hsurvive, if_true]
  | interrupt => exact outcome_bind_of_ok (outcome_explainExit _)
  | endOfInput => exact outcome_goodbye _
  | broken message => exact outcome_bind_of_ok (outcome_unexpected message _)

/-- Without another input the conversation takes leave. -/
theorem outcome_converse_nil :
    outcome (converse stand.1 []) stand.2 =
      (.ok (), (stand.2.prompted stand.1).told "\nGoodbye!".toList) :=
  outcome_goodbye _

/-- What a turn does once a line has been asked for is as every thorough law allows. -/
theorem obeys_turn {T : Surroundings → Surroundings → Prop} [Thorough T] (input : Input) :
    T (stand.2.prompted stand.1) (turn stand input).1.2 := by
  have htold (w : Surroundings) (text : List Char) : T w (w.told text) := Idle.aside rfl w
  cases input with
  | line text =>
    have hexecuted := stand.1.obeys_execute (T := T) text (stand.2.prompted stand.1)
    unfold turn
    simp only
    split
    next hexecute =>
      rw [hexecute] at hexecuted
      exact hexecuted
    next hexecute =>
      rw [hexecute] at hexecuted
      exact trans_of T hexecuted (htold _ _)
  | _ => exact htold _ _

/-- **An interrupted line** leaves the session in which it was typed, and another is taken. -/
theorem turn_interrupted {text : String}
    (h : Interrupted (stand.2.exchanges (turn stand (.line text)).1.2)) :
    (turn stand (.line text)).1.1 = stand.1 ∧ (turn stand (.line text)).2 = true := by
  obtain ⟨xs, hxs, hiff⟩ := Session.heeds_execute (s := stand.1) text (stand.2.prompted stand.1)
  have hprompted : stand.2.Passed (stand.2.prompted stand.1) [] := .of_log rfl _
  unfold turn at h ⊢
  simp only at h ⊢
  split
  next hexecute =>
    rw [hexecute] at h hxs hiff
    rw [(hprompted.trans hxs).exchanges_eq] at h
    -- A line that was interrupted has not come to a session of its own.
    cases hiff.mpr h
  next => exact ⟨rfl, rfl⟩

/-- A remote directory that is a path stays one. -/
theorem turn_remote {cwd : String} (h : stand.1.remote = .path cwd) (input : Input) :
    ∃ cwd', (turn stand input).1.1.remote = .path cwd' := by
  cases input with
  | line text =>
    have hstep := Session.Step.of_line (stand.1, stand.2.prompted stand.1) text
    unfold Session.afterLine at hstep
    unfold turn
    simp only at hstep ⊢
    split
    next s' goesOn w' hexecute =>
      rw [hexecute] at hstep
      by_cases hsame : s'.remote = stand.1.remote
      · exact ⟨cwd, hsame.trans h⟩
      · obtain ⟨_, _, _, -, -, -, hnew, -⟩ := hstep.remote hsame
        exact ⟨_, hnew⟩
    next => exact ⟨cwd, h⟩
  | _ => exact ⟨cwd, h⟩

/-! ## All turns -/

/-- **Where a conversation stands** before one of its inputs, after all those in front of it. -/
def standing (first : Session × Surroundings) (inputs : List Input) (i : Nat) :
    Session × Surroundings :=
  (inputs.take i).foldl (fun stand input => (turn stand input).1) first

/-- An input leads from one standing to the next. -/
theorem standing_succ (first : Session × Surroundings) {inputs : List Input} {i : Nat}
    {input : Input} (h : inputs[i]? = some input) :
    standing first inputs (i + 1) = (turn (standing first inputs i) input).1 := by
  unfold standing
  rw [List.take_add_one, h, List.foldl_append]
  rfl

/-- **The course of a conversation** of so many turns after which others follow. -/
structure Course (first : Session × Surroundings) (inputs : List Input) (n : Nat)
    (w : Surroundings) : Prop where
  /-- No input before the last turn says to stop; -/
  goesOn : ∀ i input, i < n → inputs[i]? = some input →
    (turn (standing first inputs i) input).2 = true
  /-- the one of the last turn does, or there is none. -/
  ends : (∃ input, inputs[n]? = some input ∧ (turn (standing first inputs n) input).2 = false ∧
      w = (standing first inputs (n + 1)).2) ∨
    n = inputs.length ∧ w = ((standing first inputs n).2.prompted
      (standing first inputs n).1).told "\nGoodbye!".toList
  /-- The prompt before each turn shows the remote directory that the turns in front of it have led
  to. -/
  prompts : ∃ (cwds : List String) (events : List Event), cwds.length = n + 1 ∧
    (∀ i cwd, cwds[i]? = some cwd → (standing first inputs i).1.remote = .path cwd) ∧
    w.log = first.2.log ++ events ∧
    events.filterMap Event.prompt? = cwds.map fun cwd => "hdfs:" ++ cwd ++ "> "

namespace Course

variable {first : Session × Surroundings} {inputs : List Input} {n : Nat} {cwd : String}

/-- One prompt, and discreet events behind it. -/
theorem filterMap_prompt? (h : s.remote = .path cwd) {events : List Event}
    (hevents : ∀ e ∈ events, e.isDiscreet = true) :
    (Event.prompted (prompt s) :: events).filterMap Event.prompt? =
      ["hdfs:" ++ cwd ++ "> "] := by
  have hprompt : prompt s = "hdfs:" ++ cwd ++ "> " := by
    rw [prompt, h]
    rfl
  change prompt s :: events.filterMap Event.prompt? = _
  rw [Event.filterMap_prompt?_eq_nil hevents, hprompt]

/-- A single turn. -/
theorem of_end (hremote : first.1.remote = .path cwd)
    (hdiscreet : (first.2.prompted first.1).Discreet w)
    (hends : (∃ input, inputs[0]? = some input ∧ (turn first input).2 = false ∧
        w = (standing first inputs 1).2) ∨
      0 = inputs.length ∧ w = (first.2.prompted first.1).told "\nGoodbye!".toList) :
    Course first inputs 0 w where
  goesOn _ _ hi := absurd hi (Nat.not_lt_zero _)
  ends := hends
  prompts := by
    obtain ⟨events, hlog, hevents⟩ := hdiscreet
    refine ⟨[cwd], .prompted (prompt first.1) :: events, rfl, ?_, ?_,
      filterMap_prompt? hremote hevents⟩
    · intro i cwd' hi
      obtain ⟨rfl, rfl⟩ : i = 0 ∧ cwd' = cwd := by
        cases i with
        | zero => exact ⟨rfl, (Option.some.inj hi).symm⟩
        | succ i => cases hi
      exact hremote
    · rw [hlog]
      exact List.append_assoc _ [_] _

/-- One turn in front of others. -/
theorem cons {input : Input} (hremote : first.1.remote = .path cwd)
    (hgoes : (turn first input).2 = true) (h : Course (turn first input).1 inputs n w) :
    Course first (input :: inputs) (n + 1) w where
  goesOn i input' hi hinput := by
    cases i with
    | zero =>
      obtain rfl := Option.some.inj hinput
      exact hgoes
    | succ i => exact h.goesOn i input' (Nat.lt_of_succ_lt_succ hi) hinput
  ends := by
    rcases h.ends with hstop | ⟨hn, hw⟩
    · exact .inl hstop
    · exact .inr ⟨congrArg (· + 1) hn, hw⟩
  prompts := by
    obtain ⟨events, hlog, hevents⟩ := obeys_turn (T := Surroundings.Discreet) first input
    obtain ⟨cwds, events', hlength, hcwds, hlog', hprompts⟩ := h.prompts
    refine ⟨cwd :: cwds, (.prompted (prompt first.1) :: events) ++ events',
      congrArg (· + 1) hlength, ?_, ?_, ?_⟩
    · intro i cwd' hi
      cases i with
      | zero =>
        obtain rfl := Option.some.inj hi
        exact hremote
      | succ i => exact hcwds i cwd' hi
    · rw [hlog', hlog, Surroundings.prompted, List.append_assoc, List.append_assoc]
      rfl
    · rw [List.filterMap_append, filterMap_prompt? hremote hevents, hprompts]
      rfl

/-- **An interrupted line** leaves the session in which it was typed, and another is taken. -/
theorem interrupted (h : Course first inputs n w) {i : Nat} {text : String} (hi : i ≤ n)
    (htext : inputs[i]? = some (.line text))
    (hinterrupted : Interrupted
      ((standing first inputs i).2.exchanges (standing first inputs (i + 1)).2)) :
    i < n ∧ (standing first inputs (i + 1)).1 = (standing first inputs i).1 := by
  rw [standing_succ first htext] at hinterrupted ⊢
  obtain ⟨hsession, hgoes⟩ := turn_interrupted _ hinterrupted
  refine ⟨Nat.lt_of_le_of_ne hi ?_, hsession⟩
  rintro rfl
  -- It is not the last turn: that one says to stop, or has no input.
  rcases h.ends with ⟨input, hinput, hstop, -⟩ | ⟨hn, -⟩
  · obtain rfl := Option.some.inj (htext.symm.trans hinput)
    rw [hgoes] at hstop
    cases hstop
  · rw [hn, List.getElem?_eq_none (Nat.le_refl _)] at htext
    cases htext

end Course

/-- **Every conversation takes its course.** -/
theorem course_converse (first : Session × Surroundings) {cwd : String}
    (hremote : first.1.remote = .path cwd) (inputs : List Input) :
    ∃ n w', outcome (converse first.1 inputs) first.2 = (.ok (), w') ∧
      Course first inputs n w' := by
  induction inputs generalizing first cwd with
  | nil =>
    exact ⟨0, _, outcome_converse_nil first,
      .of_end hremote (Idle.aside rfl _) (.inr ⟨rfl, rfl⟩)⟩
  | cons input rest ih =>
    rw [outcome_converse_cons]
    -- The turn says to go on, and the rest takes its course from where it leads, or it is the last.
    cases hgoes : (turn first input).2 with
    | true =>
      obtain ⟨cwd', hremote'⟩ := turn_remote first hremote input
      obtain ⟨n, w', hconverse, hcourse⟩ := ih _ hremote'
      exact ⟨n + 1, w', hconverse, hcourse.cons hremote hgoes⟩
    | false =>
      exact ⟨0, _, rfl, .of_end hremote (obeys_turn first input) (.inl ⟨input, rfl, hgoes, rfl⟩)⟩

/-! ## The connection -/

section

variable {T : Surroundings → Surroundings → Prop} [Thorough T]

/-- What is done in all turns is as a thorough law allows, if it allows to ask for lines. -/
theorem obeys_converse (hprompted : ∀ s w, T w (w.prompted s)) (stand : Session × Surroundings)
    (inputs : List Input) : T stand.2 (outcome (converse stand.1 inputs) stand.2).2 := by
  induction inputs generalizing stand with
  | nil =>
    rw [outcome_converse_nil]
    exact trans_of T (hprompted _ _) (Idle.aside rfl _)
  | cons input rest ih =>
    have hturn : T stand.2 (turn stand input).1.2 :=
      trans_of T (hprompted _ _) (obeys_turn stand input)
    rw [outcome_converse_cons]
    split
    next => exact trans_of T hturn (ih _)
    next => exact hturn

/-- To connect is to ask for the home directory, and to say so if there is none. -/
theorem obeys_connect (c : Client) : Obeys T (connect c) := by
  have hhome : Obeys T c.home := by
    intro w
    rw [outcome_home]
    exact Routine.allows _ w
  refine obeys_tryCatch (obeys_bind hhome fun _ => obeys_pure _) fun f => ?_
  split
  next => exact obeys_bind (obeys_say _) fun _ => obeys_pure _
  next => exact obeys_throw f

variable {env : Environment} {settings : Settings} {host : String} {port : Int} {user : String}

/-- What is done with the connection is to ask once, to prepare, and to take the turns. -/
theorem obeys_connected (hprompted : ∀ s w, T w (w.prompted s)) (d : Disk) (inputs : List Input) :
    Obeys T (connected env settings host port user d inputs) := by
  refine obeys_bind (obeys_connect _) fun home? => ?_
  cases home? with
  | none => exact obeys_pure _
  | some home =>
    exact obeys_bind (obeys_prepare Thorough.storing _ _ _) fun _ =>
      obeys_bind (fun w => obeys_converse hprompted (_, w) inputs) fun _ => obeys_pure _

end

variable {env : Environment} {settings : Settings} {host : String} {port : Int} {user : String}

/-- **The connection is given back once**, at the end, however a conversation ends. -/
theorem released_hold (hdir : w.disk.isDirectory (startDir env settings w.disk) = true)
    (inputs : List Input) :
    ∃ events, (outcome (hold env settings host port user inputs) w).2.log =
        w.log ++ events ++ [.released] ∧
      ∀ e ∈ events, e ≠ .released := by
  have hkeeps : Obeys (Surroundings.Grows (· ≠ .released))
      (connected env settings host port user w.disk inputs) :=
    obeys_connected (fun s w => .of_log (by nofun) w rfl) w.disk inputs
  obtain ⟨events, hlog, hevents⟩ := hkeeps w
  refine ⟨events, ?_, hevents⟩
  rw [outcome_hold hdir, Surroundings.released, hlog]

/-- **A conversation is the fold of its turns** up to the first that says to stop, from the session
that the home directory gives; and whatever the answers are, the connection is given back once, at
the end. -/
theorem hold_takes_turns (hdir : w.disk.isDirectory (startDir env settings w.disk) = true)
    (inputs : List Input) :
    (Ready env settings host w.disk → ∀ p, w.reply.ShowsHome (.text p) →
      ∃ w₁ n w₂,
        w.Passed w₁ [⟨homeRequest (clientOf settings host port user), w.reply⟩] ∧
        w.Discreet w₁ ∧
        outcome (hold env settings host port user inputs) w = (.ok .left, w₂.released) ∧
        Course (begun env settings host port user w.disk (.text p), w₁) inputs n w₂ ∧
        ∀ i text, i ≤ n → inputs[i]? = some (.line text) →
          let before := standing (begun env settings host port user w.disk (.text p), w₁) inputs i
          let after :=
            standing (begun env settings host port user w.disk (.text p), w₁) inputs (i + 1)
          Interrupted (before.2.exchanges after.2) → i < n ∧ after.1 = before.1) ∧
    ∃ events, (outcome (hold env settings host port user inputs) w).2.log =
        w.log ++ events ++ [.released] ∧
      ∀ e ∈ events, e ≠ .released := by
  refine ⟨fun hready p hhome => ?_, released_hold hdir inputs⟩
  obtain ⟨w₁, henters⟩ := enters_of_showsHome port user hready hhome
  let first := (begun env settings host port user w.disk (.text p), w₁)
  have hremote : first.1.remote = .path p := rfl
  obtain ⟨n, w₂, hconverse, hcourse⟩ := course_converse first hremote inputs
  change outcome (converse (begun env settings host port user w.disk (.text p)) inputs) w₁ = _
    at hconverse
  refine ⟨w₁, n, w₂, henters.asked, henters.discreet, ?_, hcourse, fun i text hi htext => ?_⟩
  · rw [henters.held, hconverse]
    rfl
  · exact hcourse.interrupted hi htext

theorem hold_takes_turns_sample :
    ∃ w₁ n w₂, outcome (hold [] sampleSettings "nn" 9870 "alice"
          [.line "help", .interrupt, .line "exit", .line "ls"]) sampleHome =
        (.ok .left, w₂.released) ∧
      Course (begun [] sampleSettings "nn" 9870 "alice" sampleHome.disk (.text "/user/alice"), w₁)
        [.line "help", .interrupt, .line "exit", .line "ls"] n w₂ := by
  have hready : Ready [] sampleSettings "nn" sampleHome.disk := ready_sample _
  obtain ⟨hturns, -⟩ := @hold_takes_turns sampleHome [] sampleSettings "nn" 9870 "alice"
    hready.directory [.line "help", .interrupt, .line "exit", .line "ls"]
  obtain ⟨w₁, n, w₂, -, -, hhold, hcourse, -⟩ := hturns hready _ showsHome_sample
  exact ⟨w₁, n, w₂, hhold, hcourse⟩

/-- **A conversation that is lost over its file for lines**: the path has a NUL in it, no other file
is used in its place, and the failure gets out before the first line is asked for. Everything else
is as it should be, so the line ought to have been taken. -/
theorem hold_refuses_history :
    let settings := { sampleSettings with historyFile := "/home/a\x00b" }
    sampleHome.disk.isDirectory (startDir [] settings sampleHome.disk) = true ∧
      sampleHome.reply.ShowsHome (.text "/user/alice") ∧
      ∃ f w', outcome (hold [] settings "nn" 9870 "alice" [.line "help"]) sampleHome =
          (.error f, w') ∧
        f.message = "embedded null byte" ∧ w'.log.filterMap Event.prompt? = [] := by
  intro settings
  let c := clientOf settings "nn" 9870 "alice"
  have hdir : sampleHome.disk.isDirectory (startDir [] settings sampleHome.disk) = true :=
    (ready_sample _).directory
  let asked := sampleHome.exchanged (homeRequest c)
  have hconnect := connect_of_home (c := c) (heard_home_eq_ok.mpr showsHome_sample)
  obtain ⟨w₁, hprepare⟩ := prepare_of_nul (c := c) (w := asked) [] settings (by decide)
    (by decide +kernel) (by decide +kernel)
  have hhold : outcome (hold [] settings "nn" 9870 "alice" [.line "help"]) sampleHome =
      (.error (.disk .nul (Path.expandHome (Environment.home []) settings.historyFile)),
        w₁.released) := by
    rw [outcome_hold hdir]
    unfold connected
    rw [outcome_bind_of_ok hconnect, outcome_bind_of_error hprepare]
  have hdiscreet := obeys_prepare (T := Surroundings.Discreet) Thorough.storing [] settings c asked
  rw [hprepare] at hdiscreet
  obtain ⟨events, hlog, hevents⟩ :=
    trans_of Surroundings.Discreet (Routine.allows (homeRequest c) sampleHome) hdiscreet
  refine ⟨hdir, showsHome_sample, _, _, hhold, by decide, ?_⟩
  have hprompts : w₁.log.filterMap Event.prompt? = [] := by
    rw [hlog]
    exact Event.filterMap_prompt?_eq_nil hevents
  rw [Surroundings.released, List.filterMap_append, hprompts]
  rfl

end Conversation

end NamenodeShell
