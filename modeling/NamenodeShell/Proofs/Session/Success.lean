import NamenodeShell.Proofs.Session.Counts
import NamenodeShell.Proofs.Transfer.Addition

/-!
# When success is reported

The two commands that change the remote tree by one request, and when they say that they did. They
ask for the path, send the request that changes it, and report success when the answer to that was
*accepted*: a response that refuses nothing, with an object for a body. What the object says is not
looked at, so a service that says no is reported as if it had said yes
(`success_shown_iff`, `success_of_disagreement`).

Both commands have one shape, `Change`, and are seen to take the steps of it once (`run_change`).
That nothing else they show passes for a report of success has two reasons: what reports a failure
is red, and the complaint about a number of arguments begins otherwise.
-/
set_option autoImplicit false

namespace NamenodeShell

open Shell

/-! ## Lines that are told -/

namespace Shell

/-- What is shown of a line that is told. -/
def told (line : String) : Markup.Styled :=
  .ofChars (Markup.shownOf (Markup.pieces (Markup.escape line).toList))

/-- **A line can always be told.** -/
theorem outcome_tell (line : String) (w : Surroundings) :
    outcome (tell line) w = (.ok (), { w with log := w.log ++ [.shown (told line)] }) :=
  outcome_say_of_render (Markup.render_escape_eq line) w

/-- What is told is shown as it is where escaping keeps it. -/
theorem told_of_isKept {line : String} (h : Markup.IsKept line.toList) :
    told line = .ofChars line.toList := by
  rw [told, Markup.shownOf_escape h]

end Shell

namespace Client

/-- A response can be asked for agreement just when its body is an object. -/
theorem agreementIn_isOk {r : Response} :
    (∃ b, agreementIn r = .ok b) ↔ ∃ members, r.json = .ok (.object members) := by
  have hbody : bodyIn r = r.json.mapError .unreadable := rfl
  constructor
  · rintro ⟨b, hb⟩
    rw [agreementIn, hbody] at hb
    cases hjson : r.json with
    | error why =>
      rw [hjson] at hb
      cases hb
    | ok body =>
      rw [hjson] at hb
      cases body with
      | object members => exact ⟨members, rfl⟩
      | _ => cases hb
  · rintro ⟨members, hjson⟩
    rw [agreementIn, hbody, hjson]
    exact ⟨_, rfl⟩

end Client

/-- **A response says yes**: the object in it has a member that does. -/
def Response.SaysYes (r : Response) : Prop :=
  ∃ members v, r.json = .ok (.object members) ∧ members.lookup "boolean" = some v ∧
    v.truthy = true

/-- The client takes a response that says yes for one. -/
theorem Response.SaysYes.agreementIn {r : Response} (h : r.SaysYes) :
    Client.agreementIn r = .ok true := by
  obtain ⟨members, v, hjson, hmember, hv⟩ := h
  have hbody : Client.bodyIn r = r.json.mapError .unreadable := rfl
  have hget : (Json.object members).get "boolean" = .ok (some v) := congrArg Except.ok hmember
  rw [Client.agreementIn, hbody, hjson]
  simp only [Except.mapError, bind, Except.bind, hget]
  exact congrArg Except.ok hv

/-! ## The changes -/

/-- **The changes of the remote tree** that take one request. -/
inductive Change where
  | creation
  | removal

namespace Change

/-- The command that asks for a change. -/
def verb : Change → Verb
  | creation => .mkdir
  | removal => .delete

/-- Whether there has to be something at the path. -/
def needed : Change → Bool
  | creation => false
  | removal => true

/-- The request that changes what is at a path. -/
def request (c : Client) (path : String) : Change → Request
  | creation => c.request .makeDirectory path
  | removal => c.request .delete path [("recursive", "true")]

/-- The operation of the client behind a change. -/
def apply (c : Client) (path : String) : Change → Shell Bool
  | creation => c.makeDirectories path
  | removal => c.delete path true

/-- What a change fails with when the path is not as it has to be. -/
def refusal (path : String) : Change → Failure
  | creation => .directoryPresent path
  | removal => .absent path

/-- How success is reported. -/
def success (path : String) : Change → String
  | creation => "Created directory " ++ path
  | removal => "Deleted " ++ path

/-- **The steps of a change**: a question, the request, and the report. -/
def steps (c : Client) (path : String) (change : Change) : Shell Unit := do
  if (← c.exists path) = change.needed then
    let _ ← change.apply c path
    tell (change.success path)
  else
    throw (change.refusal path)

/-- MKDIRS and DELETE are one exchange each, whose answer has to be an object with or without a
member. -/
theorem outcome_apply (c : Client) (path : String) (change : Change) (w : Surroundings) :
    outcome (change.apply c path) w =
      (c.heard Client.agreementIn w.reply, w.exchanged (change.request c path)) := by
  cases change with
  | creation => exact c.outcome_perform_look Client.outcome_agrees w
  | removal => exact c.outcome_perform_look Client.outcome_agrees w

/-- The change goes on just where its question was answered as the command needs it. -/
theorem presence_eq_needed {change : Change} {c : Client} {reply : Reply} :
    c.presence reply = .ok change.needed ↔ change.verb.Needs reply := by
  cases change with
  | creation => exact Client.presence_eq_false
  | removal => exact Client.presence_eq_true

/-- No report of success is shown like a usage. -/
theorem told_success_ne (change : Change) (path usage : String) :
    told (change.success path) ≠ .ofChars ("Usage: " ++ usage).toList := by
  intro heq
  -- They differ in their first letter, which is no markup and so is shown as it is.
  have hfront : ∃ c front, c ≠ 'U' ∧ Markup.IsFront (c :: front) ∧
      (change.success path).toList = (c :: front) ++ path.toList := by
    cases change with
    | creation =>
      exact ⟨'C', "reated directory ".toList, by decide, ⟨by decide, by decide⟩,
        String.toList_append ..⟩
    | removal =>
      exact ⟨'D', "eleted ".toList, by decide, ⟨by decide, by decide⟩, String.toList_append ..⟩
  obtain ⟨c, front, hc, hfront, hsuccess⟩ := hfront
  obtain ⟨rest, hshown⟩ := Markup.shownOf_escape_front hfront hsuccess
  have hchars := congrArg Markup.Styled.chars heq
  rw [told] at hchars
  simp only [Markup.Styled.ofChars, hshown, String.toList_append] at hchars
  exact hc (List.cons.inj hchars).1

/-! ## What the steps come to -/

/-- **The service accepts a change**: the first reply is one the command goes on after, and the
second is a response that refuses nothing, with an object for a body. -/
structure IsAccepted (change : Change) (w : Surroundings) : Prop where
  asked : change.verb.Needs w.reply
  answered : ∃ r members, replyOf w.service.tail = .response r ∧ r.isRefusal = false ∧
    r.json = .ok (.object members)

/-- The surroundings when the path has been asked for, -/
def afterAsking (c : Client) (path : String) (w : Surroundings) : Surroundings :=
  w.exchanged (c.request .status path)

/-- and when the request for the change has been sent. -/
def afterSending (c : Client) (path : String) (change : Change) (w : Surroundings) :
    Surroundings :=
  (afterAsking c path w).exchanged (change.request c path)

/-- The two exchanges show nothing. -/
theorem tells_afterSending (c : Client) (path : String) (change : Change) (w : Surroundings) :
    w.Tells (change.afterSending c path w) [] :=
  (Surroundings.Tells.exchanged w _).trans (.exchanged _ _)

/-- The question is GETFILESTATUS of the path, and the request is the one that changes it. -/
theorem passed_afterSending (c : Client) (path : String) (change : Change) (w : Surroundings) :
    w.Passed (change.afterSending c path w)
      [⟨c.request .status path, w.reply⟩,
        ⟨change.request c path, replyOf w.service.tail⟩] := by
  refine (w.passed_operation c .status path []).trans ?_
  cases change with
  | creation => exact Surroundings.passed_operation _ c .makeDirectory path []
  | removal => exact Surroundings.passed_operation _ c .delete path [("recursive", "true")]

/-- A change that the service accepts is reported as done. -/
theorem steps_of_accepted {change : Change} {w : Surroundings} (h : change.IsAccepted w)
    (c : Client) (path : String) :
    outcome (change.steps c path) w = (.ok (), { change.afterSending c path w with
      log := (change.afterSending c path w).log ++ [.shown (told (change.success path))] }) := by
  obtain ⟨r, members, hreply, hr, hjson⟩ := h.answered
  obtain ⟨b, hb⟩ := Client.agreementIn_isOk.mpr ⟨members, hjson⟩
  have hasked : outcome (c.exists path) w = (.ok change.needed, afterAsking c path w) := by
    rw [Client.outcome_exists, presence_eq_needed.mpr h.asked]
    rfl
  have hheard : c.heard Client.agreementIn (afterAsking c path w).reply = .ok b :=
    Client.heard_eq_ok.mpr ⟨r, hreply, hr, hb⟩
  have happly : outcome (change.apply c path) (afterAsking c path w) =
      (.ok b, change.afterSending c path w) := by
    rw [outcome_apply, hheard]
    rfl
  unfold steps
  rw [outcome_bind_of_ok hasked, if_pos rfl, outcome_bind_of_ok happly, outcome_tell]

/-- A change that the service does not accept fails, and shows nothing. -/
theorem steps_of_not_accepted {change : Change} {w : Surroundings} (h : ¬ change.IsAccepted w)
    (c : Client) (path : String) :
    ∃ f w', outcome (change.steps c path) w = (.error f, w') ∧ w.Tells w' [] := by
  have hasking : w.Tells (afterAsking c path w) [] := Surroundings.Tells.exchanged w _
  unfold steps
  rw [outcome_bind, Client.outcome_exists]
  -- By the two replies: one of them has to be other than a success needs it.
  cases hpresence : c.presence w.reply with
  | error f => exact ⟨f, _, rfl, hasking⟩
  | ok there =>
    simp only
    split
    next hneeded =>
      rw [outcome_bind, outcome_apply]
      cases hheard : c.heard Client.agreementIn (afterAsking c path w).reply with
      | error f =>
        rw [afterAsking] at hheard
        simp only [hheard]
        exact ⟨f, _, rfl, change.tells_afterSending c path w⟩
      | ok b =>
        -- both replies are as they have to be
        obtain ⟨r, hreply, hr, hb⟩ := Client.heard_eq_ok.mp hheard
        obtain ⟨members, hjson⟩ := Client.agreementIn_isOk.mp ⟨b, hb⟩
        rw [hneeded] at hpresence
        exact absurd ⟨presence_eq_needed.mp hpresence, r, members, hreply, hr, hjson⟩ h
    next => exact ⟨_, _, rfl, hasking⟩

end Change

namespace Session

variable {s : Session} {change : Change} {line : String} {args : List String} {w w' : Surroundings}

/-! ## Lines -/

/-- **The arguments name a path**: there is one, a bare name, and the remote directory is a path. -/
def Names (s : Session) (args : List String) (path : String) : Prop :=
  ∃ cwd name, s.remote = .path cwd ∧ args = [name] ∧ Path.isBare name = true ∧
    path = Path.remoteChild cwd name

/-- **A command that changes the remote tree** makes a path of its name and takes the steps. -/
theorem run_change (s : Session) (change : Change) (name : String) :
    s.run change.verb [name] = s.unchanged ((liftM (bareName name) : Shell String) >>= fun n =>
      (liftM (s.remote.child n) : Shell String) >>= fun path => change.steps s.client path) := by
  cases change
  -- The two commands differ from the steps in which branch of the question goes on.
  all_goals
    refine congrArg s.unchanged ?_
    refine bind_congr fun n => bind_congr fun path => bind_congr fun there => ?_
    cases there <;> rfl

/-- With a bare name under a remote path the command is its steps. -/
theorem run_of_names {path : String} (h : s.Names args path) :
    s.run change.verb args = s.unchanged (change.steps s.client path) := by
  obtain ⟨cwd, name, hremote, rfl, hname, rfl⟩ := h
  have hchild : s.remote.child name = .ok (Path.remoteChild cwd name) := by
    rw [hremote]
    rfl
  rw [run_change, bareName_of_isBare hname, lift_ok_bind, hchild, lift_ok_bind]

/-- An argument that names no path makes the command fail at once. -/
theorem run_of_not_names (change : Change) {name : String} (h : ¬ ∃ path, s.Names [name] path)
    (w : Surroundings) :
    ∃ f, outcome (s.run change.verb [name]) w = (.error f, w) := by
  rw [run_change]
  cases hname : Path.isBare name with
  | false =>
    rw [bareName_of_not_isBare hname, lift_error_bind]
    exact ⟨_, rfl⟩
  | true =>
    rw [bareName_of_isBare hname, lift_ok_bind]
    cases hremote : s.remote with
    | path cwd => exact absurd ⟨_, cwd, name, hremote, rfl, hname, rfl⟩ h
    | value v => exact ⟨_, rfl⟩

/-- A change that is not accepted makes the command fail, and shows nothing. -/
theorem run_of_not_accepted {name : String}
    (h : ¬ ∃ path, s.Names [name] path ∧ change.IsAccepted w) :
    ∃ f w', outcome (s.run change.verb [name]) w = (.error f, w') ∧ w.Tells w' [] := by
  -- There is no path to ask for, or the steps do not come to the report.
  by_cases hnames : ∃ path, s.Names [name] path
  · obtain ⟨path, hnames⟩ := hnames
    obtain ⟨f, w', hsteps, htells⟩ :=
      change.steps_of_not_accepted (fun haccepted => h ⟨path, hnames, haccepted⟩) s.client path
    refine ⟨f, w', ?_, htells⟩
    rw [run_of_names hnames]
    exact outcome_bind_of_error hsteps
  · obtain ⟨f, hrun⟩ := run_of_not_names change hnames w
    exact ⟨f, w, hrun, [], (List.append_nil _).symm, rfl⟩

/-- **A line whose change is accepted** asks for the path, sends the request and reports success. -/
theorem execute_accepted {path : String} (hv : (Command.ofLine line).name = change.verb.word)
    (hnames : s.Names (Command.ofLine line).args path) (haccepted : change.IsAccepted w) :
    w.shown (outcome (s.execute line) w).2 = [told (change.success path)] ∧
      w.exchanges (outcome (s.execute line) w).2 =
        [⟨s.client.request .status path, w.reply⟩,
          ⟨change.request s.client path, replyOf w.service.tail⟩] := by
  have hrun := outcome_unchanged (s := s) (change.steps_of_accepted haccepted s.client path)
  rw [execute_eq hv, run_of_names hnames, outcome_tryCatch, hrun]
  have htells :=
    (change.tells_afterSending s.client path w).trans (.say _ (told (change.success path)))
  have haside : Event.request? (.shown (told (change.success path))) = none := rfl
  have hpassed := (change.passed_afterSending s.client path w).trans (.of_log haside _)
  exact ⟨htells.shown_eq, hpassed.exchanges_eq⟩

/-- What is shown of a command that fails is in some style, if it has shown nothing before. -/
theorem stretches_of_failed {v : Verb} {f : Failure} (hv : (Command.ofLine line).name = v.word)
    (hrun : outcome (s.run v (Command.ofLine line).args) w = (.error f, w'))
    (htells : w.Tells w' []) {text : Markup.Styled}
    (htext : text ∈ w.shown (outcome (s.execute line) w).2) : text.stretches ≠ [] := by
  by_cases hf : f = .interrupted
  · subst hf
    rw [execute_eq hv, outcome_tryCatch, hrun] at htext
    change text ∈ w.shown w' at htext
    rw [htells.shown_eq] at htext
    cases htext
  · obtain ⟨shown, hexecute, -⟩ := execute_reported hv hrun hf
    rw [hexecute, (htells.trans (.say w' _)).shown_eq, List.nil_append, List.mem_singleton] at htext
    rw [htext]
    exact List.cons_ne_nil _ _

/-- A line whose change is not accepted reports no success. -/
theorem not_success_of_not_accepted (hv : (Command.ofLine line).name = change.verb.word)
    (h : ¬ ∃ path, s.Names (Command.ofLine line).args path ∧ change.IsAccepted w) (path : String) :
    told (change.success path) ∉ w.shown (outcome (s.execute line) w).2 := by
  intro hshown
  have hplain : (told (change.success path)).stretches = [] := rfl
  by_cases hcount : (Command.ofLine line).args.length ∈ change.verb.counts
  · obtain ⟨name, hargs⟩ : ∃ name, (Command.ofLine line).args = [name] := by
      refine List.length_eq_one_iff.mp ?_
      cases change <;> exact List.mem_singleton.mp hcount
    rw [hargs] at h
    obtain ⟨f, w₁, hrun, htells⟩ := run_of_not_accepted h
    rw [← hargs] at hrun
    exact stretches_of_failed hv hrun htells hshown hplain
  · have haway := turnedAway_execute (s := s) hv hcount (by cases change <;> decide)
      (by cases change <;> decide) w
    have htells : w.Tells (outcome (s.execute line) w).2 (complaint change.verb) :=
      ⟨_, haway.log, rfl⟩
    rw [htells.shown_eq] at hshown
    rcases List.mem_cons.mp hshown with hred | husage
    · rw [hred] at hplain
      exact List.cons_ne_nil _ _ hplain
    · exact change.told_success_ne _ _ (List.mem_singleton.mp husage)

/-- **Success is reported just when the service accepts the change**, whatever the object in its
answer says, and then nothing else is shown. -/
theorem success_shown_iff (hv : (Command.ofLine line).name = change.verb.word)
    (w : Surroundings) :
    ((∃ path, told (change.success path) ∈ w.shown (outcome (s.execute line) w).2) ↔
        ∃ path, s.Names (Command.ofLine line).args path ∧ change.IsAccepted w) ∧
      ∀ path, s.Names (Command.ofLine line).args path → change.IsAccepted w →
        w.shown (outcome (s.execute line) w).2 = [told (change.success path)] ∧
          w.exchanges (outcome (s.execute line) w).2 =
            [⟨s.client.request .status path, w.reply⟩,
              ⟨change.request s.client path, replyOf w.service.tail⟩] := by
  refine ⟨⟨?_, ?_⟩, fun path hnames haccepted => execute_accepted hv hnames haccepted⟩
  · rintro ⟨path, hshown⟩
    by_contra hnot
    exact not_success_of_not_accepted hv hnot path hshown
  · rintro ⟨path, hnames, haccepted⟩
    exact ⟨path, by rw [(execute_accepted hv hnames haccepted).1]; exact List.mem_cons_self⟩

/-! ## A service that says no -/

/-- An answer that finds a path as a change needs it. -/
def sampleFound : Change → Response
  | .creation => { status := 404, headers := [], body := .whole [] }
  | .removal =>
    { status := 200, headers := [], body := .whole (Bytes.ofText "\x7b\"FileStatus\":1\x7d") }

/-- An answer that says whether a change has been made. -/
def sampleSaying (word : String) : Response where
  status := 200
  headers := []
  body := .whole (Bytes.ofText ("\x7b\"boolean\":" ++ word ++ "\x7d"))

/-- Surroundings in which a change is accepted, and then said to have been made or not. -/
def sampleChange (change : Change) (word : String) : Surroundings where
  service := [⟨.response (sampleFound change), none⟩, ⟨.response (sampleSaying word), none⟩]
  disk := { tree := [] }

theorem needs_sampleFound (change : Change) :
    change.verb.Needs (.response (sampleFound change)) := by
  cases change with
  | creation => exact ⟨_, rfl, rfl, by decide +kernel⟩
  | removal => exact Client.isFound_of_presence (c := sample.client) (by decide +kernel)

theorem agreementIn_sampleSaying :
    (Client.agreementIn (sampleSaying "true")).toOption = some true ∧
      (Client.agreementIn (sampleSaying "false")).toOption = some false := by
  constructor <;> decide +kernel

theorem isAccepted_sampleChange (change : Change) {word : String} {b : Bool}
    (h : (Client.agreementIn (sampleSaying word)).toOption = some b) :
    change.IsAccepted (sampleChange change word) := by
  obtain ⟨members, hjson⟩ := Client.agreementIn_isOk.mp ⟨b, eq_ok_of_toOption h⟩
  exact ⟨needs_sampleFound change, _, members, rfl, rfl, hjson⟩

theorem names_sample {v : Verb} (h : Command.ofLine line = ⟨v.word, ["x"]⟩) :
    sample.Names (Command.ofLine line).args "/user/alice/x" :=
  ⟨"/user/alice", "x", rfl, congrArg Command.args h, by decide +kernel, by decide +kernel⟩

/-- A service that says yes. -/
theorem success_shown_agreed :
    (Command.ofLine "mkdir \"x\"").name = Verb.mkdir.word ∧
      (sampleChange .creation "true").shown
          (outcome (sample.execute "mkdir \"x\"") (sampleChange .creation "true")).2 =
        [told "Created directory /user/alice/x"] := by
  have hline : Command.ofLine "mkdir \"x\"" = ⟨Verb.mkdir.word, ["x"]⟩ := by
    decide
  have hv : (Command.ofLine "mkdir \"x\"").name = Change.creation.verb.word :=
    congrArg Command.name hline
  have hsuccess : Change.creation.success "/user/alice/x" = "Created directory /user/alice/x" := by
    decide +kernel
  have hshown := ((success_shown_iff hv _).2 _ (names_sample hline)
    (isAccepted_sampleChange .creation agreementIn_sampleSaying.1)).1
  rw [hsuccess] at hshown
  exact ⟨hv, hshown⟩

/-- **Success is reported of what was not done**: the service answers both commands that it has not
made the change, and both report that it has. -/
theorem success_of_disagreement :
    ¬ (sampleSaying "false").SaysYes ∧
      ((sampleChange .creation "false").exchanges
          (outcome (sample.execute "mkdir \"x\"") (sampleChange .creation "false")).2 =
        [⟨sample.client.request .status "/user/alice/x", .response (sampleFound .creation)⟩,
          ⟨sample.client.request .makeDirectory "/user/alice/x",
            .response (sampleSaying "false")⟩] ∧
        (sampleChange .creation "false").shown
          (outcome (sample.execute "mkdir \"x\"") (sampleChange .creation "false")).2 =
        [.ofChars "Created directory /user/alice/x".toList]) ∧
      (sampleChange .removal "false").exchanges
          (outcome (sample.execute "delete \"x\"") (sampleChange .removal "false")).2 =
        [⟨sample.client.request .status "/user/alice/x", .response (sampleFound .removal)⟩,
          ⟨sample.client.request .delete "/user/alice/x" [("recursive", "true")],
            .response (sampleSaying "false")⟩] ∧
        (sampleChange .removal "false").shown
          (outcome (sample.execute "delete \"x\"") (sampleChange .removal "false")).2 =
        [.ofChars "Deleted /user/alice/x".toList] := by
  have hmkdir : Command.ofLine "mkdir \"x\"" = ⟨Verb.mkdir.word, ["x"]⟩ := by
    decide
  have hdelete : Command.ofLine "delete \"x\"" = ⟨Verb.delete.word, ["x"]⟩ := by
    decide
  have hcreated : told (Change.creation.success "/user/alice/x") =
      .ofChars "Created directory /user/alice/x".toList :=
    told_of_isKept (Markup.isKept_of_not_mem (by decide +kernel))
  have hdeleted : told (Change.removal.success "/user/alice/x") =
      .ofChars "Deleted /user/alice/x".toList :=
    told_of_isKept (Markup.isKept_of_not_mem (by decide +kernel))
  obtain ⟨hshown, hexchanges⟩ := execute_accepted (congrArg Command.name hmkdir)
    (names_sample hmkdir) (isAccepted_sampleChange .creation agreementIn_sampleSaying.2)
  obtain ⟨hshown', hexchanges'⟩ := execute_accepted (congrArg Command.name hdelete)
    (names_sample hdelete) (isAccepted_sampleChange .removal agreementIn_sampleSaying.2)
  rw [hcreated] at hshown
  rw [hdeleted] at hshown'
  refine ⟨fun hyes => ?_, ⟨hexchanges, hshown⟩, hexchanges', hshown'⟩
  have hno := agreementIn_sampleSaying.2
  rw [hyes.agreementIn] at hno
  cases hno

end Session

end NamenodeShell
