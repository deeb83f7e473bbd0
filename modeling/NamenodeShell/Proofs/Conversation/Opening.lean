import NamenodeShell.Proofs.Conversation.Greeting
import NamenodeShell.Proofs.Refusals
import NamenodeShell.Proofs.Settings

/-!
# How conversations begin

A conversation begins with one question, for the home directory. `Opens` says how it should go on,
whatever the answer is: with a session in that directory, or with a line that says why there is none
and the status one. `opens_iff` says which replies it is so after: an accepted object with a text
for `Path`, a fault on the way, and a refusal that explains itself (`Reply.Explains`).

What is wrong with an accepted response is none of the failures the shell tells apart
(`isOwn_of_homeIn`), nor is a refusal that is JSON of any other shape than it should be. After these
the failure gets out (`hold_loses_answer`); and a `Path` that is no text begins a session in a
directory that is no path.
-/
set_option autoImplicit false

namespace NamenodeShell

open Shell

/-! ## Replies to the question for the home directory -/

namespace Reply

/-- **A reply that shows the home directory**: an accepted object whose `Path` is that value. -/
def ShowsHome (reply : Reply) (home : Json) : Prop :=
  ∃ r members, reply = .response r ∧ r.isRefusal = false ∧ r.json = .ok (.object members) ∧
    members.lookup "Path" = some home

end Reply

/-- The surroundings once the connection has been given back. -/
def Surroundings.released (w : Surroundings) : Surroundings :=
  { w with log := w.log ++ [.released] }

namespace Conversation

variable {w w₁ : Surroundings} {c : Client}

/-! ## Connecting -/

/-- The home directory that a response gives. -/
def homeIn (r : Response) : Except Failure Json := do
  (← Client.bodyIn r).sub "Path"

/-- The client hears a home directory just where the reply shows it. -/
theorem heard_home_eq_ok {reply : Reply} {home : Json} :
    c.heard homeIn reply = .ok home ↔ reply.ShowsHome home := by
  rw [Client.heard_eq_ok]
  constructor
  · rintro ⟨r, hreply, hr, hlook⟩
    cases hjson : r.json with
    | error why => simp [homeIn, Client.bodyIn, hjson] at hlook; cases hlook
    -- A body that is no object has no members to be asked for.
    | ok body =>
      simp only [homeIn, Client.bodyIn, hjson] at hlook
      obtain ⟨members, rfl, hlookup⟩ := Client.sub_eq_ok hlook
      exact ⟨r, members, hreply, hr, hjson, hlookup⟩
  · rintro ⟨r, members, hreply, hr, hjson, hlookup⟩
    refine ⟨r, hreply, hr, ?_⟩
    simp only [homeIn, Client.bodyIn, hjson]
    change (Json.object members).sub "Path" = _
    rw [Client.sub_object, hlookup]

/-- A reply in which a text is seen to be heard shows that text. -/
theorem showsHome_of_seen {reply : Reply} {p : String}
    (h : (c.heard homeIn reply).toOption.map (fun v => (v.isText, v.message)) = some (true, p)) :
    reply.ShowsHome (.text p) := by
  refine (heard_home_eq_ok (c := c)).mp ?_
  cases hheard : c.heard homeIn reply with
  | error f =>
    rw [hheard] at h
    cases h
  | ok v =>
    rw [hheard] at h
    obtain ⟨htext, hmessage⟩ := Prod.mk.inj (Option.some.inj h)
    cases v with
    | text q => exact congrArg (fun q => Except.ok (Json.text q)) hmessage
    | _ => cases htext

/-- What is wrong with an accepted response is none of the failures the shell tells apart. -/
theorem isOwn_of_homeIn {r : Response} {f : Failure} (h : homeIn r = .error f) :
    f.isOwn = false := by
  unfold homeIn Client.bodyIn at h
  cases hjson : r.json with
  | error why =>
    rw [hjson] at h
    cases h
    exact Failure.isOwn_unreadable why
  | ok body =>
    rw [hjson] at h
    exact Client.isOwn_of_sub h

/-- **The failures to learn the home directory that the shell tells apart** are those of refusals
that explain themselves. -/
theorem isOwn_of_heard {reply : Reply} {f : Failure} (h : c.heard homeIn reply = .error f) :
    f.isOwn = true ↔ reply.Explains :=
  Client.isOwn_of_heard (fun _ _ => isOwn_of_homeIn) h

/-- The request for the home directory. -/
def homeRequest (c : Client) : Request :=
  c.request .home "/"

/-- GETHOMEDIRECTORY is one exchange, and its answer is read at once. -/
theorem outcome_home (c : Client) (w : Surroundings) :
    outcome c.home w = (c.heard homeIn w.reply, w.exchanged (homeRequest c)) := by
  refine c.outcome_perform_look (fun r w => ?_) w
  rw [outcome_bind, Client.outcome_body, homeIn]
  cases Client.bodyIn r <;> rfl

/-- A home directory that is heard is what connecting comes to. -/
theorem connect_of_home {home : Json} (h : c.heard homeIn w.reply = .ok home) :
    outcome (connect c) w = (.ok (some home), w.exchanged (homeRequest c)) := by
  unfold connect
  rw [outcome_tryCatch, outcome_bind, outcome_home, h]
  rfl

/-- The line that says why there is no connection. -/
def failedLine (c : Client) (f : Failure) : List Char :=
  ("Failed to connect to " ++ c.apiBase ++ "\n").toList ++
    Markup.shownOf (Markup.pieces (Markup.escape f.message).toList)

/-- A failure that the shell tells apart is shown, and nothing comes of it. -/
theorem connect_of_own {f : Failure} (hbase : '[' ∉ c.apiBase.toList)
    (h : c.heard homeIn w.reply = .error f) (hown : f.isOwn = true) :
    outcome (connect c) w = (.ok none, { w.exchanged (homeRequest c) with
      log := (w.exchanged (homeRequest c)).log ++ [.shown (.ofChars (failedLine c f))] }) := by
  have hrender := Markup.render_behind (s := f.message) (isFront_failed hbase) String.toList_append
  unfold connect
  rw [outcome_tryCatch, outcome_bind, outcome_home, h]
  simp only [hown, if_true]
  exact outcome_bind_of_ok (outcome_say_of_render hrender _)

/-- Any other failure gets out. -/
theorem connect_of_other {f : Failure} (h : c.heard homeIn w.reply = .error f)
    (hown : f.isOwn = false) :
    outcome (connect c) w = (.error f, w.exchanged (homeRequest c)) := by
  unfold connect
  rw [outcome_tryCatch, outcome_bind, outcome_home, h]
  simp only [hown, Bool.false_eq_true, if_false]
  rfl

/-! ## Giving the connection back -/

/-- **The connection is given back** whatever was done with it and however that ended. -/
theorem outcome_releasing {α : Type} (act : Shell α) (w : Surroundings) :
    outcome (releasing act) w = ((outcome act w).1, (outcome act w).2.released) := by
  unfold releasing
  rw [outcome_bind, outcome_tryCatch]
  cases outcome act w with
  | mk result w' => cases result <;> rfl

/-! ## Holding a conversation -/

variable (env : Environment) (settings : Settings) (host : String) (port : Int) (user : String)

/-- The local directory a conversation begins in. -/
def startDir (d : Disk) : String :=
  Path.absolute d.cwdPath (Path.expandHome env.home settings.localDir)

/-- The session a conversation begins with. -/
def begun (d : Disk) (home : Json) : Session where
  client := clientOf settings host port user
  remote := .ofJson home
  localDir := startDir env settings d
  patience := { timeout := settings.leaseTimeout, interval := settings.pollInterval }

/-- What is done with the connection before it is given back. -/
def connected (d : Disk) (inputs : List Input) : Shell Ending := do
  match ← connect (clientOf settings host port user) with
  | none => return .exited 1
  | some home =>
    prepare env settings (clientOf settings host port user)
    converse (begun env settings host port user d home) inputs
    return .left

variable {env settings host port user}

/-- **A conversation in a local directory that is there** gives its connection back at the end,
whatever it comes to. -/
theorem outcome_hold (hdir : w.disk.isDirectory (startDir env settings w.disk) = true)
    (inputs : List Input) :
    outcome (hold env settings host port user inputs) w =
      ((outcome (connected env settings host port user w.disk inputs) w).1,
        (outcome (connected env settings host port user w.disk inputs) w).2.released) := by
  unfold hold
  rw [outcome_bind_of_ok (outcome_disk w)]
  change outcome (if (!w.disk.isDirectory (startDir env settings w.disk)) = true then _ else _) w =
    _
  -- The directory is there, so that the connection is made, and given back at the end.
  rw [if_neg (by rw [hdir]; decide), ← outcome_releasing]
  unfold connected prepare
  simp only [bind_assoc]
  rfl

/-- With a home directory what follows is the preparation and the lines. -/
theorem connected_of_home {d : Disk} {home : Json} {w₂ : Surroundings} {inputs : List Input}
    (h : outcome (connect (clientOf settings host port user)) w = (.ok (some home), w₁))
    (hprepare : outcome (prepare env settings (clientOf settings host port user)) w₁ =
      (.ok (), w₂)) :
    outcome (connected env settings host port user d inputs) w =
      ((outcome (converse (begun env settings host port user d home) inputs) w₂).1.map
          fun _ => .left,
        (outcome (converse (begun env settings host port user d home) inputs) w₂).2) := by
  unfold connected
  rw [outcome_bind_of_ok h, outcome_bind_of_ok hprepare, outcome_bind]
  cases outcome (converse (begun env settings host port user d home) inputs) w₂ with
  | mk result w' => cases result <;> rfl

/-- **What the service cannot help**: settings with a scheme that is allowed, a host without an
opening bracket, a local directory that is there, and a file for lines whose path has no NUL in it,
so that all that can be wrong with it is caught. -/
structure Ready (env : Environment) (settings : Settings) (host : String) (d : Disk) : Prop where
  scheme : settings.scheme = "http" ∨ settings.scheme = "https"
  host : '[' ∉ host.toList
  directory : d.isDirectory (startDir env settings d) = true
  history : '\x00' ∉ (Path.expandHome env.home settings.historyFile).toList

/-- Of what a conversation is begun with, the settings that are accepted have an allowed scheme. -/
theorem Ready.of_accepted {d : Disk} {overrides : List Override}
    (haccepted : Settings.ofOverrides env overrides = .ok settings) (hhost : '[' ∉ host.toList)
    (hdirectory : d.isDirectory (startDir env settings d) = true)
    (hhistory : '\x00' ∉ (Path.expandHome env.home settings.historyFile).toList) :
    Ready env settings host d where
  scheme := (Settings.check_eq_ok_iff.mp (Settings.check_of_ofOverrides haccepted)).scheme
  host := hhost
  directory := hdirectory
  history := hhistory

/-- The address of a service that may be called has no opening bracket, which would be read as
markup. -/
theorem Ready.apiBase {d : Disk} (h : Ready env settings host d) :
    '[' ∉ (clientOf settings host port user).apiBase.toList := by
  have hscheme : '[' ∉ settings.scheme.toList := by
    rcases h.scheme with hs | hs <;> rw [hs] <;> decide
  exact Client.not_mem_apiBase hscheme h.host

/-- **The lines are taken** in a session that begins in the home directory. What comes before the
first of them asks for that directory and no more, and takes no line. -/
structure Enters (env : Environment) (settings : Settings) (host : String) (port : Int)
    (user : String) (w : Surroundings) (home : Json) (w₁ : Surroundings) : Prop where
  asked : w.Passed w₁ [⟨homeRequest (clientOf settings host port user), w.reply⟩]
  discreet : w.Discreet w₁
  held : ∀ inputs, outcome (hold env settings host port user inputs) w =
    ((outcome (converse (begun env settings host port user w.disk home) inputs) w₁).1.map
        fun _ => .left,
      (outcome (converse (begun env settings host port user w.disk home) inputs) w₁).2.released)

/-- **A conversation opens as it should**: there is a session in the home directory that the reply
shows, or a line says why there is none and the status is one. -/
inductive Opens (env : Environment) (settings : Settings) (host : String) (port : Int)
    (user : String) (w : Surroundings) : Prop
  | session (p : String) (w₁ : Surroundings) (hreply : w.reply.ShowsHome (.text p))
      (hremote : (begun env settings host port user w.disk (.text p)).remote = .path p)
      (henters : Enters env settings host port user w (.text p) w₁)
  | refused (text : List Char)
      (hbegins : ("Failed to connect to " ++ (clientOf settings host port user).apiBase ++
        "\n").toList <+: text)
      (hheld : ∀ inputs, outcome (hold env settings host port user inputs) w =
        (.ok (.exited 1),
          { w.exchanged (homeRequest (clientOf settings host port user)) with
            log := w.log ++ [.sent (homeRequest (clientOf settings host port user)) w.isAnswered,
              .shown (.ofChars text), .released] }))

variable (port user) in
/-- **Once the reply shows the home directory** nothing in front of the lines fails. -/
theorem enters_of_showsHome {home : Json} (hready : Ready env settings host w.disk)
    (hhome : w.reply.ShowsHome home) :
    ∃ w₁, Enters env settings host port user w home w₁ := by
  let c := clientOf settings host port user
  let asked := w.exchanged (homeRequest c)
  have hconnect := connect_of_home (c := c) (heard_home_eq_ok.mpr hhome)
  obtain ⟨⟨⟩, w₁, hprepare⟩ := completes_prepare (c := c) hready.apiBase hready.history asked
  have hsilent : Silent (prepare env settings c) := obeys_prepare silent_setDisk _ _ _
  have hdiscreet : Obeys Surroundings.Discreet (prepare env settings c) :=
    obeys_prepare Thorough.storing _ _ _
  have hafter := hdiscreet asked
  -- The preparation exchanges nothing, so the question is the only exchange in front of the lines.
  obtain ⟨xs, hxs, rfl⟩ := hsilent asked
  rw [hprepare] at hxs hafter
  have hasked : w.Passed asked [⟨homeRequest c, w.reply⟩] := w.passed_operation c .home "/" []
  refine ⟨w₁, hasked.trans hxs, ?_, fun inputs => ?_⟩
  · exact trans_of Surroundings.Discreet (Routine.allows (homeRequest c) w) hafter
  · rw [outcome_hold hready.directory, connected_of_home hconnect hprepare]

/-- **A conversation with settings that are accepted** takes its lines, whatever the environment and
the overrides are that the settings come from. -/
theorem enters_of_accepted {overrides : List Override} {home : Json}
    (haccepted : Settings.ofOverrides env overrides = .ok settings) (hhost : '[' ∉ host.toList)
    (hdirectory : w.disk.isDirectory (startDir env settings w.disk) = true)
    (hhistory : '\x00' ∉ (Path.expandHome env.home settings.historyFile).toList)
    (hhome : w.reply.ShowsHome home) : ∃ w₁, Enters env settings host port user w home w₁ :=
  enters_of_showsHome port user (.of_accepted haccepted hhost hdirectory hhistory) hhome

/-- A refusal that explains itself is shown, and nothing is asked after it. -/
theorem opens_of_explains (hready : Ready env settings host w.disk)
    (hexplains : w.reply.Explains) : Opens env settings host port user w := by
  let c := clientOf settings host port user
  cases hheard : c.heard homeIn w.reply with
  | ok home =>
    obtain ⟨r, members, hreply, hr, -⟩ := heard_home_eq_ok.mp hheard
    rw [hreply] at hexplains
    -- A reply that shows a home directory refuses nothing.
    cases hr.symm.trans hexplains.1
  | error f =>
    have hconnect := connect_of_own hready.apiBase hheard ((isOwn_of_heard hheard).mpr hexplains)
    refine .refused (failedLine c f) (List.prefix_append _ _) fun inputs => ?_
    have hlog : (w.exchanged (homeRequest c)).log =
        w.log ++ [.sent (homeRequest c) w.isAnswered] :=
      w.log_exchanged c .home "/" []
    rw [outcome_hold hready.directory]
    unfold connected
    rw [outcome_bind_of_ok hconnect, hlog]
    simp only [outcome_pure, Surroundings.released, List.append_assoc, List.cons_append,
      List.nil_append]
    rfl

/-- **Which replies open a conversation as it should be**: those that show a home directory in a
text, and the refusals that explain themselves. After any other reply a failure gets out, or the
session is in a directory that is no path. -/
theorem opens_iff (hready : Ready env settings host w.disk) :
    Opens env settings host port user w ↔
      w.reply.Explains ∨ ∃ p, w.reply.ShowsHome (.text p) := by
  let c := clientOf settings host port user
  constructor
  · rintro (⟨p, -, hreply, -⟩ | ⟨text, -, h⟩)
    · exact .inr ⟨p, hreply⟩
    · left
      cases hheard : c.heard homeIn w.reply with
      | ok home =>
        -- there would be a session, so no way to leave with a status
        obtain ⟨w₁, henters⟩ :=
          enters_of_showsHome port user hready (heard_home_eq_ok.mp hheard)
        have hexited := congrArg Prod.fst ((henters.held []).symm.trans (h []))
        cases hresult : (outcome (converse (begun env settings host port user w.disk home) [])
          w₁).1 with
        | ok _ => rw [hresult] at hexited; cases hexited
        | error _ => rw [hresult] at hexited; cases hexited
      | error f =>
        cases hown : f.isOwn with
        | true => exact (isOwn_of_heard hheard).mp hown
        | false =>
          have hconnected : outcome (connected env settings host port user w.disk []) w =
              (.error f, w.exchanged (homeRequest c)) :=
            outcome_bind_of_error (connect_of_other hheard hown)
          have hexited := congrArg Prod.fst ((outcome_hold hready.directory []).symm.trans (h []))
          rw [hconnected] at hexited
          cases hexited
  · rintro (hexplains | ⟨p, hhome⟩)
    · exact opens_of_explains hready hexplains
    · obtain ⟨w₁, henters⟩ := enters_of_showsHome port user hready hhome
      exact .session p w₁ hhome rfl henters

/-! ## Samples -/

/-- Settings with a local directory and a file for lines. -/
def sampleSettings : Settings where
  localDir := "/home"
  historyFile := "/home/lines"

/-- A service with one answer, accepted, with this body. -/
def answering (body : String) : Surroundings where
  service :=
    [⟨.response { status := 200, headers := [], body := .whole (Bytes.ofText body) }, none⟩]
  disk := { tree := [(["home"], .directory)] }

/-- A service that shows a home directory. -/
def sampleHome : Surroundings :=
  answering "\x7b\"Path\":\"/user/alice\"\x7d"

theorem ready_sample (body : String) : Ready [] sampleSettings "nn" (answering body).disk where
  scheme := .inl rfl
  host := by decide
  directory := by
    change (answering "").disk.isDirectory (startDir [] sampleSettings (answering "").disk) = true
    decide +kernel
  history := by decide +kernel

theorem showsHome_sample : sampleHome.reply.ShowsHome (.text "/user/alice") :=
  showsHome_of_seen (c := clientOf sampleSettings "nn" 9870 "alice") (by decide +kernel)

theorem opens_iff_sample : Opens [] sampleSettings "nn" 9870 "alice" sampleHome :=
  (opens_iff (ready_sample _)).mpr (.inr ⟨"/user/alice", showsHome_sample⟩)

/-- **An answer after which a failure gets out**: the service accepts, and what it sends is no JSON.
No line is shown, and none is taken. -/
theorem hold_loses_answer :
    let w := answering "<html>"
    Ready [] sampleSettings "nn" w.disk ∧ ¬ Opens [] sampleSettings "nn" 9870 "alice" w ∧
      ∃ f w', outcome (hold [] sampleSettings "nn" 9870 "alice" [.line "help"]) w = (.error f, w') ∧
        f.message = "Expecting value: line 1 column 1 (char 0)" ∧
        w'.log.filterMap Event.shown? = [] ∧ w'.log.filterMap Event.prompt? = [] := by
  intro w
  let c := clientOf sampleSettings "nn" 9870 "alice"
  let why : Unreadable := .notJson ⟨.noValue, 0, 1, 1⟩
  have hready : Ready [] sampleSettings "nn" w.disk := ready_sample "<html>"
  have hheard : c.heard homeIn w.reply = .error (.unreadable why) :=
    eq_error_of_unreadableIn (by decide +kernel)
  have hhold (inputs : List Input) : outcome (hold [] sampleSettings "nn" 9870 "alice" inputs) w =
      (.error (.unreadable why), (w.exchanged (homeRequest c)).released) := by
    rw [outcome_hold hready.directory]
    unfold connected
    rw [outcome_bind_of_error (connect_of_other hheard rfl)]
  refine ⟨hready, ?_, _, _, hhold _, by decide +kernel, rfl, rfl⟩
  rintro (⟨p, _, hreply, -⟩ | ⟨text, -, h⟩)
  · cases hheard.symm.trans (heard_home_eq_ok.mpr hreply)
  · cases congrArg Prod.fst ((hhold []).symm.trans (h []))

end Conversation

end NamenodeShell
