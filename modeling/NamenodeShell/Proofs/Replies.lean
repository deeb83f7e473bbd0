import NamenodeShell.Client
import NamenodeShell.Proofs.Shell.Exchange

/-!
# What replies mean

The outcome of a request is the verdict on its reply (`outcome_send`), and the two questions that
are asked before anything is done are functions of the one reply they get (`outcome_exists`,
`outcome_isDirectory`).

`Reply.IsFound`, `Reply.IsNotFound`, `Reply.IsDirectory` and `Reply.IsOther` say without the client
what a reply has to be for the answer to be yes or no; that the client answers so is
`presence_eq_true`, `presence_eq_false`, `directory_eq_true` and `directory_eq_false`. A reply that
is neither found nor not found makes the question fail: no body that cannot be read, and no fault on
the way, passes for an absence (`presence_eq_error`).
-/
set_option autoImplicit false

namespace NamenodeShell

open Shell

/-- What is seen to succeed has the value that is seen. -/
theorem eq_ok_of_toOption {ε α : Type} {x : Except ε α} {a : α} (h : x.toOption = some a) :
    x = .ok a := by
  cases x with
  | ok b => exact congrArg Except.ok (Option.some.inj h)
  | error e => cases h

/-! ## What replies say of a path -/

namespace Reply

/-- **The path is there**: an accepted answer with an object that has a status. -/
def IsFound (reply : Reply) : Prop :=
  ∃ r members status, reply = .response r ∧ r.isRefusal = false ∧
    r.json = .ok (.object members) ∧ members.lookup "FileStatus" = some status

/-- **The path is not there**: a refusal that means so. -/
def IsNotFound (reply : Reply) : Prop :=
  ∃ r, reply = .response r ∧ r.isRefusal = true ∧ (Client.refusal r).category = .notFound

/-- **A directory is there**: an accepted answer whose status says so. -/
def IsDirectory (reply : Reply) : Prop :=
  ∃ r members status, reply = .response r ∧ r.isRefusal = false ∧
    r.json = .ok (.object members) ∧ members.lookup "FileStatus" = some (.object status) ∧
    status.lookup "type" = some (.text "DIRECTORY")

/-- **Something other than a directory is there**: an accepted answer with a status that is an
object of another type, or of none. -/
def IsOther (reply : Reply) : Prop :=
  ∃ r members status, reply = .response r ∧ r.isRefusal = false ∧
    r.json = .ok (.object members) ∧ members.lookup "FileStatus" = some (.object status) ∧
    status.lookup "type" ≠ some (.text "DIRECTORY")

variable {reply : Reply}

/-- What is no directory is there all the same. -/
theorem IsOther.isFound (h : reply.IsOther) : reply.IsFound := by
  obtain ⟨r, members, status, hreply, hr, hjson, hstatus, -⟩ := h
  exact ⟨r, members, .object status, hreply, hr, hjson, hstatus⟩

/-- A path is not both there and not there: the one is accepted and the other is refused. -/
theorem IsFound.not_isNotFound (h : reply.IsFound) : ¬ reply.IsNotFound := by
  obtain ⟨r, _, _, rfl, hr, -, -⟩ := h
  rintro ⟨r', hreply, hr', -⟩
  cases hreply
  cases hr.symm.trans hr'

end Reply

/-- The exchange of an operation: it goes out as the client has put it. -/
theorem Surroundings.passed_operation (w : Surroundings) (c : Client) (op : Operation)
    (path : String) (more : List (String × String)) :
    Passed w (w.exchanged (c.request op path more)) [⟨c.request op path more, w.reply⟩] := by
  have hpassed := w.passed_exchanged (c.request op path more)
  rwa [Client.request, w.taken_operation, ← Client.request] at hpassed

/-- An operation is written to the log as the client has put it. -/
theorem Surroundings.log_exchanged (w : Surroundings) (c : Client) (op : Operation)
    (path : String) (more : List (String × String)) :
    (w.exchanged (c.request op path more)).log =
      w.log ++ [.sent (c.request op path more) w.isAnswered] := by
  unfold exchanged Client.request
  rw [w.taken_operation]

namespace Client

variable {c : Client}

/-! ## Outcomes of the questions -/

/-- What a reply comes to for whoever sent the request. -/
def verdict (c : Client) : Reply → Except Failure Response
  | .response r => if r.isRefusal then .error (refusal r) else .ok r
  | .fault f => .error (c.faultFailure f)
  | .interrupted => .error .interrupted

theorem verdict_response (c : Client) (r : Response) :
    c.verdict (.response r) = if r.isRefusal then .error (refusal r) else .ok r := rfl

/-- The verdict is in favour of accepted responses alone: a status from 400 to 599 refuses. -/
theorem verdict_eq_ok {reply : Reply} {r : Response} (h : c.verdict reply = .ok r) :
    reply = .response r ∧ r.isRefusal = false := by
  cases reply with
  | response r' =>
    rw [verdict_response] at h
    split at h
    next => cases h
    next hr =>
      cases h
      exact ⟨rfl, Bool.eq_false_iff.mpr hr⟩
  | fault f => cases h
  | interrupted => cases h

/-- **A request comes to the verdict on its reply.** -/
theorem outcome_send (c : Client) (request : Request) (w : Surroundings) :
    outcome (c.send request) w = (c.verdict w.reply, w.exchanged request) := by
  unfold send
  rw [outcome_bind, outcome_exchange]
  cases hreply : w.reply with
  | response r =>
    simp only [Reply.result, verdict]
    split <;> rfl
  | fault f => rfl
  | interrupted => rfl

/-- The outcome of an operation is the verdict on the reply to its one request. -/
theorem outcome_perform (c : Client) (op : Operation) (path : String)
    (more : List (String × String)) (w : Surroundings) :
    outcome (c.perform op path more) w =
      (c.verdict w.reply, w.exchanged (c.request op path more)) :=
  outcome_send c _ w

theorem outcome_bodyOf (r : Response) (w : Surroundings) :
    outcome (bodyOf r) w = (r.json.mapError .unreadable, w) := by
  unfold bodyOf
  cases r.json <;> rfl

/-- The status in the body of an accepted response. -/
def statusIn (r : Response) : Except Failure Json :=
  match r.json with
  | .ok body => body.sub "FileStatus"
  | .error why => .error (.unreadable why)

/-- The status in a reply. -/
def statusOf (c : Client) (reply : Reply) : Except Failure Json :=
  (c.verdict reply).bind statusIn

/-- GETFILESTATUS comes to the status in the reply. -/
theorem outcome_status (c : Client) (path : String) (w : Surroundings) :
    outcome (c.status path) w = (c.statusOf w.reply, w.exchanged (c.request .status path)) := by
  unfold status statusOf
  rw [outcome_bind, outcome_perform]
  cases c.verdict w.reply with
  | error e => rfl
  | ok r =>
    simp only [Except.bind, statusIn]
    rw [outcome_bind, outcome_bodyOf]
    cases r.json <;> rfl

/-- An answer, or no when what was asked for is not there. -/
def unlessAbsent : Except Failure Bool → Except Failure Bool
  | .ok b => .ok b
  | .error e => if e.category = .notFound then .ok false else .error e

/-- **Absence is an answer**: of all failures of a question only this one is turned into a no. -/
theorem outcome_orAbsent (ask : Shell Bool) (w : Surroundings) :
    outcome (orAbsent ask) w = (unlessAbsent (outcome ask w).1, (outcome ask w).2) := by
  unfold orAbsent
  rw [outcome_tryCatch]
  cases outcome ask w with
  | mk result w' =>
    cases result with
    | ok b => rfl
    | error e =>
      simp only [unlessAbsent]
      split <;> rfl

/-- What `exists` makes of a reply. -/
def presence (c : Client) (reply : Reply) : Except Failure Bool :=
  unlessAbsent ((c.statusOf reply).map fun _ => true)

/-- **`exists` asks once and says what the reply says.** -/
theorem outcome_exists (c : Client) (path : String) (w : Surroundings) :
    outcome (c.exists path) w = (c.presence w.reply, w.exchanged (c.request .status path)) := by
  unfold Client.exists presence
  rw [outcome_orAbsent, outcome_bind, outcome_status]
  cases c.statusOf w.reply <;> rfl

/-- What `isDirectory` makes of a reply. -/
def directory (c : Client) (reply : Reply) : Except Failure Bool :=
  unlessAbsent ((c.statusOf reply).bind isDirectoryStatus)

/-- **`isDirectory` asks once and says what the reply says.** -/
theorem outcome_isDirectory (c : Client) (path : String) (w : Surroundings) :
    outcome (c.isDirectory path) w =
      (c.directory w.reply, w.exchanged (c.request .status path)) := by
  unfold Client.isDirectory directory
  rw [outcome_orAbsent, outcome_bind, outcome_status]
  cases c.statusOf w.reply <;> rfl

/-! ## What the answers mean -/

theorem sub_object (name : String) (members : List (String × Json)) :
    (Json.object members).sub name = match members.lookup name with
      | some v => .ok v
      | none => .error (.missing name) := rfl

/-- A member is only found in an object. -/
theorem sub_eq_ok {name : String} {body v : Json} (h : body.sub name = .ok v) :
    ∃ members, body = .object members ∧ members.lookup name = some v := by
  cases body with
  | object members =>
    refine ⟨members, rfl, ?_⟩
    rw [sub_object] at h
    split at h
    next v' hv => rw [hv, Except.ok.inj h]
    next => cases h
  | _ => cases h

/-- No body of an accepted answer says that something is not there. -/
theorem category_sub_ne {name : String} {body : Json} {e : Failure}
    (h : body.sub name = .error e) : e.category ≠ .notFound := by
  intro he
  cases body with
  | object members =>
    rw [sub_object] at h
    split at h
    next => cases h
    next =>
      cases h
      cases he
  | _ =>
    cases h
    cases he

/-- Nor does a body that cannot be read. -/
theorem category_unreadable_ne (why : Unreadable) :
    (Failure.unreadable why).category ≠ .notFound := by
  intro he
  cases why with
  | brokenOff b => cases he
  | notJson e =>
    obtain ⟨problem⟩ := e
    cases problem <;> cases he

/-- A status is found under its name in an object. -/
theorem statusIn_eq_ok {r : Response} {status : Json} (h : statusIn r = .ok status) :
    ∃ members, r.json = .ok (.object members) ∧ members.lookup "FileStatus" = some status := by
  unfold statusIn at h
  split at h
  next body hjson =>
    obtain ⟨members, rfl, hm⟩ := sub_eq_ok h
    exact ⟨members, hjson, hm⟩
  next => cases h

/-- So what is wrong with an accepted answer never passes for an absence. -/
theorem category_statusIn_ne {r : Response} {e : Failure} (h : statusIn r = .error e) :
    e.category ≠ .notFound := by
  unfold statusIn at h
  split at h
  next => exact category_sub_ne h
  next why hjson =>
    cases h
    exact category_unreadable_ne why

/-- A refusal fails in its own words, whatever else is in its body. -/
theorem statusOf_response (r : Response) :
    c.statusOf (.response r) = if r.isRefusal then .error (refusal r) else statusIn r := by
  rw [statusOf, verdict_response]
  split <;> rfl

/-- **Where a status is read**: in an accepted answer that is an object with one. -/
theorem statusOf_eq_ok {reply : Reply} {status : Json} (h : c.statusOf reply = .ok status) :
    ∃ r members, reply = .response r ∧ r.isRefusal = false ∧ r.json = .ok (.object members) ∧
      members.lookup "FileStatus" = some status := by
  cases reply with
  | response r =>
    rw [statusOf_response] at h
    split at h
    next => cases h
    next hr =>
      obtain ⟨members, hjson, hm⟩ := statusIn_eq_ok h
      exact ⟨r, members, rfl, Bool.eq_false_iff.mpr hr, hjson, hm⟩
  | fault f => cases h
  | interrupted => cases h

/-- And there it is read. -/
theorem statusOf_of_members {r : Response} {members : List (String × Json)} {status : Json}
    (hr : r.isRefusal = false) (hjson : r.json = .ok (.object members))
    (hm : members.lookup "FileStatus" = some status) :
    c.statusOf (.response r) = .ok status := by
  rw [statusOf_response, hr, if_neg Bool.false_ne_true, statusIn, hjson]
  change (Json.object members).sub "FileStatus" = _
  rw [sub_object, hm]

/-- The only replies that say a path is not there are refusals that mean so. -/
theorem isNotFound_of_statusOf {reply : Reply} {e : Failure} (h : c.statusOf reply = .error e)
    (he : e.category = .notFound) : reply.IsNotFound := by
  cases reply with
  | response r =>
    rw [statusOf_response] at h
    split at h
    next hr =>
      cases h
      exact ⟨r, rfl, hr, he⟩
    -- the answer is accepted, so whatever is wrong with it is no absence
    next => exact absurd he (category_statusIn_ne h)
  | fault f => cases f <;> (cases h; cases he)
  | interrupted => cases h; cases he

/-- A refusal that says a path is not there makes the question for its status fail in that way. -/
theorem statusOf_of_isNotFound {reply : Reply} (h : reply.IsNotFound) :
    ∃ e, c.statusOf reply = .error e ∧ e.category = .notFound := by
  obtain ⟨r, rfl, hr, hcat⟩ := h
  exact ⟨refusal r, by rw [statusOf_response, if_pos hr], hcat⟩

/-- **`exists` says yes to the replies that show the path.** -/
theorem presence_eq_true {reply : Reply} : c.presence reply = .ok true ↔ reply.IsFound := by
  constructor
  · intro h
    unfold presence at h
    cases hs : c.statusOf reply with
    | ok status =>
      obtain ⟨r, members, hreply, hr, hjson, hm⟩ := statusOf_eq_ok hs
      exact ⟨r, members, status, hreply, hr, hjson, hm⟩
    | error e =>
      rw [hs] at h
      simp only [Except.map, unlessAbsent] at h
      split at h <;> cases h
  · rintro ⟨r, members, status, rfl, hr, hjson, hm⟩
    rw [presence, statusOf_of_members hr hjson hm]
    rfl

/-- A reply to which `exists` is seen to say yes shows the path. -/
theorem isFound_of_presence {reply : Reply} (h : (c.presence reply).toOption = some true) :
    reply.IsFound :=
  presence_eq_true.mp (eq_ok_of_toOption h)

/-- **`exists` says no to the replies that say the path is not there.** -/
theorem presence_eq_false {reply : Reply} : c.presence reply = .ok false ↔ reply.IsNotFound := by
  constructor
  · intro h
    unfold presence at h
    cases hs : c.statusOf reply with
    | ok status => rw [hs] at h; cases h
    | error e =>
      rw [hs] at h
      simp only [Except.map, unlessAbsent] at h
      split at h
      next he => exact isNotFound_of_statusOf hs he
      next => cases h
  · intro h
    obtain ⟨e, he, hcat⟩ := statusOf_of_isNotFound (c := c) h
    rw [presence, he]
    simp only [Except.map, unlessAbsent, if_pos hcat]

/-- The type of a directory is DIRECTORY, in this writing. -/
theorem isDirectoryStatus_eq_true {status : Json} (h : isDirectoryStatus status = .ok true) :
    ∃ members, status = .object members ∧ members.lookup "type" = some (.text "DIRECTORY") := by
  cases status with
  | object members =>
    refine ⟨members, rfl, ?_⟩
    simp only [isDirectoryStatus, Json.get, bind, Except.bind] at h
    split at h
    next word hword =>
      rw [hword, beq_iff_eq.mp (Except.ok.inj h)]
    next => cases h
  | _ => cases h

/-- **`isDirectory` says yes to the replies that show a directory.** -/
theorem directory_eq_true {reply : Reply} : c.directory reply = .ok true ↔ reply.IsDirectory := by
  constructor
  · intro h
    unfold directory at h
    cases hs : c.statusOf reply with
    | ok status =>
      rw [hs] at h
      simp only [Except.bind] at h
      cases hd : isDirectoryStatus status with
      | ok b =>
        rw [hd] at h
        cases h
        obtain ⟨type, rfl, htype⟩ := isDirectoryStatus_eq_true hd
        -- there is a status, and it says that it is a directory's
        obtain ⟨r, members, hreply, hr, hjson, hm⟩ := statusOf_eq_ok hs
        exact ⟨r, members, type, hreply, hr, hjson, hm, htype⟩
      | error e =>
        rw [hd] at h
        simp only [unlessAbsent] at h
        split at h <;> cases h
    | error e =>
      rw [hs] at h
      simp only [Except.bind, unlessAbsent] at h
      split at h <;> cases h
  · rintro ⟨r, members, status, rfl, hr, hjson, hm, htype⟩
    rw [directory, statusOf_of_members hr hjson hm]
    simp only [Except.bind, isDirectoryStatus, Json.get, htype, bind]
    rfl

variable {reply : Reply} {f : Failure}

/-- Any other type is that of something else, and so is none. -/
theorem isDirectoryStatus_eq_false {status : Json} :
    isDirectoryStatus status = .ok false ↔
      ∃ members, status = .object members ∧ members.lookup "type" ≠ some (.text "DIRECTORY") := by
  constructor
  · intro h
    cases status with
    | object members =>
      refine ⟨members, rfl, fun htype => ?_⟩
      simp only [isDirectoryStatus, Json.get, bind, Except.bind, htype] at h
      cases h
    | _ => cases h
  · rintro ⟨members, rfl, htype⟩
    simp only [isDirectoryStatus, Json.get, bind, Except.bind]
    split
    next word hword =>
      have hne : word ≠ "DIRECTORY" := fun heq => htype (by rw [hword, heq])
      exact congrArg Except.ok (beq_eq_false_iff_ne.mpr hne)
    next => rfl

/-- A status that cannot be asked for its type is a value of the wrong kind. -/
theorem category_isDirectoryStatus {status : Json} (h : isDirectoryStatus status = .error f) :
    f.category = .noMembers := by
  cases status with
  | object members =>
    simp only [isDirectoryStatus, Json.get, bind, Except.bind] at h
    split at h <;> cases h
  | _ =>
    cases h
    rfl

/-- What the type is that a reply shows. -/
def typeOf (c : Client) (reply : Reply) : Except Failure Bool :=
  (c.statusOf reply).bind isDirectoryStatus

/-- **`isDirectory` says no to the replies that show something else, or nothing.** -/
theorem directory_eq_false :
    c.directory reply = .ok false ↔ reply.IsOther ∨ reply.IsNotFound := by
  unfold directory
  constructor
  · intro h
    cases hs : c.statusOf reply with
    | ok status =>
      rw [hs] at h
      simp only [Except.bind] at h
      cases hd : isDirectoryStatus status with
      | ok b =>
        rw [hd] at h
        cases h
        obtain ⟨type, rfl, htype⟩ := isDirectoryStatus_eq_false.mp hd
        obtain ⟨r, members, hreply, hr, hjson, hm⟩ := statusOf_eq_ok hs
        exact .inl ⟨r, members, type, hreply, hr, hjson, hm, htype⟩
      | error e =>
        rw [hd] at h
        simp only [unlessAbsent, category_isDirectoryStatus hd] at h
        cases h
    | error e =>
      rw [hs] at h
      simp only [Except.bind, unlessAbsent] at h
      split at h
      next he => exact .inr (isNotFound_of_statusOf hs he)
      next => cases h
  · rintro (⟨r, members, status, rfl, hr, hjson, hm, htype⟩ | h)
    · rw [statusOf_of_members hr hjson hm]
      simp only [Except.bind, isDirectoryStatus_eq_false.mpr ⟨status, rfl, htype⟩]
      rfl
    · obtain ⟨e, he, hcategory⟩ := statusOf_of_isNotFound (c := c) h
      rw [he]
      simp only [Except.bind, unlessAbsent, if_pos hcategory]

/-- What is left of the failures when absences are taken out. -/
theorem unlessAbsent_eq_error {x : Except Failure Bool} :
    unlessAbsent x = .error f ↔ x = .error f ∧ f.category ≠ .notFound := by
  cases x with
  | ok b => exact ⟨fun h => (nomatch h), fun h => (nomatch h.1)⟩
  | error e =>
    simp only [unlessAbsent]
    split
    next he =>
      refine ⟨fun h => (nomatch h), ?_⟩
      rintro ⟨h, hf⟩
      cases h
      exact absurd he hf
    next he =>
      constructor
      · intro h
        cases h
        exact ⟨rfl, he⟩
      · exact fun h => h.1

/-- **`isDirectory` fails as its reply does**, unless the reply says that nothing is there. -/
theorem directory_eq_error :
    c.directory reply = .error f ↔ c.typeOf reply = .error f ∧ f.category ≠ .notFound :=
  unlessAbsent_eq_error

/-- **`exists` fails as its reply does**, unless the reply says that nothing is there. -/
theorem presence_eq_error :
    c.presence reply = .error f ↔ c.statusOf reply = .error f ∧ f.category ≠ .notFound := by
  refine unlessAbsent_eq_error.trans (and_congr_left' ?_)
  cases c.statusOf reply with
  | ok status => exact ⟨fun h => (nomatch h), fun h => (nomatch h)⟩
  | error e =>
    constructor
    · intro h
      exact congrArg Except.error (Except.error.inj h)
    · intro h
      exact congrArg Except.error (Except.error.inj h)

end Client

/-! ## What is looked for in replies -/

/-- **A reply gives something** that is looked for: it is a response, accepted, with that in it. -/
def Reply.Gives {α : Type} (look : Response → Except Failure α) (a : α) (reply : Reply) : Prop :=
  ∃ r, reply = .response r ∧ r.isRefusal = false ∧ look r = .ok a

/-- A reply gives one thing. -/
theorem Reply.Gives.unique {α : Type} {look : Response → Except Failure α} {a b : α}
    {reply : Reply} (ha : reply.Gives look a) (hb : reply.Gives look b) : a = b := by
  obtain ⟨r, rfl, -, hr⟩ := ha
  obtain ⟨r', hreply, -, hr'⟩ := hb
  cases hreply
  exact Except.ok.inj (hr.symm.trans hr')

namespace Client

variable {α : Type} {c : Client} {look : Response → Except Failure α} {reply : Reply} {a : α}

/-- What is found in a reply. -/
def heard (c : Client) (look : Response → Except Failure α) (reply : Reply) : Except Failure α :=
  (c.verdict reply).bind look

/-- **What is heard in a reply** is what it gives: the client hears nothing in a refusal or in a
fault. -/
theorem heard_eq_ok : c.heard look reply = .ok a ↔ reply.Gives look a := by
  unfold heard
  constructor
  · intro h
    cases hverdict : c.verdict reply with
    | error e => rw [hverdict] at h; cases h
    | ok r =>
      rw [hverdict] at h
      obtain ⟨hreply, hr⟩ := verdict_eq_ok hverdict
      exact ⟨r, hreply, hr, h⟩
  · rintro ⟨r, rfl, hr, hlook⟩
    rw [verdict_response, hr, if_neg Bool.false_ne_true]
    exact hlook

/-- The body of a response. -/
def bodyIn (r : Response) : Except Failure Json :=
  r.json.mapError .unreadable

theorem outcome_body (r : Response) (w : Surroundings) :
    outcome (bodyOf r) w = (bodyIn r, w) :=
  outcome_bodyOf r w

variable (c)

/-- An operation whose answer is read without another exchange. -/
theorem outcome_perform_look {op : Operation} {path : String} {more : List (String × String)}
    {next : Response → Shell α} (hnext : ∀ r w, outcome (next r) w = (look r, w))
    (w : Surroundings) :
    outcome (c.perform op path more >>= next) w =
      (c.heard look w.reply, w.exchanged (c.request op path more)) := by
  rw [outcome_bind, outcome_perform, heard]
  cases c.verdict w.reply with
  | error e => rfl
  | ok r => exact hnext r _

end Client

end NamenodeShell
