import NamenodeShell.Proofs.Classification
import NamenodeShell.Proofs.Dealings

/-!
# How data is written

A write goes in two steps, and the data goes out in the second alone. `Response.Locates` says
without the client where an accepted answer to the first step wants the data, and
`Response.LocatesNothing` when it is known to name no place; `TwoSteps` is what a write comes to by
the replies to the two steps, and `writes_in_two_steps` that it does. So the pieces of the data are
taken at most once (`Surroundings.consumed`), by whoever was named.

An answer that names no place in its headers and has a body that cannot be read is neither: it
should count as naming none, and gets out as the failure to read it (`create_misreads`).
-/
set_option autoImplicit false

namespace NamenodeShell

open Shell

namespace Response

/-- **A response names no place in its headers.** An empty name is none. -/
def HasNoLocation (r : Response) : Prop :=
  ∀ text, r.header? "Location" = some text → text = ""

/-- **A response names the place for the data**: by its header, or else in its body. -/
inductive Locates (r : Response) : Json → Prop
  | header {text : String} (h : r.header? "Location" = some text) (hne : text ≠ "") :
      Locates r (.text text)
  | body {members : List (String × Json)} {target : Json} (hnone : r.HasNoLocation)
      (hjson : r.json = .ok (.object members)) (hmember : members.lookup "Location" = some target)
      (htruthy : target.truthy = true) : Locates r target

/-- **A response names no place for the data**: its body is no JSON, or an object with nothing in
the place of a location. -/
inductive LocatesNothing (r : Response) : Prop
  | otherText {why : Unreadable} (hnone : r.HasNoLocation) (hjson : r.json = .error why)
      (hother : why.isOtherText = true)
  | object {members : List (String × Json)} (hnone : r.HasNoLocation)
      (hjson : r.json = .ok (.object members))
      (hmember : ∀ target, members.lookup "Location" = some target → target.truthy = false)

/-- A header that is missing, or empty, gives no text. -/
theorem filter_ne_eq_none {value : Option String} :
    value.filter (· ≠ "") = none ↔ ∀ text, value = some text → text = "" := by
  cases value with
  | none => exact ⟨fun _ text htext => (nomatch htext), fun _ => rfl⟩
  | some text => simp [Option.filter]

end Response

/-- **A reply names the place for the data**: it is an accepted response that does. -/
def Reply.Locates (reply : Reply) (target : Json) : Prop :=
  ∃ r, reply = .response r ∧ r.isRefusal = false ∧ r.Locates target

/-- **A reply accepts** what was sent. -/
def Reply.Accepts (reply : Reply) : Prop :=
  ∃ r, reply = .response r ∧ r.isRefusal = false

namespace Client

variable {c : Client} {op : Operation} {path : String} {more : List (String × String)}
variable {data : Payload} {w : Surroundings} {r : Response} {reply : Reply} {target : Json}
variable {f : Failure}

/-! ## Where the data is to go -/

/-- The location of a response that has none in its headers. -/
theorem location_of_hasNoLocation (h : r.HasNoLocation) :
    location r = (bodyLocation r).map (·.filter Json.truthy) := by
  unfold location
  rw [Response.filter_ne_eq_none.mpr h]
  cases bodyLocation r <;> rfl

/-- A header that is not empty goes before the body. -/
theorem location_of_header {text : String} (h : r.header? "Location" = some text)
    (hne : text ≠ "") : location r = .ok (some (.text text)) := by
  have hfilter : (r.header? "Location").filter (· ≠ "") = some text :=
    Option.filter_eq_some_iff.mpr ⟨h, by simpa using hne⟩
  unfold location
  rw [hfilter]

/-- The place that a response names is the one its location comes to, -/
theorem location_of_locates (h : r.Locates target) : location r = .ok (some target) := by
  cases h with
  | header hheader hne => exact location_of_header hheader hne
  | body hnone hjson hmember htruthy =>
    have hfilter : (some target).filter Json.truthy = some target :=
      Option.filter_eq_some_iff.mpr ⟨rfl, htruthy⟩
    rw [location_of_hasNoLocation hnone, bodyLocation, hjson]
    simp only [Json.get, Except.map, hmember, hfilter]

/-- and where it names none there is none. -/
theorem location_of_locatesNothing (h : r.LocatesNothing) : location r = .ok none := by
  cases h with
  | otherText hnone hjson hother =>
    rw [location_of_hasNoLocation hnone, bodyLocation, hjson]
    simp only [hother, if_true, Except.map, Option.filter_none]
  | object hnone hjson hmember =>
    rw [location_of_hasNoLocation hnone, bodyLocation, hjson]
    simp only [Json.get, Except.map, Response.filter_truthy_eq_none.mpr hmember]

/-- **A response names a place or none, or what it names cannot be learnt.** -/
theorem locates_cases (r : Response) :
    (∃ target, r.Locates target) ∨ r.LocatesNothing ∨
      ∃ f, location r = .error f ∧ f.isOwn = false := by
  -- By the order in which the client looks: the header, whether the body can be read, and what is
  -- in it.
  cases hheader : (r.header? "Location").filter (· ≠ "") with
  | some text =>
    obtain ⟨htext, hne⟩ := Option.filter_eq_some_iff.mp hheader
    exact .inl ⟨.text text, .header htext (by simpa using hne)⟩
  | none =>
    have hnone : r.HasNoLocation := Response.filter_ne_eq_none.mp hheader
    have hlocation := location_of_hasNoLocation hnone
    unfold bodyLocation at hlocation
    cases hjson : r.json with
    | error why =>
      cases hother : why.isOtherText with
      | true => exact .inr (.inl (.otherText hnone hjson hother))
      | false =>
        simp only [hjson, hother, Bool.false_eq_true, if_false] at hlocation
        exact .inr (.inr ⟨_, hlocation, Failure.isOwn_unreadable why⟩)
    | ok body =>
      cases body with
      | object members =>
        cases hmember : (members.lookup "Location").filter Json.truthy with
        | none =>
          exact .inr (.inl (.object hnone hjson (Response.filter_truthy_eq_none.mp hmember)))
        | some target =>
          obtain ⟨hlookup, htruthy⟩ := Option.filter_eq_some_iff.mp hmember
          exact .inl ⟨target, .body hnone hjson hlookup htruthy⟩
      | _ =>
        simp only [hjson, Json.get, Except.map] at hlocation
        exact .inr (.inr ⟨_, hlocation, rfl⟩)

/-- **A reply names the place for the data just where that is what is found in it.** -/
theorem heard_location_eq_some :
    c.heard location reply = .ok (some target) ↔ reply.Locates target := by
  rw [heard_eq_ok]
  refine exists_congr fun r => and_congr_right fun _ => and_congr_right fun _ => ?_
  refine ⟨fun h => ?_, location_of_locates⟩
  -- Each of the three comes to something else, and only the first of them to a place.
  rcases locates_cases r with ⟨target', hlocates⟩ | hnothing | ⟨f, hf, -⟩
  · obtain rfl := Option.some.inj (Except.ok.inj (h.symm.trans (location_of_locates hlocates)))
    exact hlocates
  · cases h.symm.trans (location_of_locatesNothing hnothing)
  · cases h.symm.trans hf

/-- A reply names one place. -/
theorem locates_unique {other : Json} (h : reply.Locates target) (h' : reply.Locates other) :
    other = target := by
  obtain ⟨r, rfl, -, hlocates⟩ := h
  obtain ⟨r', hreply, -, hlocates'⟩ := h'
  cases hreply
  have hlocation := (location_of_locates hlocates').symm.trans (location_of_locates hlocates)
  exact Option.some.inj (Except.ok.inj hlocation)

/-- What is found in an accepted answer is what its location comes to. -/
theorem heard_location_of_accepted (c : Client) (hr : r.isRefusal = false) :
    c.heard location (.response r) = location r := by
  rw [heard, verdict_response, hr, if_neg Bool.false_ne_true]
  rfl

/-! ## The two steps -/

/-- A write that learns no place ends with the first step. -/
theorem outcome_write_of_not_located (c : Client) (op : Operation) (path : String)
    (more : List (String × String)) (data : Payload) (h : ∀ target, ¬ w.reply.Locates target) :
    ∃ f, outcome (c.write op path more data) w =
        (.error f, w.exchanged (c.request op path more)) ∧
      (c.heard location w.reply = .error f ∨
        c.heard location w.reply = .ok none ∧ f = .noLocation op.word path) := by
  rw [outcome_write]
  cases hheard : (c.verdict w.reply).bind location with
  | error f => exact ⟨f, rfl, .inl hheard⟩
  | ok found =>
    cases found with
    | none => exact ⟨_, rfl, .inr ⟨hheard, rfl⟩⟩
    | some target => exact absurd (heard_location_eq_some.mp hheard) (h target)

/-- A write that learns a place comes to the verdict on the reply to the second step. -/
theorem outcome_write_of_locates (h : w.reply.Locates target) :
    outcome (c.write op path more data) w =
      ((c.verdict (replyOf w.service.tail)).map fun _ => (),
        (w.exchanged (c.request op path more)).exchanged
          (.upload op.method target data c.timeout)) := by
  have hheard : (c.verdict w.reply).bind location = .ok (some target) :=
    heard_location_eq_some.mpr h
  rw [outcome_write, hheard]
  rfl

/-- What goes out of an upload gives the pieces that its data gives. -/
theorem taken_upload_pieces (w : Surroundings) (method : Method) (location : Json)
    (data : Payload) (timeout : Float) :
    ∃ data', w.taken (.upload method location data timeout) =
        .upload method location data' timeout ∧
      data'.taken w.arrived = data.taken w.arrived := by
  unfold Surroundings.taken
  cases w.reply with
  | response r => exact ⟨.parts (data.taken w.arrived), rfl, rfl⟩
  | fault f => exact ⟨data, rfl, rfl⟩
  | interrupted => exact ⟨data, rfl, rfl⟩

/-- A verdict is good just on a reply that accepts. -/
theorem verdict_map_eq_ok :
    ((c.verdict reply).map fun _ => ()) = .ok () ↔ reply.Accepts := by
  constructor
  · intro h
    cases hverdict : c.verdict reply with
    | ok r => exact ⟨r, verdict_eq_ok hverdict⟩
    | error e => rw [hverdict] at h; cases h
  · rintro ⟨r, rfl, hr⟩
    rw [verdict_response, hr, if_neg Bool.false_ne_true]
    rfl

end Client

/-! ## The data that is taken -/

/-- The pieces of data that are taken with an event. -/
def Event.consumed : Event → List Bytes
  | .sent (.upload _ _ (.parts pieces) _) true => pieces
  | _ => []

namespace Surroundings

/-- **The pieces of data that are taken** between two surroundings. -/
def consumed (w w' : Surroundings) : List Bytes :=
  (w'.log.drop w.log.length).flatMap Event.consumed

variable {w : Surroundings}

/-- The pieces that are taken are those of the new events. -/
theorem consumed_of_log {w' : Surroundings} {events : List Event}
    (h : w'.log = w.log ++ events) : w.consumed w' = events.flatMap Event.consumed := by
  rw [consumed, h, List.drop_left]

/-- An exchange is answered just when a response comes. -/
theorem isAnswered_eq_true : w.isAnswered = true ↔ ∃ r, w.reply = .response r := by
  unfold isAnswered
  cases w.reply with
  | response r => exact iff_of_true rfl ⟨r, rfl⟩
  | fault f => exact iff_of_false Bool.false_ne_true fun ⟨_, h⟩ => nomatch h
  | interrupted => exact iff_of_false Bool.false_ne_true fun ⟨_, h⟩ => nomatch h

/-- The pieces of an upload are taken just where a response comes. -/
theorem consumed_sent_upload (w : Surroundings) (method : Method) (location : Json)
    (data : Payload) (timeout : Float) :
    Event.consumed (.sent (w.taken (.upload method location data timeout)) w.isAnswered) =
      if w.isAnswered then data.taken w.arrived else [] := by
  unfold taken isAnswered
  cases w.reply with
  | response r => rfl
  | fault f => cases data <;> rfl
  | interrupted => cases data <;> rfl

/-- An upload behind an operation: the data is all that is taken. -/
theorem consumed_upload (w : Surroundings) (c : Client) (op : Operation) (path : String)
    (more : List (String × String)) (method : Method) (location : Json) (data : Payload)
    (timeout : Float) :
    w.consumed ((w.exchanged (c.request op path more)).exchanged
        (.upload method location data timeout)) =
      if (w.exchanged (c.request op path more)).isAnswered
      then data.taken (w.exchanged (c.request op path more)).arrived else [] := by
  have hlog := w.log_exchanged c op path more
  -- The first event is an operation, with which no data is taken.
  generalize w.exchanged (c.request op path more) = first at hlog
  have hevents : (first.exchanged (.upload method location data timeout)).log = w.log ++
      [.sent (c.request op path more) w.isAnswered,
        .sent (first.taken (.upload method location data timeout)) first.isAnswered] := by
    change first.log ++ _ = _
    rw [hlog, List.append_assoc]
    rfl
  rw [consumed_of_log hevents, ← first.consumed_sent_upload method location data timeout]
  exact List.append_nil _

end Surroundings

/-! ## What writes come to -/

/-- **A write in two steps**, by the replies to them: what it comes to and exchanges, and what is
taken of the data. -/
structure TwoSteps (c : Client) (op : Operation) (path : String) (more : List (String × String))
    (data : Payload) (w w' : Surroundings) (result : Except Failure Unit) : Prop where
  /-- The answer to the first step is not followed to where it redirects. -/
  unredirected : op.followsRedirects = false
  /-- Where it names no place for the data, nothing else is sent and no data is taken. -/
  alone : (∀ target, ¬ w.reply.Locates target) →
    w.exchanges w' = [⟨c.request op path more, w.reply⟩] ∧ w.consumed w' = []
  /-- Where it names one, the data is sent to that place by the same method, with all its pieces, -/
  sends : ∀ target, w.reply.Locates target → ∃ data',
    w.exchanges w' = [⟨c.request op path more, w.reply⟩,
      ⟨.upload op.method target data' c.timeout, replyOf w.service.tail⟩] ∧
    data'.taken w'.disk = data.taken w'.disk
  /-- which are taken if a response comes, -/
  taken : ∀ target r, w.reply.Locates target → replyOf w.service.tail = .response r →
    w.consumed w' = data.taken w'.disk
  /-- and otherwise not. -/
  kept : ∀ target, w.reply.Locates target → (∀ r, replyOf w.service.tail ≠ .response r) →
    w.consumed w' = []
  /-- A write succeeds just where both steps are accepted, -/
  succeeds : result = .ok () ↔
    (∃ target, w.reply.Locates target) ∧ (replyOf w.service.tail).Accepts
  /-- and fails as the one of the two does that fails. -/
  first_fails : ∀ f, c.verdict w.reply = .error f → result = .error f
  second_fails : ∀ target f, w.reply.Locates target →
    c.verdict (replyOf w.service.tail) = .error f → result = .error f
  /-- Where an accepted answer names no place, that is the failure, a refusal of the service, -/
  unlocated : ∀ r, w.reply = .response r → r.isRefusal = false → r.LocatesNothing →
    result = .error (.noLocation op.word path) ∧
      (Failure.noLocation op.word path).category = .remote
  /-- and where it cannot be learnt what it names, the failure is none of the shell's own. -/
  misread : ∀ r, w.reply = .response r → r.isRefusal = false → ¬ r.LocatesNothing →
    (∀ target, ¬ r.Locates target) → ∃ f, result = .error f ∧ f.isOwn = false

namespace Client

variable {c : Client} {op : Operation} {path : String} {more : List (String × String)}
variable {data : Payload} {w : Surroundings} {target : Json} {f : Failure}

/-- A write that learns no place takes one step. -/
theorem twoSteps_of_not_located (hop : op.followsRedirects = false)
    (h : ∀ target, ¬ w.reply.Locates target)
    (hheard : c.heard location w.reply = .error f ∨
      c.heard location w.reply = .ok none ∧ f = .noLocation op.word path) :
    TwoSteps c op path more data w (w.exchanged (c.request op path more)) (.error f) where
  unredirected := hop
  alone _ := ⟨(w.passed_operation c op path more).exchanges_eq,
    Surroundings.consumed_of_log (w.log_exchanged c op path more)⟩
  sends target htarget := absurd htarget (h target)
  taken target _ htarget := absurd htarget (h target)
  kept target htarget := absurd htarget (h target)
  succeeds := by
    constructor
    · intro hok
      cases hok
    · rintro ⟨⟨target, htarget⟩, -⟩
      exact absurd htarget (h target)
  first_fails e he := by
    rw [heard, he] at hheard
    rcases hheard with hf | ⟨hf, -⟩
    · cases hf
      rfl
    · cases hf
  second_fails target _ htarget := absurd htarget (h target)
  unlocated r hreply hr hnothing := by
    rw [hreply, heard_location_of_accepted c hr, location_of_locatesNothing hnothing] at hheard
    rcases hheard with hf | ⟨-, rfl⟩
    · cases hf
    · exact ⟨rfl, rfl⟩
  misread r hreply hr hnothing hlocates := by
    rcases locates_cases r with ⟨target, htarget⟩ | hnothing' | ⟨e, he, hown⟩
    · exact absurd htarget (hlocates target)
    · exact absurd hnothing' hnothing
    · rw [hreply, heard_location_of_accepted c hr, he] at hheard
      rcases hheard with hf | ⟨hf, -⟩
      · cases hf
        exact ⟨_, rfl, hown⟩
      · cases hf

/-- A write that learns a place takes two. -/
theorem twoSteps_of_locates (hop : op.followsRedirects = false) (h : w.reply.Locates target) :
    TwoSteps c op path more data w
      ((w.exchanged (c.request op path more)).exchanged
        (.upload op.method target data c.timeout))
      ((c.verdict (replyOf w.service.tail)).map fun _ => ()) where
  unredirected := hop
  alone hnone := absurd h (hnone target)
  sends target' htarget' := by
    obtain rfl := locates_unique h htarget'
    have hpassed := (w.exchanged (c.request op path more)).passed_exchanged
      (.upload op.method target' data c.timeout)
    obtain ⟨data', htaken, hpieces⟩ := taken_upload_pieces
      (w.exchanged (c.request op path more)) op.method target' data c.timeout
    rw [htaken] at hpassed
    exact ⟨data', ((w.passed_operation c op path more).trans hpassed).exchanges_eq, hpieces⟩
  taken _ r _ hr := by
    have hanswered : (w.exchanged (c.request op path more)).isAnswered = true :=
      Surroundings.isAnswered_eq_true.mpr ⟨r, hr⟩
    exact (w.consumed_upload c op path more op.method target data c.timeout).trans
      (if_pos hanswered)
  kept _ _ hnone := by
    refine (w.consumed_upload c op path more op.method target data c.timeout).trans
      (if_neg fun hanswered => ?_)
    obtain ⟨r, hr⟩ := Surroundings.isAnswered_eq_true.mp hanswered
    exact hnone r hr
  succeeds := verdict_map_eq_ok.trans ⟨fun haccepts => ⟨⟨target, h⟩, haccepts⟩, And.right⟩
  first_fails e he := by
    obtain ⟨r, hreply, hr, -⟩ := h
    rw [hreply, verdict_response, hr, if_neg Bool.false_ne_true] at he
    cases he
  second_fails _ e _ he := by
    rw [he]
    rfl
  unlocated r hreply hr hnothing := by
    have hlocated := (heard_location_eq_some (c := c)).mpr h
    rw [hreply, heard_location_of_accepted c hr, location_of_locatesNothing hnothing] at hlocated
    cases hlocated
  misread r hreply _ _ hnone := by
    obtain ⟨r', hreply', -, hlocates⟩ := h
    cases hreply.symm.trans hreply'
    exact absurd hlocates (hnone target)

/-- **Every write that is not redirected takes its steps as it should**: the reply to the first
names a place or does not. -/
theorem twoSteps_write (hop : op.followsRedirects = false) (w : Surroundings) :
    TwoSteps c op path more data w (outcome (c.write op path more data) w).2
      (outcome (c.write op path more data) w).1 := by
  by_cases h : ∃ target, w.reply.Locates target
  · obtain ⟨target, htarget⟩ := h
    rw [outcome_write_of_locates htarget]
    exact twoSteps_of_locates hop htarget
  · rw [not_exists] at h
    obtain ⟨f, houtcome, hheard⟩ := outcome_write_of_not_located c op path more data h
    rw [houtcome]
    exact twoSteps_of_not_located hop h hheard

/-- **Files are created and added to in two steps.** -/
theorem writes_in_two_steps (c : Client) (path : String) (data : Payload) (w : Surroundings) :
    TwoSteps c .create path [("overwrite", "false")] data w (outcome (c.create path data) w).2
        (outcome (c.create path data) w).1 ∧
      TwoSteps c .append path [] data w (outcome (c.append path data) w).2
        (outcome (c.append path data) w).1 :=
  ⟨twoSteps_write rfl w, twoSteps_write rfl w⟩

/-- An accepted answer without a location, in too many brackets. -/
def deepAnswer : Response where
  status := 200
  headers := []
  body := .whole (List.replicate 5000 91 ++ [])

/-- **An answer that is misread**: it is accepted, has no location in its headers and is not JSON,
and what the creation fails with is none of the shell's own failures. -/
theorem create_misreads :
    deepAnswer.isRefusal = false ∧ deepAnswer.HasNoLocation ∧ (∀ v, deepAnswer.json ≠ .ok v) ∧
      ∃ f, (outcome (sampleClient.create "/f" (.parts [[97, 98]])) (answering deepAnswer)).1 =
        .error f ∧ f.isOwn = false := by
  obtain ⟨why, hjson, hother⟩ :=
    Response.json_of_brackets (r := deepAnswer) rfl (show Json.maxNesting < 5000 by decide)
  have hnone : deepAnswer.HasNoLocation := fun text htext => nomatch htext
  refine ⟨rfl, hnone, fun v hv => ?_, .unreadable why, ?_, Failure.isOwn_unreadable why⟩
  · cases hjson.symm.trans hv
  · have hlocation : location deepAnswer = .error (.unreadable why) := by
      rw [location_of_hasNoLocation hnone, bodyLocation, hjson]
      simp only [hother, Bool.false_eq_true, if_false]
      rfl
    have hreply : (answering deepAnswer).reply = .response deepAnswer := rfl
    have haccepted : deepAnswer.isRefusal = false := rfl
    unfold create
    rw [outcome_write, hreply, verdict_response, haccepted, if_neg Bool.false_ne_true, Except.bind,
      hlocation]

end Client

end NamenodeShell
