import NamenodeShell.Proofs.Shell.Outcome

/-!
# Exchanges with the service

What a computation asks of the service and is told. The log tells of the requests, the service of
the replies; `exchanges` puts the two together for what lies between two surroundings. `Passed` is
the relation behind it, which holds of nothing done with no exchange and adds exchanges up.

A computation *follows* a language of exchanges when what it exchanges is always a word of it. For a
language that is closed under putting words together this is a law, so it carries over from the
parts of a computation to the whole. `outcome_exchange` is the one place where an exchange happens.
-/
set_option autoImplicit false

namespace NamenodeShell

/-- **An exchange**: a request as it went out, and the reply to it. -/
structure Exchange where
  request : Request
  reply : Reply

/-- The request an event tells of. -/
def Event.request? : Event → Option Request
  | .sent request _ => some request
  | _ => none

/-- The text an event shows. -/
def Event.shown? : Event → Option Markup.Styled
  | .shown text => some text
  | _ => none

/-- The reply to the next request; when the service has no answer left the connection fails. -/
def replyOf : List Answer → Reply
  | [] => .fault .connection
  | answer :: _ => answer.reply

/-- Requests with the replies to them. -/
def paired : List Request → List Answer → List Exchange
  | [], _ => []
  | request :: requests, answers =>
    ⟨request, replyOf answers⟩ :: paired requests answers.tail

/-- Answers are used up in order: the later requests meet the answers that the earlier ones have
left. -/
theorem paired_append (requests more : List Request) (answers : List Answer) :
    paired (requests ++ more) answers =
      paired requests answers ++ paired more (answers.drop requests.length) := by
  induction requests generalizing answers with
  | nil => rfl
  | cons request requests ih =>
    simp only [List.cons_append, paired, ih, List.length_cons, List.drop_tail]

/-- The disk after some answers have come. -/
def Disk.after (d : Disk) (answers : List Answer) : Disk :=
  answers.foldl (fun d answer => Shell.Answer.arrive answer d) d

namespace Surroundings

/-- The reply to the next request. -/
def reply (w : Surroundings) : Reply :=
  replyOf w.service

/-- **The exchanges between two surroundings**, of which the second came from the first. -/
def exchanges (w w' : Surroundings) : List Exchange :=
  paired ((w'.log.drop w.log.length).filterMap Event.request?) w.service

/-- The requests sent between two surroundings. -/
def requests (w w' : Surroundings) : List Request :=
  (w.exchanges w').map (·.request)

/-- **Exchanges lead from some surroundings to others** when the log has grown by their requests and
the service has lost its answers to them. -/
structure Passed (w w' : Surroundings) (xs : List Exchange) : Prop where
  log : ∃ events, w'.log = w.log ++ events ∧
    events.filterMap Event.request? = xs.map (·.request)
  replies : paired (xs.map (·.request)) w.service = xs
  service : w'.service = w.service.drop xs.length

namespace Passed

variable {w w' w'' : Surroundings} {xs ys : List Exchange}

/-- Where nothing is done nothing is exchanged. -/
theorem refl (w : Surroundings) : Passed w w [] :=
  ⟨⟨[], by simp only [List.append_nil], rfl⟩, rfl, rfl⟩

/-- **Exchanges add up**, since the second ones begin with the answers that the first have left. -/
theorem trans (h : Passed w w' xs) (h' : Passed w' w'' ys) : Passed w w'' (xs ++ ys) := by
  obtain ⟨events, hlog, hevents⟩ := h.log
  obtain ⟨events', hlog', hevents'⟩ := h'.log
  refine ⟨⟨events ++ events', ?_, ?_⟩, ?_, ?_⟩
  · rw [hlog', hlog, List.append_assoc]
  · rw [List.filterMap_append, hevents, hevents', List.map_append]
  · rw [List.map_append, paired_append, h.replies, List.length_map, ← h.service, h'.replies]
  · rw [h'.service, h.service, List.drop_drop, List.length_append]

/-- The exchanges that lead somewhere are the ones that lie between. -/
theorem exchanges_eq (h : Passed w w' xs) : w.exchanges w' = xs := by
  obtain ⟨events, hlog, hevents⟩ := h.log
  unfold exchanges
  rw [hlog, List.drop_left, hevents, h.replies]

/-- An event that is no request adds no exchange. -/
theorem of_log {e : Event} (he : e.request? = none) (w : Surroundings) :
    Passed w { w with log := w.log ++ [e] } [] :=
  ⟨⟨[e], rfl, by simp only [List.filterMap_cons, he, List.filterMap_nil, List.map_nil]⟩, rfl, rfl⟩

end Passed

/-! ## One exchange -/

/-- The disk once the next answer has come. -/
def arrived (w : Surroundings) : Disk :=
  match w.service with
  | [] => w.disk
  | answer :: _ => Shell.Answer.arrive answer w.disk

/-- One answer comes at a time. -/
theorem arrived_eq (w : Surroundings) : w.arrived = w.disk.after (w.service.take 1) := by
  unfold arrived
  cases w.service <;> rfl

/-- A request as it goes out: the data of an upload is taken when a response comes. -/
def taken (w : Surroundings) (request : Request) : Request :=
  match w.reply with
  | .response _ => request.taken w.arrived
  | _ => request

/-- Whether the next reply is a response. -/
def isAnswered (w : Surroundings) : Bool :=
  match w.reply with
  | .response _ => true
  | _ => false

/-- **The surroundings after an exchange.** -/
def exchanged (w : Surroundings) (request : Request) : Surroundings :=
  { service := w.service.tail
    disk := w.arrived
    clock := { w.clock with now := w.clock.now + w.clock.latency }
    log := w.log ++ [.sent (w.taken request) w.isAnswered] }

/-- An exchange is one exchange: it uses up one answer, or none if there is none, and the log tells
of its request. -/
theorem passed_exchanged (w : Surroundings) (request : Request) :
    Passed w (w.exchanged request) [⟨w.taken request, w.reply⟩] :=
  ⟨⟨[.sent (w.taken request) w.isAnswered], rfl, rfl⟩, rfl, by
    rw [List.length_singleton, List.drop_one]; rfl⟩

/-- Only the data of an upload is taken. -/
theorem taken_operation (w : Surroundings) (op : Operation) (url : String)
    (query : List (String × String)) (timeout : Float) :
    w.taken (.operation op url query timeout) = .operation op url query timeout := by
  unfold taken
  cases w.reply <;> rfl

/-- What goes out of an upload keeps its method and its location. -/
theorem taken_upload (w : Surroundings) (method : Method) (location : Json) (data : Payload)
    (timeout : Float) :
    ∃ data', w.taken (.upload method location data timeout) =
      .upload method location data' timeout := by
  unfold taken
  cases w.reply with
  | response r => exact ⟨_, rfl⟩
  | fault f => exact ⟨data, rfl⟩
  | interrupted => exact ⟨data, rfl⟩

/-! ## The disk between exchanges -/

/-- **The disk as others have left it** between two surroundings: with what they created before the
answers came, and nothing else. -/
def leftBy (w w' : Surroundings) : Disk :=
  w.disk.after (w.service.take (w.exchanges w').length)

/-- **The disk is spared** where others alone change it. -/
def Spared (w w' : Surroundings) : Prop :=
  ∃ xs, w.Passed w' xs ∧ w'.disk = w.disk.after (w.service.take xs.length)

namespace Spared

variable {w w' w'' : Surroundings}

/-- The relation fixes the disk: all of it is told by the answers that have come. -/
theorem disk_eq (h : w.Spared w') : w'.disk = w.leftBy w' := by
  obtain ⟨xs, hxs, hdisk⟩ := h
  rw [leftBy, hxs.exchanges_eq, hdisk]

/-- An event leaves the disk to others. -/
theorem of_log {e : Event} (he : e.request? = none) (w : Surroundings) :
    Spared w { w with log := w.log ++ [e] } :=
  ⟨[], .of_log he w, rfl⟩

/-- So does an exchange: what comes with its answer is what others have created. -/
theorem exchanged (w : Surroundings) (request : Request) : Spared w (w.exchanged request) :=
  ⟨_, w.passed_exchanged request, w.arrived_eq⟩

end Spared

instance : IsPreorder Surroundings Spared where
  refl w := ⟨[], .refl w, rfl⟩
  trans := by
    rintro w w' w'' ⟨xs, hxs, hdisk⟩ ⟨ys, hys, hdisk'⟩
    refine ⟨xs ++ ys, hxs.trans hys, ?_⟩
    -- the second answers are those that the first ones have left
    rw [hdisk', hdisk, hxs.service, Disk.after, Disk.after, Disk.after, ← List.foldl_append,
      List.length_append, List.take_add]

/-- **All is quiet** between two surroundings where nothing is exchanged and the disk stays. -/
def Quiet (w w' : Surroundings) : Prop :=
  w.Passed w' [] ∧ w'.disk = w.disk

instance : IsPreorder Surroundings Quiet where
  refl w := ⟨.refl w, rfl⟩
  trans _ _ _ h h' := ⟨h.1.trans h'.1, h'.2.trans h.2⟩

namespace Quiet

variable {w w' w'' : Surroundings}

/-- What is quiet afterwards adds nothing to what has been exchanged, or come to the disk. -/
theorem exchanges_eq {xs : List Exchange} (h : w'.Quiet w'') (hxs : w.Passed w' xs) :
    w.exchanges w'' = xs ∧ w.leftBy w'' = w.leftBy w' := by
  have hwhole := (hxs.trans h.1).exchanges_eq
  rw [List.append_nil] at hwhole
  exact ⟨hwhole, by rw [leftBy, leftBy, hwhole, hxs.exchanges_eq]⟩

end Quiet

end Surroundings

namespace Reply

/-- What an exchange comes to: a response or a fault, unless it is interrupted. -/
def result : Reply → Except Failure (Except Fault Response)
  | .response r => .ok (.ok r)
  | .fault f => .ok (.error f)
  | .interrupted => .error .interrupted

end Reply

namespace Shell

variable {α β : Type}

/-- **An exchange comes to what the next reply says.** -/
theorem outcome_exchange (request : Request) (w : Surroundings) :
    outcome (exchange request) w = (w.reply.result, w.exchanged request) := by
  obtain ⟨service, d, clock, log⟩ := w
  unfold exchange
  cases service with
  | nil => rfl
  | cons answer rest =>
    obtain ⟨reply, created⟩ := answer
    cases reply <;> rfl

/-! ## Languages of exchanges -/

/-- A language that has the empty word and every two words of it put together. -/
class Closed (L : List Exchange → Prop) : Prop where
  nil : L []
  append {xs ys : List Exchange} : L xs → L ys → L (xs ++ ys)

/-- **What a language of exchanges allows** between surroundings. -/
def Within (L : List Exchange → Prop) (w w' : Surroundings) : Prop :=
  ∃ xs, w.Passed w' xs ∧ L xs

/-- **A computation follows a language** when its exchanges are always a word of it. -/
abbrev Follows (L : List Exchange → Prop) (act : Shell α) : Prop :=
  Obeys (Within L) act

instance {L : List Exchange → Prop} [Closed L] : IsPreorder Surroundings (Within L) where
  refl w := ⟨[], .refl w, Closed.nil⟩
  trans := by
    rintro w w' w'' ⟨xs, hxs, hL⟩ ⟨ys, hys, hL'⟩
    exact ⟨xs ++ ys, hxs.trans hys, Closed.append hL hL'⟩

/-- The language of silence. -/
def Silence (xs : List Exchange) : Prop := xs = []

instance : Closed Silence where
  nil := rfl
  append := by
    rintro xs ys rfl rfl
    rfl

/-- **A silent computation** exchanges nothing. -/
abbrev Silent (act : Shell α) : Prop :=
  Follows Silence act

section

variable {L M : List Exchange → Prop}

/-- A word of a language is one of every larger language. -/
theorem Follows.mono {act : Shell α} (h : Follows L act) (hLM : ∀ xs, L xs → M xs) :
    Follows M act := by
  intro w
  obtain ⟨xs, hxs, hL⟩ := h w
  exact ⟨xs, hxs, hLM xs hL⟩

/-- The exchanges of a computation that follows a language are a word of it. -/
theorem Follows.exchanges {act : Shell α} (h : Follows L act) (w : Surroundings) :
    L (w.exchanges (outcome act w).2) := by
  obtain ⟨xs, hxs, hL⟩ := h w
  rw [hxs.exchanges_eq]
  exact hL

/-- What is silent follows every language that has the empty word. -/
theorem Silent.follows {act : Shell α} (h : Silent act) (hL : L []) : Follows L act :=
  h.mono fun _ hxs => hxs ▸ hL

/-- Something silent in front changes nothing. -/
theorem Silent.bind {act : Shell α} {next : α → Shell β} (h : Silent act) (hL : L [])
    (hnext : ∀ a, Follows L (next a)) : Follows L (act >>= next) := by
  intro w
  have hw := h w
  rw [outcome_bind]
  cases hact : outcome act w with
  | mk result w' =>
    rw [hact] at hw
    obtain ⟨xs, hxs, rfl⟩ := hw
    cases result with
    | error e => exact ⟨[], hxs, hL⟩
    | ok a =>
      -- the exchanges in front are none, so those behind are all there are
      obtain ⟨ys, hys, hys'⟩ := hnext a w'
      exact ⟨ys, hxs.trans hys, hys'⟩

/-- Something silent behind changes nothing. -/
theorem Follows.bind_silent {act : Shell α} {next : α → Shell β} (h : Follows L act)
    (hnext : ∀ a, Silent (next a)) : Follows L (act >>= next) := by
  intro w
  obtain ⟨xs, hxs, hL⟩ := h w
  rw [outcome_bind]
  cases hact : outcome act w with
  | mk result w' =>
    rw [hact] at hxs
    cases result with
    | error e => exact ⟨xs, hxs, hL⟩
    | ok a =>
      obtain ⟨ys, hys, rfl⟩ := hnext a w'
      exact ⟨xs, by simpa only [List.append_nil] using hxs.trans hys, hL⟩

/-- A silent rescue changes nothing. -/
theorem Follows.tryCatch_silent {act : Shell α} {rescue : Failure → Shell α} (h : Follows L act)
    (hrescue : ∀ e, Silent (rescue e)) : Follows L (tryCatch act rescue) := by
  intro w
  obtain ⟨xs, hxs, hL⟩ := h w
  rw [outcome_tryCatch]
  cases hact : outcome act w with
  | mk result w' =>
    rw [hact] at hxs
    cases result with
    | ok a => exact ⟨xs, hxs, hL⟩
    | error e =>
      obtain ⟨ys, hys, rfl⟩ := hrescue e w'
      exact ⟨xs, by simpa only [List.append_nil] using hxs.trans hys, hL⟩

end

/-! ## Silent primitives -/

/-- An event that is no request is silent. -/
theorem silent_note {e : Event} (he : e.request? = none) : Silent (note e) :=
  fun w => ⟨[], .of_log he w, rfl⟩

/-- What is changed on the disk is not told to the service. -/
theorem silent_setDisk (d : Disk) : Silent (setDisk d) :=
  fun _ => ⟨[], ⟨⟨[], (List.append_nil _).symm, rfl⟩, rfl, rfl⟩, rfl⟩

end Shell

end NamenodeShell
