import NamenodeShell.Proofs.Lease.Rounds
import NamenodeShell.Proofs.Transfer.Addition

/-!
# The account of a wait

What a wait of the shell has done when it comes to an outcome, event by event (`Account`): what was
asked and answered, how long it slept, what it warned of, and in which phase each of these fell. The
clock may be any: its readings may go back, and the reading itself may change it (`watchBy`). That
there are rounds is the business of `Course`; here it is seen what they leave in the log.

`wait_exact` says what a wait comes to, and `outcome_await` that this is what the shell computes: it
has one answer more to give up than the service has, and every round takes up one.
-/
set_option autoImplicit false

namespace NamenodeShell

open Shell

/-- How long the sleep was that an event tells of. -/
def Event.slept? : Event → Option Float
  | .slept seconds => some seconds
  | _ => none

/-- What an event warns of. -/
def Event.warned? : Event → Option (Source × String)
  | .warned source text => some (source, text)
  | _ => none

namespace Lease

/-! ## Phases of events -/

/-- **Events with the phases they fall in**, when a wait is in some phase before them. -/
def inPhases : Phase → List Event → List (Phase × Event)
  | _, [] => []
  | _, .waiting next :: events => inPhases next events
  | phase, e :: events => (phase, e) :: inPhases phase events

/-- An event that enters no phase. -/
def isWithin : Event → Bool
  | .waiting _ => false
  | _ => true

/-- Events that enter no phase all fall in the one there is. -/
theorem inPhases_within {events : List Event} (h : ∀ e ∈ events, isWithin e = true)
    (phase : Phase) (rest : List Event) :
    inPhases phase (events ++ rest) = events.map (phase, ·) ++ inPhases phase rest := by
  induction events with
  | nil => rfl
  | cons e events ih =>
    have he := h e List.mem_cons_self
    have hrest := ih fun e' he' => h e' (List.mem_cons_of_mem e he')
    cases e with
    | waiting next => cases he
    | _ => exact congrArg (_ :: ·) hrest

/-! ## Any clock -/

/-- **The watch over a file by any clock**: what it reads hangs on all there is around, and reading
it may change it. -/
def watchBy (c : Client) (path : String) (read : Surroundings → Float × Clock) :
    Watch Shell Float :=
  { watch c path with
    now := do
      let w ← get
      set { w with clock := (read w).2 }
      return (read w).1 }

/-- What is warned of when the request for the lease fails. -/
def refusedText (path : String) (f : Failure) : String :=
  s!"lease recovery request for {path} failed: {f.message}"

/-- What is warned of when the time is up. -/
def stillOpen (path : String) (elapsed : Float) : String :=
  s!"{path} still open after {Decimal.whole elapsed}s, giving up"

variable (c : Client) (path : String)

/-- The one request of a wait. -/
def question : Request :=
  c.request .blockLocations path

/-- What is warned of after a reply to the request for the lease. -/
def refusals (reply : Reply) : List String :=
  match c.heard Client.closedIn reply with
  | .ok _ => []
  | .error f => [refusedText path f]

variable {c path} {read : Surroundings → Float × Clock} {timeout interval start : Float}
  {readings last : List Float} {outcome : Outcome} {w w' : Surroundings}

/-- To enter a phase is an event. -/
theorem after_enter (phase : Phase) (w : Surroundings) :
    after ((watchBy c path read).enter phase) w =
      (.ok (), { w with log := w.log ++ [.waiting phase] }) := rfl

/-- A check is one look at the blocks, GET_BLOCK_LOCATIONS. -/
theorem after_isClosed (w : Surroundings) :
    after (watchBy c path read).isClosed w =
      (c.heard Client.closedIn w.reply, w.exchanged (question c path)) :=
  c.outcome_isClosed path w

/-- A reading of the clock may change the clock, and changes nothing else. -/
theorem after_now (w : Surroundings) :
    after (watchBy c path read).now w = (.ok (read w).1, { w with clock := (read w).2 }) := rfl

/-- A sleep is noted with the seconds that were asked for, and takes as much longer as the clock
says. -/
theorem after_sleep (pause : Float) (w : Surroundings) :
    after ((watchBy c path read).sleep pause) w = (.ok (), { w with
      log := w.log ++ [.slept pause]
      clock := { w.clock with now := w.clock.now + (pause + w.clock.drift) } }) := rfl

/-- To give up is to warn. -/
theorem after_giveUp (elapsed : Float) (w : Surroundings) :
    after ((watchBy c path read).giveUp elapsed) w =
      (.ok (), { w with log := w.log ++ [.warned .lease (stillOpen path elapsed)] }) := rfl

/-- **The request for the lease** fails only otherwise than in the shell's own ways; what fails in
one of these is noted. -/
theorem after_request (w : Surroundings) :
    after (watchBy c path read).request w =
      match c.heard Client.closedIn w.reply with
      | .ok _ => (.ok (), w.exchanged (question c path))
      | .error f => if f.isOwn then
            (.ok (), { w.exchanged (question c path) with
              log := (w.exchanged (question c path)).log ++
                [.warned .lease (refusedText path f)] })
          else (.error f, w.exchanged (question c path)) := by
  change outcome (requestOrWarn c path) w = _
  unfold requestOrWarn Client.recoverLease
  rw [outcome_tryCatch, outcome_bind, c.outcome_isClosed]
  cases c.heard Client.closedIn w.reply with
  | ok b => rfl
  | error f =>
    simp only
    split <;> rfl

/-- So a watch is steady by any clock. -/
theorem steady_watchBy (c : Client) (path : String) (read : Surroundings → Float × Clock) :
    Steady (watchBy c path read) where
  enter phase w := ⟨_, after_enter phase w⟩
  now w := ⟨_, _, after_now w⟩
  sleep pause w := ⟨_, after_sleep pause w⟩
  giveUp elapsed w := ⟨_, after_giveUp elapsed w⟩

/-! ## What the parts of a wait leave -/

/-- A check that is answered leaves the question in the log. -/
theorem log_of_gives {b : Bool} (h : w.reply.Gives Client.closedIn b) :
    (w.exchanged (question c path)).log = w.log ++ [.sent (question c path) true] := by
  obtain ⟨r, hreply, -⟩ := h
  have hanswered : w.isAnswered = true := by
    rw [Surroundings.isAnswered, hreply]
  rw [question, w.log_exchanged, hanswered]

/-- The events of the request for the lease, -/
def asking (c : Client) (path : String) (w : Surroundings) : List Event :=
  .sent (question c path) w.isAnswered :: (refusals c path w.reply).map (.warned .lease)

/-- of a round, -/
def turning (c : Client) (path : String) (timeout interval start reading : Float) : List Event :=
  [.sent (question c path) true, .slept (pause interval (timeout - (reading - start)))]

/-- of all that is done while polling, -/
def polling (c : Client) (path : String) (timeout interval start : Float)
    (readings : List Float) : List Event :=
  readings.flatMap (turning c path timeout interval start) ++ [.sent (question c path) true]

/-- and when the time is up. -/
def ending (path : String) (start : Float) (last : List Float) : List Event :=
  last.map fun reading => .warned .lease (stillOpen path (reading - start))

/-- The request for the lease does not break a wait off. -/
def Admitted (c : Client) (reply : Reply) : Prop :=
  ∀ f, c.heard Client.closedIn reply = .error f → f.isOwn = true

/-- What the request for the lease leaves when the wait goes on. -/
theorem request_leaves (h : after (watchBy c path read).request w = (.ok (), w')) :
    Admitted c w.reply ∧ w'.log = w.log ++ asking c path w ∧
      w.Passed w' [⟨question c path, w.reply⟩] := by
  have hpassed := w.passed_operation c .blockLocations path []
  have hlog : (w.exchanged (question c path)).log =
      w.log ++ [.sent (question c path) w.isAnswered] :=
    w.log_exchanged c .blockLocations path []
  rw [after_request] at h
  cases hheard : c.heard Client.closedIn w.reply with
  | ok b =>
    have hrefusals : refusals c path w.reply = [] := by
      rw [refusals, hheard]
    rw [hheard] at h
    cases h
    refine ⟨fun f hf => (nomatch hheard.symm.trans hf), ?_, hpassed⟩
    rw [hlog, asking, hrefusals, List.map_nil]
  | error f =>
    have hrefusals : refusals c path w.reply = [refusedText path f] := by
      rw [refusals, hheard]
    simp only [hheard] at h
    split at h
    next hown =>
      cases h
      refine ⟨fun f' hf' => ?_, ?_, hpassed.trans (.of_log rfl _)⟩
      · rwa [← Except.error.inj (hheard.symm.trans hf')]
      · rw [hlog, asking, hrefusals, List.append_assoc]
        rfl
    next => cases h

/-- What the opening of a wait leaves. -/
theorem opens_leaves (h : Opens (watchBy c path read) start w w') :
    Admitted c w.reply ∧
      w'.log = w.log ++ (.waiting .requesting :: (asking c path w ++ [.waiting .polling])) ∧
      w.Passed w' [⟨question c path, w.reply⟩] := by
  obtain ⟨hrequesting, hrequest, hpolling, hnow⟩ := h
  cases hrequesting
  cases hpolling
  cases hnow
  obtain ⟨hadmitted, hlog, hpassed⟩ := request_leaves hrequest
  refine ⟨hadmitted, ?_, ?_⟩
  · simp only [hlog, List.append_assoc]
    rfl
  · exact ((Surroundings.Passed.of_log rfl w).trans hpassed).trans ⟨⟨[_], rfl, rfl⟩, rfl, rfl⟩

/-- What a round leaves. -/
theorem round_leaves {reading : Float}
    (h : Round (watchBy c path read) timeout interval start reading w w') :
    w.reply.Gives Client.closedIn false ∧ ¬ timeout ≤ reading - start ∧
      w'.log = w.log ++ turning c path timeout interval start reading ∧
      w.Passed w' [⟨question c path, w.reply⟩] := by
  obtain ⟨hcheck, hnow, hearly, hsleep⟩ := h
  obtain ⟨hheard, rfl⟩ := Prod.mk.inj ((after_isClosed w).symm.trans hcheck)
  have hgives : w.reply.Gives Client.closedIn false := Client.heard_eq_ok.mp hheard
  cases hnow
  cases hsleep
  refine ⟨hgives, hearly, ?_, ?_⟩
  · simp only [log_of_gives hgives, List.append_assoc]
    rfl
  · exact (w.passed_operation c .blockLocations path []).trans ⟨⟨[_], rfl, rfl⟩, rfl, rfl⟩

/-- What rounds leave. -/
structure Polled (c : Client) (path : String) (timeout interval start : Float)
    (readings : List Float) (w w' : Surroundings) : Prop where
  early : ∀ reading ∈ readings, ¬ timeout ≤ reading - start
  log : w'.log = w.log ++ readings.flatMap (turning c path timeout interval start)
  replies : ∃ replies : List Reply, replies.length = readings.length ∧
    (∀ reply ∈ replies, reply.Gives Client.closedIn false) ∧
    w.Passed w' (replies.map fun reply => ⟨question c path, reply⟩)

/-- **What rounds leave**, by induction on them: each has asked, read and slept once. -/
theorem rounds_leave (h : Rounds (watchBy c path read) timeout interval start readings w w') :
    Polled c path timeout interval start readings w w' := by
  induction h with
  | nil =>
    constructor
    case early => exact nofun
    case log => exact (List.append_nil _).symm
    case replies => exact ⟨[], rfl, nofun, .refl _⟩
  | cons round rest ih =>
    obtain ⟨hgives, hearly, hlog, hpassed⟩ := round_leaves round
    obtain ⟨replies, hlength, hreplies, hrest⟩ := ih.replies
    constructor
    case early =>
      intro reading hreading
      rcases List.mem_cons.mp hreading with rfl | hreading
      · exact hearly
      · exact ih.early reading hreading
    case log => rw [ih.log, hlog, List.append_assoc, List.flatMap_cons]
    case replies =>
      refine ⟨_ :: replies, congrArg (· + 1) hlength, ?_, hpassed.trans hrest⟩
      intro reply hreply
      rcases List.mem_cons.mp hreply with rfl | hreply
      · exact hgives
      · exact hreplies reply hreply

/-- **What the last check decides**: it says that the file is closed, or it says that the file is
open, and the reading after it finds the time up. -/
structure Decided (timeout start : Float) (last : List Float) (reply : Reply)
    (outcome : Outcome) : Prop where
  closed : outcome = .closed ↔ reply.Gives Client.closedIn true
  timedOut : outcome = .timedOut ↔ reply.Gives Client.closedIn false ∧
    ∃ reading, last = [reading] ∧ timeout ≤ reading - start
  /-- The clock is read after the last check only when the file is still open. -/
  read : last.length = if outcome = .closed then 0 else 1

/-- What the end of a wait leaves. -/
theorem ends_leave (h : Ends (watchBy c path read) timeout start outcome last w w') :
    Decided timeout start last w.reply outcome ∧
      w'.log = w.log ++ (.sent (question c path) true :: .waiting .done ::
        ending path start last) ∧
      w.Passed w' [⟨question c path, w.reply⟩] := by
  cases h with
  | closed check done =>
    obtain ⟨hheard, rfl⟩ := Prod.mk.inj ((after_isClosed w).symm.trans check)
    have hgives : w.reply.Gives Client.closedIn true := Client.heard_eq_ok.mp hheard
    cases done
    refine ⟨⟨⟨fun _ => hgives, fun _ => rfl⟩, ⟨nofun, ?_⟩, rfl⟩, ?_, ?_⟩
    -- the file cannot be both closed and open by one reply
    · rintro ⟨hopen, -⟩
      cases hgives.unique hopen
    · simp only [log_of_gives hgives, List.append_assoc]
      rfl
    · exact (w.passed_operation c .blockLocations path []).trans (.of_log rfl _)
  | timedOut check now late done giveUp =>
    obtain ⟨hheard, rfl⟩ := Prod.mk.inj ((after_isClosed w).symm.trans check)
    have hgives : w.reply.Gives Client.closedIn false := Client.heard_eq_ok.mp hheard
    cases now
    cases done
    cases giveUp
    refine ⟨⟨⟨nofun, ?_⟩, ⟨fun _ => ⟨hgives, _, rfl, late⟩, fun _ => rfl⟩, rfl⟩, ?_, ?_⟩
    · intro hclosed
      cases hgives.unique hclosed
    · simp only [log_of_gives hgives, List.append_assoc]
      rfl
    · exact (w.passed_operation c .blockLocations path []).trans ⟨⟨[_, _], by
        simp only [List.append_assoc]; rfl, rfl⟩, rfl, rfl⟩

/-! ## The account -/

/-- **The events of a wait** that comes to an outcome. -/
def events (c : Client) (path : String) (timeout interval start : Float)
    (readings last : List Float) (w : Surroundings) : List Event :=
  .waiting .requesting :: (asking c path w ++ (.waiting .polling ::
    (polling c path timeout interval start readings ++
      (.waiting .done :: ending path start last))))

/-- Nobody sleeps while the lease is asked for. -/
theorem slept_asking (w : Surroundings) : (asking c path w).filterMap Event.slept? = [] := by
  rw [asking, List.filterMap_cons_none rfl, List.filterMap_map]
  exact List.filterMap_eq_nil_iff.mpr fun _ _ => rfl

/-- **The sleeps of a wait** are the pauses of its rounds: an interval, or what is left of the time.
-/
theorem slept_events (w : Surroundings) :
    (events c path timeout interval start readings last w).filterMap Event.slept? =
      readings.map fun reading => pause interval (timeout - (reading - start)) := by
  have hpolling : (polling c path timeout interval start readings).filterMap Event.slept? =
      readings.map fun reading => pause interval (timeout - (reading - start)) := by
    induction readings with
    | nil => rfl
    | cons reading readings ih => exact congrArg (_ :: ·) ih
  have hending : (ending path start last).filterMap Event.slept? = [] := by
    rw [ending, List.filterMap_map]
    exact List.filterMap_eq_nil_iff.mpr fun _ _ => rfl
  rw [events, List.filterMap_cons_none rfl, List.filterMap_append, slept_asking, List.nil_append,
    List.filterMap_cons_none rfl, List.filterMap_append, hpolling, List.filterMap_cons_none rfl,
    hending, List.append_nil]

/-- **Its warnings** are at most two: of the request that failed, and of a file that is still open.
-/
theorem warned_events (w : Surroundings) :
    (events c path timeout interval start readings last w).filterMap Event.warned? =
      (refusals c path w.reply ++
        last.map fun reading => stillOpen path (reading - start)).map ((Source.lease, ·)) := by
  have hwarnings (texts : List String) : (texts.map (Event.warned .lease)).filterMap Event.warned? =
      texts.map ((Source.lease, ·)) := by
    rw [List.filterMap_map]
    exact congrFun List.filterMap_eq_map texts
  have hasking : (asking c path w).filterMap Event.warned? =
      (refusals c path w.reply).map ((Source.lease, ·)) := by
    rw [asking, List.filterMap_cons_none rfl, hwarnings]
  have hpolling :
      (polling c path timeout interval start readings).filterMap Event.warned? = [] := by
    induction readings with
    | nil => rfl
    | cons reading readings ih => exact ih
  have hending : (ending path start last).filterMap Event.warned? =
      (last.map fun reading => stillOpen path (reading - start)).map ((Source.lease, ·)) := by
    rw [← hwarnings, List.map_map]
    rfl
  rw [events, List.filterMap_cons_none rfl, List.filterMap_append, hasking,
    List.filterMap_cons_none rfl, List.filterMap_append, hpolling, List.nil_append,
    List.filterMap_cons_none rfl, hending, List.map_append]

/-- **Its phases** come in their order: what is asked for the lease is asked in the first, the
checks and sleeps are in the second, and the last warning in the third. -/
theorem inPhases_events (w : Surroundings) :
    inPhases .done (events c path timeout interval start readings last w) =
      (asking c path w).map (.requesting, ·) ++
        ((polling c path timeout interval start readings).map (.polling, ·) ++
          (ending path start last).map (.done, ·)) := by
  have hasking : ∀ e ∈ asking c path w, isWithin e = true := by
    intro e he
    rcases List.mem_cons.mp he with rfl | he
    · rfl
    · obtain ⟨text, -, rfl⟩ := List.mem_map.mp he
      rfl
  have hpolling : ∀ e ∈ polling c path timeout interval start readings, isWithin e = true := by
    intro e he
    rcases List.mem_append.mp he with he | he
    · obtain ⟨reading, -, he⟩ := List.mem_flatMap.mp he
      simp only [turning, List.mem_cons, List.not_mem_nil, or_false] at he
      rcases he with rfl | rfl <;> rfl
    · rw [List.mem_singleton.mp he]
      rfl
  have hending : ∀ e ∈ ending path start last, isWithin e = true := by
    intro e he
    obtain ⟨reading, -, rfl⟩ := List.mem_map.mp he
    rfl
  have hend := inPhases_within hending .done []
  rw [List.append_nil] at hend
  rw [events, inPhases, inPhases_within hasking, inPhases, inPhases_within hpolling, inPhases, hend,
    inPhases, List.append_nil]

/-- **The account of a wait** that comes to an outcome, with the readings of the clock between its
checks, and those after the last one. -/
structure Account (c : Client) (path : String) (timeout interval start : Float)
    (readings last : List Float) (outcome : Outcome) (w w' : Surroundings) : Prop where
  /-- The one question is put over and over: for the lease, and to check. As many checks as there
  are readings find the file open, and one more check decides. -/
  answers : ∃ replies final,
    w.exchanges w' =
        (w.reply :: (replies ++ [final])).map (fun reply => ⟨question c path, reply⟩) ∧
      replies.length = readings.length ∧
      (∀ reply ∈ replies, reply.Gives Client.closedIn false) ∧
      Decided timeout start last final outcome
  /-- What the request for the lease failed with, if it did, is a failure of the shell's own. -/
  admitted : Admitted c w.reply
  /-- No reading but the last finds the time up. -/
  early : ∀ reading ∈ readings, ¬ timeout ≤ reading - start
  /-- Nothing but the events of the wait is in the log, in this order, -/
  log : w'.log = w.log ++ events c path timeout interval start readings last w
  /-- of which these are the sleeps, -/
  sleeps : (w'.log.drop w.log.length).filterMap Event.slept? =
    readings.map fun reading => pause interval (timeout - (reading - start))
  /-- these the warnings, -/
  warnings : (w'.log.drop w.log.length).filterMap Event.warned? =
    (refusals c path w.reply ++ last.map fun reading => stillOpen path (reading - start)).map
      ((Source.lease, ·))
  /-- and these the phases they fall in. -/
  phases : inPhases .done (w'.log.drop w.log.length) =
    (asking c path w).map (.requesting, ·) ++
      ((polling c path timeout interval start readings).map (.polling, ·) ++
        (ending path start last).map (.done, ·))

/-- The account of a course is put together from what its three parts leave. -/
theorem Course.account
    (h : Course (watchBy c path read) timeout interval start readings last outcome w w') :
    Account c path timeout interval start readings last outcome w w' := by
  -- what was asked, slept and warned of is read off the one list of events
  obtain ⟨hopens, hrounds, hends⟩ := h
  obtain ⟨hadmitted, hasked, hasking⟩ := opens_leaves hopens
  obtain ⟨hearly, hpolled, replies, hlength, hreplies, hchecks⟩ := rounds_leave hrounds
  obtain ⟨hdecided, hended, hlast⟩ := ends_leave hends
  have hlog : w'.log = w.log ++ events c path timeout interval start readings last w := by
    rw [hended, hpolled, hasked, events, polling]
    simp only [List.append_assoc, List.cons_append, List.nil_append]
  have hdrop : w'.log.drop w.log.length =
      events c path timeout interval start readings last w := by
    rw [hlog, List.drop_left]
  constructor
  case answers =>
    refine ⟨replies, _, ?_, hlength, hreplies, hdecided⟩
    rw [((hasking.trans hchecks).trans hlast).exchanges_eq]
    simp only [List.map_cons, List.map_append, List.map_nil, List.cons_append, List.nil_append]
  case admitted => exact hadmitted
  case early => exact hearly
  case log => exact hlog
  case sleeps => rw [hdrop, slept_events]
  case warnings => rw [hdrop, warned_events]
  case phases => rw [hdrop, inPhases_events]

/-- The request for the lease breaks a wait off with none of the shell's own failures. -/
theorem not_isOwn_of_refused {f : Failure} (h : Refused (watchBy c path read) f w w') :
    f.isOwn = false := by
  obtain ⟨-, hrequest⟩ := h
  rw [after_request] at hrequest
  split at hrequest
  next => cases hrequest
  next f' _ =>
    split at hrequest
    next => cases hrequest
    next hown =>
      cases hrequest
      exact Bool.eq_false_iff.mpr hown

/-! ## Enough checks -/

/-- A round takes up an answer of the service. -/
theorem round_takes {reading : Float}
    (h : Round (watchBy c path read) timeout interval start reading w w') :
    w.service.length = w'.service.length + 1 := by
  obtain ⟨⟨r, hreply, -⟩, -, -, hpassed⟩ := round_leaves h
  have hservice := hpassed.service
  cases hanswers : w.service with
  | nil =>
    rw [Surroundings.reply, hanswers] at hreply
    cases hreply
  | cons answer rest =>
    rw [hanswers] at hservice
    rw [hservice]
    rfl

/-- So rounds take up as many answers as they are. -/
theorem rounds_take (h : Rounds (watchBy c path read) timeout interval start readings w w') :
    w.service.length = w'.service.length + readings.length := by
  induction h with
  | nil => rfl
  | cons round rest ih =>
    rw [round_takes round, ih, List.length_cons]
    omega

/-- **One check more than the service has answers is enough.** -/
theorem wait_enough (c : Client) (path : String) (read : Surroundings → Float × Clock)
    (timeout interval : Float) (w : Surroundings) :
    ∃ result w', ComesTo (watchBy c path read) timeout interval w result w' ∧
      after (wait (watchBy c path read) timeout interval (w.service.length + 1)) w =
        (result.map some, w') := by
  have hsteady := steady_watchBy c path read
  rcases wait_cases hsteady timeout interval (w.service.length + 1) w with
    ⟨f, w', hrefused⟩ | ⟨start, readings, w₁, w₂, hused, hopens, hrounds⟩ |
      ⟨start, readings, last, outcome, w', hlength, hcourse⟩ |
      ⟨start, readings, f, w', hlength, hbreaks⟩
  · exact ⟨.error f, w', (comesTo_error_iff hsteady).mpr (.inl hrefused),
      hrefused.wait timeout interval _⟩
  · -- every round took up an answer, and so there were not as many
    have hservice := (opens_leaves hopens).2.2.service
    have htaken := rounds_take hrounds
    rw [hservice, List.length_drop] at htaken
    omega
  · exact ⟨.ok outcome, w', (comesTo_ok_iff hsteady).mpr ⟨start, readings, last, hcourse⟩,
      hcourse.wait hlength⟩
  · exact ⟨.error f, w', (comesTo_error_iff hsteady).mpr (.inr ⟨start, readings, hbreaks⟩),
      hbreaks.wait hlength⟩

/-- The watch of the shell goes by the clock there is. -/
theorem watchBy_clock (c : Client) (path : String) :
    watchBy c path (fun w => (w.clock.now, w.clock)) = watch c path := rfl

/-- **The shell computes what a wait comes to.** -/
theorem outcome_await (patience : Patience) (result : Except Failure Outcome)
    (w w' : Surroundings) :
    Shell.outcome (await c patience path) w = (result, w') ↔
      ComesTo (watch c path) patience.timeout patience.interval w result w' := by
  obtain ⟨result', w'', hcomes, hwait⟩ :=
    wait_enough c path (fun w => (w.clock.now, w.clock)) patience.timeout patience.interval w
  rw [watchBy_clock] at hcomes hwait
  have hawait : Shell.outcome (await c patience path) w = (result', w'') := by
    unfold await
    rw [outcome_bind_of_ok (outcome_get w), outcome_bind]
    have hwait : Shell.outcome (wait (watch c path) patience.timeout patience.interval
        (w.service.length + 1)) w = (result'.map some, w'') := hwait
    rw [hwait]
    cases result' <;> rfl
  rw [hawait]
  constructor
  · rintro ⟨⟩
    exact hcomes
  · intro hcomes'
    obtain ⟨rfl, rfl⟩ := hcomes.unique hcomes'
    rfl

/-- **What a wait comes to, exactly**, by any clock: an outcome just when this is its course, of
which the account is given; and a failure just when the request for the lease fails, in none of the
shell's own ways, or a check fails after some rounds. What the shell computes is what a wait by its
own clock comes to. -/
theorem wait_exact (c : Client) (path : String) (read : Surroundings → Float × Clock)
    (timeout interval : Float) (w : Surroundings) :
    (∀ outcome w', ComesTo (watchBy c path read) timeout interval w (.ok outcome) w' ↔
        ∃ start readings last,
          Course (watchBy c path read) timeout interval start readings last outcome w w' ∧
          Account c path timeout interval start readings last outcome w w') ∧
      (∀ f w', ComesTo (watchBy c path read) timeout interval w (.error f) w' ↔
        (f.isOwn = false ∧ Refused (watchBy c path read) f w w') ∨
          ∃ start readings,
            Breaks (watchBy c path read) timeout interval start readings f w w') ∧
      ∀ patience result w', Shell.outcome (await c patience path) w = (result, w') ↔
        ComesTo (watchBy c path fun w => (w.clock.now, w.clock)) patience.timeout
          patience.interval w result w' := by
  have hsteady := steady_watchBy c path read
  refine ⟨?_, ?_, fun patience result w' => outcome_await patience result w w'⟩
  · intro outcome w'
    rw [comesTo_ok_iff hsteady]
    constructor
    · rintro ⟨start, readings, last, hcourse⟩
      exact ⟨start, readings, last, hcourse, hcourse.account⟩
    · rintro ⟨start, readings, last, hcourse, -⟩
      exact ⟨start, readings, last, hcourse⟩
  · intro f w'
    rw [comesTo_error_iff hsteady]
    constructor
    · rintro (hrefused | hbreaks)
      · exact .inl ⟨not_isOwn_of_refused hrefused, hrefused⟩
      · exact .inr hbreaks
    · rintro (⟨-, hrefused⟩ | hbreaks)
      · exact .inl hrefused
      · exact .inr hbreaks

end Lease

end NamenodeShell
