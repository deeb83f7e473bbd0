import NamenodeShell.Proofs.Lease.Account
import NamenodeShell.Proofs.Refusals

/-!
# The request for the lease

What hangs on the reply to the request for the lease that a wait begins with. There are two kinds of
harmless replies (`Reply.IsHarmless`): refusals that explain themselves, which are noted and no
more, and those that show the blocks of the file, whatever they say of them. After a harmless reply,
and after no other, a wait goes on to the closing checks (`goesOn_iff`).

Which harmless reply it was makes no difference behind it. Two waits are put side by side, and their
surroundings are *alike* when the same answers and the same time are ahead of them, and the same has
been done since their requests. Every part of a polling keeps in step on surroundings that are alike
(`keepsStep_watchApart`), so the whole of it does, by induction on the checks (`KeepsStep.poll`);
and two harmless replies lead to surroundings that are alike (`opens_of_admitted`). With both,
`recovery_harmless` says that two waits come to the same. After any other reply the wait breaks off
(`recovery_breaks_off`): nothing that is wrong with an accepted answer is a failure of the shell's
own.
-/
set_option autoImplicit false

namespace NamenodeShell

open Shell

/-! ## Harmless replies -/

namespace Reply

/-- **A reply that shows the blocks of a file**: an accepted object whose `LocatedBlocks` count for
nothing or are an object. -/
def ShowsBlocks (reply : Reply) : Prop :=
  ∃ r members, reply = .response r ∧ r.isRefusal = false ∧ r.json = .ok (.object members) ∧
    ∀ v, members.lookup "LocatedBlocks" = some v → v.truthy = true → ∃ blocks, v = .object blocks

/-- **A reply that does a wait no harm**, when it comes to the request for the lease. -/
def IsHarmless (reply : Reply) : Prop :=
  reply.Explains ∨ reply.ShowsBlocks

end Reply

namespace Client

/-- What is wrong with the body of an accepted answer is none of the shell's own failures. -/
theorem isOwn_of_bodyIn {r : Response} {f : Failure} (h : bodyIn r = .error f) :
    f.isOwn = false := by
  unfold bodyIn at h
  cases hjson : r.json with
  | ok body => rw [hjson] at h; cases h
  | error why =>
    rw [hjson] at h
    cases h
    exact Failure.isOwn_unreadable why

/-- A member is only asked for where there are members. -/
theorem isOwn_of_get {name : String} {v : Json} {f : Failure} (h : v.get name = .error f) :
    f.isOwn = false := by
  cases v <;> cases h <;> rfl

/-- What is wrong with the blocks is not one of them either, -/
theorem isOwn_of_closedStatus {body : Json} {f : Failure} (h : closedStatus body = .error f) :
    f.isOwn = false := by
  unfold closedStatus at h
  simp only [bind, Except.bind] at h
  split at h
  next e hget =>
    cases h
    exact isOwn_of_get hget
  next member hget =>
    split at h
    next => cases h
    next blocks hblocks =>
      split at h
      next e hget =>
        cases h
        exact isOwn_of_get hget
      next => cases h

/-- so nothing that is wrong with an accepted answer to the look at the blocks is. -/
theorem isOwn_of_closedIn {r : Response} {f : Failure} (h : closedIn r = .error f) :
    f.isOwn = false := by
  unfold closedIn at h
  cases hbody : bodyIn r with
  | error e =>
    rw [hbody] at h
    cases h
    exact isOwn_of_bodyIn hbody
  | ok body =>
    rw [hbody] at h
    exact isOwn_of_closedStatus h

/-- A body says whether a file is closed when it is an object, and what it says of the blocks is
nothing or an object. -/
theorem closedStatus_isOk {body : Json} :
    (∃ b, closedStatus body = .ok b) ↔ ∃ members, body = .object members ∧
      ∀ v, members.lookup "LocatedBlocks" = some v → v.truthy = true →
        ∃ blocks, v = .object blocks := by
  constructor
  · rintro ⟨b, h⟩
    cases body with
    | object members =>
      refine ⟨members, rfl, fun v hv htruthy => ?_⟩
      have hmember : (members.lookup "LocatedBlocks").filter Json.truthy = some v := by
        rw [hv, Option.filter_some, if_pos htruthy]
      cases v with
      | object blocks => exact ⟨blocks, rfl⟩
      | _ =>
        simp only [closedStatus, Json.get, bind, Except.bind, hmember] at h
        cases h
    | _ => cases h
  · rintro ⟨members, rfl, hblocks⟩
    simp only [closedStatus, Json.get, bind, Except.bind]
    cases hmember : (members.lookup "LocatedBlocks").filter Json.truthy with
    | none => exact ⟨true, rfl⟩
    | some v =>
      obtain ⟨hv, htruthy⟩ := Option.filter_eq_some_iff.mp hmember
      obtain ⟨blocks, rfl⟩ := hblocks v hv htruthy
      exact ⟨_, rfl⟩

/-- The replies that say whether a file is closed are those that show its blocks. -/
theorem gives_closedIn_iff {reply : Reply} :
    (∃ b, reply.Gives closedIn b) ↔ reply.ShowsBlocks := by
  constructor
  · rintro ⟨b, r, hreply, hr, hlook⟩
    unfold closedIn bodyIn at hlook
    cases hjson : r.json with
    | error why => rw [hjson] at hlook; cases hlook
    | ok body =>
      rw [hjson] at hlook
      obtain ⟨members, rfl, hblocks⟩ := closedStatus_isOk.mp ⟨b, hlook⟩
      exact ⟨r, members, hreply, hr, hjson, hblocks⟩
  · rintro ⟨r, members, hreply, hr, hjson, hblocks⟩
    obtain ⟨b, hclosed⟩ := closedStatus_isOk.mpr ⟨members, rfl, hblocks⟩
    refine ⟨b, r, hreply, hr, ?_⟩
    unfold closedIn bodyIn
    rw [hjson]
    exact hclosed

end Client

namespace Lease

/-- **The replies that do not break a wait off are the harmless ones.** -/
theorem admitted_iff {c : Client} {reply : Reply} : Admitted c reply ↔ reply.IsHarmless := by
  cases hheard : c.heard Client.closedIn reply with
  | ok b =>
    refine iff_of_true (fun f hf => (nomatch hheard.symm.trans hf)) (.inr ?_)
    exact Client.gives_closedIn_iff.mp ⟨b, Client.heard_eq_ok.mp hheard⟩
  | error f =>
    have hown : f.isOwn = true ↔ reply.Explains :=
      Client.isOwn_of_heard (fun _ _ => Client.isOwn_of_closedIn) hheard
    constructor
    · intro hadmitted
      exact .inl (hown.mp (hadmitted f hheard))
    · rintro (hexplains | hblocks) f' hf'
      -- a reply is heard in one way, so the failure is the one that was admitted
      · obtain rfl : f = f' := Except.error.inj (hheard.symm.trans hf')
        exact hown.mpr hexplains
      · obtain ⟨b, hgives⟩ := Client.gives_closedIn_iff.mpr hblocks
        cases hheard.symm.trans (Client.heard_eq_ok.mpr hgives)

/-! ## Two runs in step -/

section

variable {σ ε τ α β : Type} {R : σ → σ → Prop}

/-- **A computation keeps in step** when from states that are alike it ends in the same way, and in
states that are alike. -/
def InStep (R : σ → σ → Prop) (act : ExceptT ε (StateM σ) α) : Prop :=
  ∀ s t, R s t → (after act s).1 = (after act t).1 ∧ R (after act s).2 (after act t).2

/-- A value is the same on both sides. -/
theorem inStep_pure (a : α) : InStep R (pure a : ExceptT ε (StateM σ) α) :=
  fun _ _ h => ⟨rfl, h⟩

/-- The parts keep in step one after the other. -/
theorem InStep.bind {act : ExceptT ε (StateM σ) α} {next : α → ExceptT ε (StateM σ) β}
    (h : InStep R act) (hnext : ∀ a, InStep R (next a)) : InStep R (act >>= next) := by
  intro s t hst
  obtain ⟨hresult, hstates⟩ := h s t hst
  cases hs : after act s with
  | mk result s' =>
    cases ht : after act t with
    | mk result' t' =>
      rw [hs, ht] at hresult hstates
      cases hresult
      cases result with
      | error e =>
        rw [after_bind_of_error hs, after_bind_of_error ht]
        exact ⟨rfl, hstates⟩
      | ok a =>
        rw [after_bind_of_ok hs, after_bind_of_ok ht]
        exact hnext a s' t' hstates

variable [Sub τ] [LE τ] [LT τ] [DecidableLE τ] [DecidableLT τ]
  {watch : Watch (ExceptT ε (StateM σ)) τ}

/-- **A watch keeps in step** in all that it does while polling. -/
structure KeepsStep (R : σ → σ → Prop) (watch : Watch (ExceptT ε (StateM σ)) τ) : Prop where
  enter : ∀ phase, InStep R (watch.enter phase)
  isClosed : InStep R watch.isClosed
  now : InStep R watch.now
  sleep : ∀ seconds, InStep R (watch.sleep seconds)
  giveUp : ∀ elapsed, InStep R (watch.giveUp elapsed)

/-- **Polling keeps in step** when the watch does, by induction on the checks. -/
theorem KeepsStep.poll (h : KeepsStep R watch) (timeout interval start : τ) (checks : Nat) :
    InStep R (Lease.poll watch timeout interval start checks) := by
  induction checks with
  | zero => exact inStep_pure none
  | succ checks ih =>
    refine h.isClosed.bind fun closed => ?_
    cases closed with
    | true => exact (h.enter .done).bind fun _ => inStep_pure _
    | false =>
      refine h.now.bind fun reading => ?_
      simp only
      split
      next => exact (h.enter .done).bind fun _ => (h.giveUp _).bind fun _ => inStep_pure _
      next => exact (h.sleep _).bind fun _ => ih

end

/-! ## Surroundings that are alike -/

/-- **Surroundings are alike** when the same answers and the same time are ahead of them, and the
same has been done behind two beginnings of their logs. -/
structure Alike (front front' : List Event) (w v : Surroundings) : Prop where
  service : w.service = v.service
  clock : w.clock = v.clock
  log : ∃ events, w.log = front ++ events ∧ v.log = front' ++ events

namespace Alike

variable {front front' : List Event} {w v : Surroundings}

/-- The next reply is the same. -/
theorem reply (h : Alike front front' w v) : w.reply = v.reply := by
  rw [Surroundings.reply, Surroundings.reply, h.service]

/-- Surroundings stay alike when the same is written to both logs. -/
theorem note (h : Alike front front' w v) (e : Event) {clock clock' : Clock}
    (hclock : clock = clock') :
    Alike front front' { w with log := w.log ++ [e], clock := clock }
      { v with log := v.log ++ [e], clock := clock' } := by
  obtain ⟨events, hw, hv⟩ := h.log
  refine ⟨h.service, hclock, events ++ [e], ?_, ?_⟩
  · rw [hw, List.append_assoc]
  · rw [hv, List.append_assoc]

/-- Surroundings stay alike when the same question is asked in both: the answer to it is the same,
and so is the time it takes. -/
theorem exchanged (h : Alike front front' w v) (c : Client) (path : String) :
    Alike front front' (w.exchanged (question c path)) (v.exchanged (question c path)) := by
  obtain ⟨events, hw, hv⟩ := h.log
  have hanswered : w.isAnswered = v.isAnswered := by
    rw [Surroundings.isAnswered, Surroundings.isAnswered, h.reply]
  refine ⟨congrArg List.tail h.service, ?_,
    events ++ [.sent (question c path) w.isAnswered], ?_, ?_⟩
  · simp only [Surroundings.exchanged, h.clock]
  · rw [question, w.log_exchanged, hw, List.append_assoc]
  · rw [question, v.log_exchanged, hv, hanswered, List.append_assoc]

end Alike

/-- **A clock apart from the disk and the log**: what is read, and what becomes of the clock, hangs
on the answers that are left and on the clock itself. -/
def watchApart (c : Client) (path : String) (read : List Answer → Clock → Float × Clock) :
    Watch Shell Float :=
  watchBy c path fun w => read w.service w.clock

variable {c : Client} {path : String} {read : List Answer → Clock → Float × Clock}
  {timeout interval : Float}

/-- **The watch of the shell keeps in step** on surroundings that are alike. -/
theorem keepsStep_watchApart (c : Client) (path : String)
    (read : List Answer → Clock → Float × Clock) (front front' : List Event) :
    KeepsStep (Alike front front') (watchApart c path read) where
  enter phase w v h := by
    unfold watchApart
    rw [after_enter, after_enter]
    exact ⟨rfl, h.note (.waiting phase) h.clock⟩
  isClosed w v h := by
    unfold watchApart
    rw [after_isClosed, after_isClosed, h.reply]
    exact ⟨rfl, h.exchanged c path⟩
  now w v h := by
    have hread : read w.service w.clock = read v.service v.clock := by
      rw [h.service, h.clock]
    unfold watchApart
    rw [after_now, after_now]
    exact ⟨congrArg (Except.ok ·.1) hread, h.service, congrArg Prod.snd hread, h.log⟩
  sleep seconds w v h := by
    unfold watchApart
    rw [after_sleep, after_sleep]
    exact ⟨rfl, h.note (.slept seconds) (by rw [h.clock])⟩
  giveUp elapsed w v h := by
    unfold watchApart
    rw [after_giveUp, after_giveUp]
    exact ⟨rfl, h.note (.warned .lease (stillOpen path elapsed)) h.clock⟩

/-! ## What the request leads to -/

variable {w w' v v' : Surroundings} {f : Failure}

/-- What a wait writes to the log until it polls. -/
def opening (c : Client) (path : String) (w : Surroundings) : List Event :=
  .waiting .requesting :: (asking c path w ++ [.waiting .polling])

/-- Until it polls nobody has slept, -/
theorem slept_opening (w : Surroundings) : (opening c path w).filterMap Event.slept? = [] := by
  rw [opening, List.filterMap_cons_none rfl, List.filterMap_append, slept_asking]
  rfl

/-- and one question has been asked. -/
theorem request_opening (w : Surroundings) :
    (opening c path w).filterMap Event.request? = [question c path] := by
  have hwarned (texts : List String) :
      (texts.map (Event.warned .lease)).filterMap Event.request? = [] := by
    rw [List.filterMap_map]
    exact List.filterMap_eq_nil_iff.mpr fun _ _ => rfl
  have hasking : (asking c path w).filterMap Event.request? = [question c path] :=
    congrArg (question c path :: ·) (hwarned _)
  rw [opening, List.filterMap_cons_none rfl, List.filterMap_append, hasking]
  rfl

/-- The clock when the reply to the request has come. -/
def asked (w : Surroundings) : Clock :=
  { w.clock with now := w.clock.now + w.clock.latency }

/-- After a harmless reply the request is over, whatever the reply was, at the same time and with
the same answers left. -/
theorem request_of_admitted {read : Surroundings → Float × Clock} (h : Admitted c w.reply) :
    ∃ w', after (watchBy c path read).request w = (.ok (), w') ∧
      w'.service = w.service.tail ∧ w'.clock = asked w := by
  rw [after_request]
  cases hheard : c.heard Client.closedIn w.reply with
  | ok b => exact ⟨_, rfl, rfl, rfl⟩
  | error f =>
    simp only [h f hheard, if_true]
    exact ⟨_, rfl, rfl, rfl⟩

/-- After any other the failure gets out, and nothing is noted. -/
theorem request_of_not_admitted {read : Surroundings → Float × Clock}
    (h : after (watchBy c path read).request w = (.error f, w')) :
    ¬ Admitted c w.reply ∧ w' = w.exchanged (question c path) := by
  rw [after_request] at h
  cases hheard : c.heard Client.closedIn w.reply with
  | ok b =>
    rw [hheard] at h
    cases h
  | error f' =>
    simp only [hheard] at h
    split at h
    next => cases h
    next hown =>
      cases h
      exact ⟨fun hadmitted => hown (hadmitted f hheard), rfl⟩

/-- **After a harmless reply a wait opens**, at a time that does not hang on the reply. -/
theorem opens_of_admitted (c : Client) (path : String)
    (read : List Answer → Clock → Float × Clock) (h : Admitted c w.reply) :
    ∃ w', Opens (watchApart c path read) (read w.service.tail (asked w)).1 w w' ∧
      w'.service = w.service.tail ∧ w'.clock = (read w.service.tail (asked w)).2 ∧
      w'.log = w.log ++ opening c path w := by
  have hasking : ∃ w', after (watchApart c path read).request
        { w with log := w.log ++ [.waiting .requesting] } = (.ok (), w') ∧
      w'.service = w.service.tail ∧ w'.clock = asked w := request_of_admitted h
  obtain ⟨w', hrequest, hservice, hclock⟩ := hasking
  have hopens : Opens (watchApart c path read) (read w'.service w'.clock).1 w
      { w' with log := w'.log ++ [.waiting .polling], clock := (read w'.service w'.clock).2 } :=
    .mk (after_enter .requesting w) hrequest (after_enter .polling w') (after_now _)
  have hread : read w'.service w'.clock = read w.service.tail (asked w) := by
    rw [hservice, hclock]
  rw [← hread]
  exact ⟨_, hopens, hservice, rfl, (opens_leaves hopens).2.1⟩

/-- **A wait is refused only by replies that are not harmless**, and then asks nothing more. -/
theorem refused_leaves {read : Surroundings → Float × Clock}
    (h : Refused (watchBy c path read) f w w') :
    ¬ Admitted c w.reply ∧ w.exchanges w' = [⟨question c path, w.reply⟩] := by
  obtain ⟨hrequesting, hrequest⟩ := h
  cases hrequesting
  obtain ⟨hadmitted, rfl⟩ := request_of_not_admitted hrequest
  refine ⟨hadmitted, ?_⟩
  exact ((Surroundings.Passed.of_log rfl w).trans
    (Surroundings.passed_operation _ c .blockLocations path [])).exchanges_eq

/-- What a wait has asked that breaks off at a check: for the lease, and of all checks. -/
theorem breaks_leaves {read : Surroundings → Float × Clock} {start : Float}
    {readings : List Float}
    (h : Breaks (watchBy c path read) timeout interval start readings f w w') :
    ∃ replies final, w.exchanges w' =
      (w.reply :: (replies ++ [final])).map fun reply => ⟨question c path, reply⟩ := by
  obtain @⟨_, w₁, _, hopens, hrounds, hfailed⟩ := h
  obtain ⟨-, -, hasking⟩ := opens_leaves hopens
  obtain ⟨-, -, replies, -, -, hchecks⟩ := rounds_leave hrounds
  obtain ⟨-, rfl⟩ := Prod.mk.inj ((after_isClosed _).symm.trans hfailed)
  have hlast : w₁.Passed (w₁.exchanged (question c path)) [⟨question c path, w₁.reply⟩] :=
    w₁.passed_operation c .blockLocations path []
  refine ⟨replies, w₁.reply, ?_⟩
  rw [((hasking.trans hchecks).trans hlast).exchanges_eq]
  simp only [List.map_cons, List.map_append, List.map_nil, List.cons_append, List.nil_append]

/-- **A wait goes on to the closing checks**: what it comes to, it has asked more than for the
lease. -/
def GoesOn (watch : Watch Shell Float) (timeout interval : Float) (w : Surroundings) : Prop :=
  ∃ result w', ComesTo watch timeout interval w result w' ∧ 1 < (w.exchanges w').length

/-- **A wait goes on to the closing checks after harmless replies**, and after no others. -/
theorem goesOn_iff {read : Surroundings → Float × Clock} :
    GoesOn (watchBy c path read) timeout interval w ↔ w.reply.IsHarmless := by
  have hsteady := steady_watchBy c path read
  rw [← admitted_iff (c := c)]
  constructor
  · rintro ⟨result, w', hcomes, hmore⟩
    rcases opens_or_refused hsteady w with ⟨start, w₁, hopens⟩ | ⟨f, w₁, hrefused⟩
    · exact (opens_leaves hopens).1
    · have hfailed : ComesTo (watchBy c path read) timeout interval w (.error f) w₁ :=
        (comesTo_error_iff hsteady).mpr (.inl hrefused)
      obtain ⟨-, rfl⟩ := hcomes.unique hfailed
      -- a wait that is refused has asked once and no more
      rw [(refused_leaves hrefused).2] at hmore
      exact absurd hmore (Nat.lt_irrefl 1)
  · intro hadmitted
    obtain ⟨result, w', hcomes, -⟩ := wait_enough c path read timeout interval w
    refine ⟨result, w', hcomes, ?_⟩
    have hasked : ∃ replies final, w.exchanges w' =
        (w.reply :: (replies ++ [final])).map fun reply => ⟨question c path, reply⟩ := by
      rcases hcomes.reason hsteady with ⟨f, -, hrefused⟩ |
        ⟨outcome, start, readings, last, -, hcourse⟩ | ⟨f, start, readings, -, hbreaks⟩
      -- a wait ends or breaks off at a check, and then it has asked at least twice
      · exact absurd hadmitted (refused_leaves hrefused).1
      · obtain ⟨replies, final, hexchanges, -⟩ := hcourse.account.answers
        exact ⟨replies, final, hexchanges⟩
      · exact breaks_leaves hbreaks
    obtain ⟨replies, final, hexchanges⟩ := hasked
    rw [hexchanges, List.length_map, List.length_cons, List.length_append, List.length_singleton]
    omega

/-! ## Two waits side by side -/

/-- **Surroundings differ harmlessly** when the replies to the request for the lease are harmless in
both, and the later answers and the clock are the same. -/
structure DifferHarmlessly (w v : Surroundings) : Prop where
  left : w.reply.IsHarmless
  right : v.reply.IsHarmless
  later : w.service.tail = v.service.tail
  clock : w.clock = v.clock

/-- **Two waits are the same behind their requests**: so are all later exchanges, the sleeps, and
the clock at the end. -/
structure SameBehind (c : Client) (path : String) (w v w' v' : Surroundings) : Prop where
  exchanges : ∃ later, w.exchanges w' = ⟨question c path, w.reply⟩ :: later ∧
    v.exchanges v' = ⟨question c path, v.reply⟩ :: later
  sleeps : (w'.log.drop w.log.length).filterMap Event.slept? =
    (v'.log.drop v.log.length).filterMap Event.slept?
  clock : w'.clock = v'.clock

/-- What is exchanged behind the request for the lease. -/
theorem exchanges_of_log {events : List Event}
    (h : w'.log = w.log ++ opening c path w ++ events) :
    w.exchanges w' = ⟨question c path, w.reply⟩ ::
      paired (events.filterMap Event.request?) w.service.tail := by
  unfold Surroundings.exchanges
  rw [h, List.append_assoc, List.drop_left, List.filterMap_append, request_opening,
    List.singleton_append, paired]
  rfl

/-- Nor has anybody slept in front of it. -/
theorem slept_of_log {events : List Event} (h : w'.log = w.log ++ opening c path w ++ events) :
    (w'.log.drop w.log.length).filterMap Event.slept? = events.filterMap Event.slept? := by
  rw [h, List.append_assoc, List.drop_left, List.filterMap_append, slept_opening, List.nil_append]

/-- Surroundings that are alike behind two openings. -/
theorem Alike.sameBehind
    (h : Alike (w.log ++ opening c path w) (v.log ++ opening c path v) w' v')
    (hlater : w.service.tail = v.service.tail) : SameBehind c path w v w' v' := by
  obtain ⟨events, hw, hv⟩ := h.log
  constructor
  case exchanges =>
    exact ⟨_, exchanges_of_log hw, by rw [exchanges_of_log hv, hlater]⟩
  case sleeps => rw [slept_of_log hw, slept_of_log hv]
  case clock => exact h.clock

/-- After harmless replies two waits open at one time, and are alike from then on. -/
theorem DifferHarmlessly.opens (h : DifferHarmlessly w v) (c : Client) (path : String)
    (read : List Answer → Clock → Float × Clock) :
    ∃ start w₁ v₁, Opens (watchApart c path read) start w w₁ ∧
      Opens (watchApart c path read) start v v₁ ∧
      Alike (w.log ++ opening c path w) (v.log ++ opening c path v) w₁ v₁ := by
  obtain ⟨w₁, hopens, hservice, hclock, hlog⟩ :=
    opens_of_admitted c path read (admitted_iff.mpr h.left)
  obtain ⟨v₁, hopens', hservice', hclock', hlog'⟩ :=
    opens_of_admitted c path read (admitted_iff.mpr h.right)
  have hasked : asked w = asked v := by
    rw [asked, asked, h.clock]
  rw [← h.later, ← hasked] at hopens' hclock'
  refine ⟨_, w₁, v₁, hopens, hopens', ?_, hclock.trans hclock'.symm, [], ?_, ?_⟩
  · rw [hservice, hservice', h.later]
  · rw [hlog, List.append_nil]
  · rw [hlog', List.append_nil]

/-- **What a wait comes to does not hang on which harmless reply it was.** -/
theorem DifferHarmlessly.sameBehind (h : DifferHarmlessly w v) (c : Client) (path : String)
    (read : List Answer → Clock → Float × Clock) (timeout interval : Float) :
    ∃ result w' v', ComesTo (watchApart c path read) timeout interval w result w' ∧
      ComesTo (watchApart c path read) timeout interval v result v' ∧
      SameBehind c path w v w' v' := by
  obtain ⟨start, w₁, v₁, hopens, hopens', halike⟩ := h.opens c path read
  obtain ⟨result, w', hcomes, -⟩ :=
    wait_enough c path (fun w => read w.service w.clock) timeout interval w
  obtain ⟨result', v', hcomes', -⟩ :=
    wait_enough c path (fun w => read w.service w.clock) timeout interval v
  obtain ⟨enough, hwait⟩ := id hcomes
  obtain ⟨enough', hwait'⟩ := id hcomes'
  -- both waits are looked at with as many checks as are enough for either
  let checks := max enough enough'
  have hw : after (wait (watchApart c path read) timeout interval checks) w =
      (result.map some, w') := hwait checks (Nat.le_max_left enough enough')
  have hv : after (wait (watchApart c path read) timeout interval checks) v =
      (result'.map some, v') := hwait' checks (Nat.le_max_right enough enough')
  have hpoll := (keepsStep_watchApart c path read _ _).poll timeout interval start checks
    w₁ v₁ halike
  rw [← hopens.wait, ← hopens'.wait, hw, hv] at hpoll
  obtain ⟨hresult, halike'⟩ := hpoll
  obtain ⟨rfl, -⟩ := eq_of_map_some (congrArg (·, w') hresult)
  exact ⟨result, w', v', hcomes, hcomes', halike'.sameBehind h.later⟩

/-- **The reply to the request for the lease does a wait no harm, if it is harmless.** After such a
reply, and no other, a wait goes on to the closing checks; and what it comes to, its sleeps and all
it asks from then on are the same after any two of them. This is so by every clock, and of what the
shell computes by its own. -/
theorem recovery_harmless (c : Client) (path : String)
    (read : List Answer → Clock → Float × Clock) (timeout interval : Float) :
    (∀ w, GoesOn (watchApart c path read) timeout interval w ↔ w.reply.IsHarmless) ∧
      (∀ w v, DifferHarmlessly w v →
        ∃ result w' v', ComesTo (watchApart c path read) timeout interval w result w' ∧
          ComesTo (watchApart c path read) timeout interval v result v' ∧
          SameBehind c path w v w' v') ∧
      ∀ patience w v, DifferHarmlessly w v →
        ∃ result w' v', Shell.outcome (await c patience path) w = (result, w') ∧
          Shell.outcome (await c patience path) v = (result, v') ∧
          SameBehind c path w v w' v' := by
  refine ⟨fun w => goesOn_iff, fun w v hdiffer => hdiffer.sameBehind c path read _ _, ?_⟩
  intro patience w v hdiffer
  obtain ⟨result, w', v', hw, hv, hsame⟩ := hdiffer.sameBehind c path
    (fun _ clock => (clock.now, clock)) patience.timeout patience.interval
  exact ⟨result, w', v', (outcome_await patience result w w').mpr hw,
    (outcome_await patience result v v').mpr hv, hsame⟩

/-! ## Samples -/

/-- Surroundings in which the request for the lease gets a reply, and then the file is closed. -/
def sampleWait (reply : Reply) : Surroundings where
  service := [⟨reply, none⟩, ⟨.response
    { status := 200, headers := [], body := .whole (Bytes.ofText "\x7b\x7d") }, none⟩]
  disk := { tree := [] }

/-- An accepted answer with a body. -/
def accepted (body : String) : Reply :=
  .response { status := 200, headers := [], body := .whole (Bytes.ofText body) }

/-- An answer that says the file is still open. -/
def stillHeld : Reply :=
  accepted "\x7b\"LocatedBlocks\":\x7b\"isUnderConstruction\":true\x7d\x7d"

/-- A client of the service. -/
def sampleClient : Client :=
  { host := "nn", port := 9870, user := "alice" }

/-- A reply in which something is seen to be heard is harmless. -/
theorem isHarmless_of_seen {reply : Reply} {b : Bool}
    (h : (sampleClient.heard Client.closedIn reply).toOption = some b) : reply.IsHarmless :=
  .inr (Client.gives_closedIn_iff.mp ⟨b, Client.heard_eq_ok.mp (eq_ok_of_toOption h)⟩)

/-- After a harmless reply the file is found closed. -/
theorem await_sampleWait (reply : Reply) (h : reply.IsHarmless) (patience : Patience) :
    ∃ w', Shell.outcome (await sampleClient patience "/f") (sampleWait reply) =
      (.ok .closed, w') := by
  have hadmitted : Admitted sampleClient (sampleWait reply).reply := admitted_iff.mpr h
  obtain ⟨w₁, hopens, hservice, -, -⟩ :=
    opens_of_admitted sampleClient "/f" (fun _ clock => (clock.now, clock)) hadmitted
  have hreply : w₁.reply = accepted "\x7b\x7d" := by
    rw [Surroundings.reply, hservice]
    rfl
  have hclosed : sampleClient.heard Client.closedIn (accepted "\x7b\x7d") = .ok true :=
    eq_ok_of_toOption (by decide +kernel)
  have hcheck : after (watch sampleClient "/f").isClosed w₁ =
      (.ok true, w₁.exchanged (question sampleClient "/f")) := by
    rw [← watchBy_clock, after_isClosed, hreply, hclosed]
  have hsteady := steady_watchBy sampleClient "/f" fun w => (w.clock.now, w.clock)
  have hcomes : ComesTo (watch sampleClient "/f") patience.timeout patience.interval
      (sampleWait reply) (.ok .closed) _ :=
    (comesTo_ok_iff hsteady).mpr
      ⟨_, [], [], .mk hopens .nil (.closed hcheck (after_enter .done _))⟩
  exact ⟨_, (outcome_await patience (.ok .closed) _ _).mpr hcomes⟩

/-- A request that gets no answer in time, and one that is told that the file is still open. -/
theorem recovery_harmless_sample :
    DifferHarmlessly (sampleWait (.fault .timeout)) (sampleWait stillHeld) ∧
      ∃ w' v', Shell.outcome (await sampleClient {} "/f") (sampleWait (.fault .timeout)) =
          (.ok .closed, w') ∧
        Shell.outcome (await sampleClient {} "/f") (sampleWait stillHeld) = (.ok .closed, v') ∧
        SameBehind sampleClient "/f" (sampleWait (.fault .timeout)) (sampleWait stillHeld)
          w' v' := by
  have hdiffer : DifferHarmlessly (sampleWait (.fault .timeout)) (sampleWait stillHeld) := by
    refine ⟨.inl trivial, isHarmless_of_seen (b := false) ?_, rfl, rfl⟩
    decide +kernel
  obtain ⟨result, w', v', hw, hv, hsame⟩ :=
    (recovery_harmless sampleClient "/f" (fun _ clock => (clock.now, clock)) 60 1).2.2 {}
      _ _ hdiffer
  obtain ⟨w'', hclosed⟩ := await_sampleWait _ hdiffer.left {}
  obtain ⟨rfl, rfl⟩ := Prod.mk.inj (hw.symm.trans hclosed)
  exact ⟨hdiffer, w', v', hw, hv, hsame⟩

/-- **A reply that breaks a wait off**: an accepted answer that is no JSON. The failure gets out,
and nothing is asked any more; had there been no answer at all, the file would have been found
closed. -/
theorem recovery_breaks_off :
    let w := sampleWait (accepted "oops")
    let v := sampleWait (.fault .timeout)
    w.service.tail = v.service.tail ∧ w.clock = v.clock ∧
      (∃ f w', Shell.outcome (await sampleClient {} "/f") w = (.error f, w') ∧
        f.message = "Expecting value: line 1 column 1 (char 0)" ∧
        w.exchanges w' = [⟨question sampleClient "/f", accepted "oops"⟩]) ∧
      ∃ v', Shell.outcome (await sampleClient {} "/f") v = (.ok .closed, v') := by
  intro w v
  let why : Unreadable := .notJson ⟨.noValue, 0, 1, 1⟩
  have hheard : sampleClient.heard Client.closedIn
      (Surroundings.reply { w with log := w.log ++ [.waiting .requesting] }) =
      .error (.unreadable why) := eq_error_of_unreadableIn (by decide +kernel)
  have hrefused : Refused (watchBy sampleClient "/f" fun w => (w.clock.now, w.clock))
      (.unreadable why) w (Surroundings.exchanged { w with log := w.log ++ [.waiting .requesting] }
        (question sampleClient "/f")) := by
    refine .mk (after_enter .requesting w) ?_
    rw [after_request, hheard]
    rfl
  have hcomes : ComesTo (watchBy sampleClient "/f" fun w => (w.clock.now, w.clock))
      ({} : Patience).timeout ({} : Patience).interval w (.error (.unreadable why)) _ :=
    (comesTo_error_iff (steady_watchBy _ _ _)).mpr (.inl hrefused)
  refine ⟨rfl, rfl, ⟨_, _, (outcome_await {} (.error (.unreadable why)) _ _).mpr hcomes, ?_, ?_⟩,
    await_sampleWait (.fault .timeout) (.inl trivial) {}⟩
  · decide +kernel
  · exact (refused_leaves hrefused).2

end Lease

end NamenodeShell
