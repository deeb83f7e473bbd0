import NamenodeShell.Proofs.Checks
import NamenodeShell.Proofs.Refusals
import NamenodeShell.Proofs.Shell.Laws

/-!
# How additions go

The protocol of an addition, and that every addition keeps to it. A `Stage` is what is asked next,
`Goes` says which replies lead from a stage to which, and `Speaks` puts both together into the
conversations that are held with a service whose answers are given. Nothing is asked before all that
was asked has been answered well, but for two answers that are made up for: the replication of the
namenode, in whose place the usual one is set, and the first look at the blocks, of which no more is
asked than that it fails in a way of its own.

A conversation does not break off while an answer leads on. It is over where no answer does
(`Speaks.last`), and at a check that finds the file open when the time is up (`Speaks.late`); how
long that takes is the business of the wait and not of the protocol. An answer leads to one stage at
most (`Goes.unique`), so but for the time an addition has no choice (`Speaks.goesOn`).

`append_speaks` is the main statement. It is put together from the parts of an addition, each of
which is seen to go on from its stage (`SaysAt`), and the waiting by induction on the checks, of
which there are always more than answers. From the protocol the order of the requests is read off at
last (`Speaks.requests_asking`).
-/
set_option autoImplicit false

namespace NamenodeShell

open Shell

/-! ## What is looked for in replies -/

namespace Client

variable (c : Client)

/-- The replication that a response names as the one of new blocks. -/
def replicationIn (r : Response) : Except Failure Int := do
  (← (← (← bodyIn r).sub "FsServerDefaults").sub "replication").whole

/-- Whether a response says yes. -/
def agreementIn (r : Response) : Except Failure Bool := do
  return ((← (← bodyIn r).get "boolean").getD (.bool false)).truthy

/-- Whether a response says that a file is closed. -/
def closedIn (r : Response) : Except Failure Bool := do
  closedStatus (← bodyIn r)

/-- **What is made up for** when the replication is not learned: a refusal, unless it says that the
service is out of reach, and a body without a whole number where it should be. -/
theorem isForgiven_iff {f : Failure} : isForgiven f = true ↔
    f.category ∈ [.remote, .badJson, .badValue, .missingMember, .wrongKind] := by
  unfold isForgiven
  generalize f.category = category
  cases category <;> simp

/-- GETSERVERDEFAULTS comes to the number in the reply. -/
theorem outcome_serverReplication (path : String) (w : Surroundings) :
    outcome (c.serverReplication path) w =
      (c.heard replicationIn w.reply, w.exchanged (c.request .serverDefaults path)) := by
  refine c.outcome_perform_look (fun r w => ?_) w
  rw [outcome_bind, outcome_body, replicationIn]
  cases bodyIn r with
  | error e => rfl
  | ok body =>
    simp only
    rw [outcome_bind, outcome_lift]
    cases hdefaults : body.sub "FsServerDefaults" with
    | error e => simp only [bind, Except.bind, hdefaults]
    | ok defaults =>
      simp only
      rw [outcome_bind, outcome_lift]
      cases hreplication : defaults.sub "replication" <;>
        simp only [outcome_lift, bind, Except.bind, hdefaults, hreplication]

/-- Whether a response says yes is read off it. -/
theorem outcome_agrees (r : Response) (w : Surroundings) :
    outcome (agrees r) w = (agreementIn r, w) := by
  unfold agrees
  rw [outcome_bind, outcome_body, agreementIn]
  cases bodyIn r with
  | error e => rfl
  | ok body =>
    simp only
    rw [outcome_bind, outcome_lift]
    cases hboolean : body.get "boolean" with
    | error e => simp only [bind, Except.bind, hboolean]
    | ok value =>
      simp only [bind, Except.bind, hboolean]
      rfl

/-- SETREPLICATION comes to whether the namenode says yes, and only a body that cannot say fails. -/
theorem outcome_setReplication (path : String) (n : Int) (w : Surroundings) :
    outcome (c.setReplication path n) w =
      (c.heard agreementIn w.reply,
        w.exchanged (c.request .setReplication path [("replication", toString n)])) :=
  c.outcome_perform_look outcome_agrees w

/-- GET_BLOCK_LOCATIONS comes to whether the blocks say that the file is closed. -/
theorem outcome_isClosed (path : String) (w : Surroundings) :
    outcome (c.isClosed path) w =
      (c.heard closedIn w.reply, w.exchanged (c.request .blockLocations path)) := by
  refine c.outcome_perform_look (fun r w => ?_) w
  rw [outcome_bind, outcome_body, closedIn]
  cases bodyIn r <;> rfl

end Client

/-! ## The protocol -/

/-- A request as it goes out when a reply comes to it, and the disk is as it is by then: with the
data of an upload, if that is a response. -/
def Request.out (request : Request) (d : Disk) : Reply → Request
  | .response _ => request.taken d
  | _ => request

namespace Transfer

/-- **The stages of an addition**, by what is asked next. -/
inductive Stage where
  | asking
  | learning
  | restoring (n : Int)
  | opening (place : Place)
  | sending (place : Place) (target : Json)
  | recovering
  | checking

/-- The request of a stage. -/
def Stage.request (c : Client) (dest : String) : Stage → Request
  | asking => c.request .status dest
  | learning => c.request .serverDefaults dest
  | restoring n => c.request .setReplication dest [("replication", toString n)]
  | opening _ => c.request .append dest
  | sending place target => .upload .post target (.file place Client.bufferSize) c.timeout
  | recovering | checking => c.request .blockLocations dest

/-- **What leads from stage to stage**: a reply, and the local disk when it has come. Only
`forgiven` and `unrecovered` go on from a failure: the one with 3 for the replication that was not
learned, the other with the checks, as if the look had succeeded. -/
inductive Goes (c : Client) (source : String) (reply : Reply) (d : Disk) : Stage → Stage → Prop
  | configured {n : Int} (hn : c.replication = some n) (h : reply.IsFound) :
      Goes c source reply d .asking (.restoring n)
  | unconfigured (hn : c.replication = none) (h : reply.IsFound) :
      Goes c source reply d .asking .learning
  | learned {n : Int} (h : reply.Gives Client.replicationIn n) :
      Goes c source reply d .learning (.restoring n)
  | forgiven {f : Failure} (h : c.heard Client.replicationIn reply = .error f)
      (hf : f.category ∈ [.remote, .badJson, .badValue, .missingMember, .wrongKind]) :
      Goes c source reply d .learning (.restoring 3)
  | restored {n : Int} {b : Bool} {place : Place} (h : reply.Gives Client.agreementIn b)
      (hplace : d.openForReading source = .ok place) :
      Goes c source reply d (.restoring n) (.opening place)
  | located {place : Place} {target : Json} (h : reply.Gives Client.location (some target)) :
      Goes c source reply d (.opening place) (.sending place target)
  | sent {place : Place} {target : Json} {r : Response} (hreply : reply = .response r)
      (hr : r.isRefusal = false) : Goes c source reply d (.sending place target) .recovering
  | recovered {b : Bool} (h : reply.Gives Client.closedIn b) :
      Goes c source reply d .recovering .checking
  | unrecovered {f : Failure} (h : c.heard Client.closedIn reply = .error f)
      (hf : f.category ∈ [.notFound, .alreadyExists, .invalidInput, .remote, .unavailable]) :
      Goes c source reply d .recovering .checking
  | stillOpen (h : reply.Gives Client.closedIn false) : Goes c source reply d .checking .checking

/-- The exchange of a stage with a service whose next answers are given. -/
def Stage.exchange (c : Client) (dest : String) (stage : Stage) (answers : List Answer) (d : Disk) :
    Exchange where
  request := (stage.request c dest).out (d.after (answers.take 1)) (replyOf answers)
  reply := replyOf answers

/-- **The conversations of an addition** with a service whose answers are given, from a stage on.
The stage is asked, and where the reply leads on the conversation goes there. -/
inductive Speaks (c : Client) (source dest : String) :
    Stage → List Answer → Disk → List Exchange → Prop
  /-- No reply leads on. -/
  | last {stage : Stage} {answers : List Answer} {d : Disk}
      (hends : ∀ stage',
        ¬ Goes c source (replyOf answers) (d.after (answers.take 1)) stage stage') :
      Speaks c source dest stage answers d [stage.exchange c dest answers d]
  /-- The file is still open, and the time is up. -/
  | late {answers : List Answer} {d : Disk}
      (hopen : (replyOf answers).Gives Client.closedIn false) :
      Speaks c source dest .checking answers d [Stage.checking.exchange c dest answers d]
  /-- A reply leads on. -/
  | next {stage stage' : Stage} {answers : List Answer} {d : Disk} {xs : List Exchange}
      (hgo : Goes c source (replyOf answers) (d.after (answers.take 1)) stage stage')
      (rest : Speaks c source dest stage' answers.tail (d.after (answers.take 1)) xs) :
      Speaks c source dest stage answers d (stage.exchange c dest answers d :: xs)

variable {α β : Type} {c : Client} {source dest : String} {stage stage' : Stage}
  {w w' : Surroundings}

/-- **A reply leads to one stage**, if it leads on at all. -/
theorem Goes.unique {reply : Reply} {d : Disk} {stage'' : Stage}
    (h : Goes c source reply d stage stage') (h' : Goes c source reply d stage stage'') :
    stage' = stage'' := by
  cases h with
  | configured hn _ =>
    cases h' with
    | configured hn' _ => rw [Option.some.inj (hn.symm.trans hn')]
    | unconfigured hn' _ => cases hn.symm.trans hn'
  | unconfigured hn _ =>
    cases h' with
    | configured hn' _ => cases hn.symm.trans hn'
    | unconfigured _ _ => rfl
  | learned h =>
    cases h' with
    | learned h' => rw [h.unique h']
    | forgiven h' _ => cases (Client.heard_eq_ok.mpr h).symm.trans h'
  | forgiven h _ =>
    cases h' with
    | learned h' => cases h.symm.trans (Client.heard_eq_ok.mpr h')
    | forgiven _ _ => rfl
  | restored _ hplace =>
    cases h' with
    | restored _ hplace' => rw [Except.ok.inj (hplace.symm.trans hplace')]
  | located h =>
    cases h' with
    | located h' => rw [Option.some.inj (h.unique h')]
  | sent _ _ => cases h'; rfl
  | recovered _ => cases h' <;> rfl
  | unrecovered _ _ => cases h' <;> rfl
  | stillOpen _ => cases h'; rfl

/-- **Only to a file that is there anything is added**: from the first question no other reply leads
on. -/
theorem Goes.presence_of_asking {reply : Reply} {d : Disk}
    (h : Goes c source reply d .asking stage') : c.presence reply = .ok true := by
  cases h with
  | configured _ hfound => exact Client.presence_eq_true.mpr hfound
  | unconfigured _ hfound => exact Client.presence_eq_true.mpr hfound

/-- **A conversation goes on** where a reply leads, unless the file is being waited for. -/
theorem Speaks.goesOn {answers : List Answer} {d : Disk} {xs : List Exchange}
    (h : Speaks c source dest stage answers d xs) (hstage : stage ≠ .checking)
    (hgo : Goes c source (replyOf answers) (d.after (answers.take 1)) stage stage') :
    ∃ xs', xs = stage.exchange c dest answers d :: xs' ∧
      Speaks c source dest stage' answers.tail (d.after (answers.take 1)) xs' := by
  cases h with
  | last hends => exact absurd hgo (hends _)
  | late _ => exact absurd rfl hstage
  | next hgo' rest =>
    -- the reply leads where it led, so the conversation is the one that goes on there
    obtain rfl := hgo'.unique hgo
    exact ⟨_, rfl, rest⟩

/-! ## Computations that keep to the protocol -/

/-- **A computation keeps to the protocol** from a stage on, in given surroundings. -/
def SaysAt (c : Client) (source dest : String) (stage : Stage) (w : Surroundings)
    (act : Shell α) : Prop :=
  ∃ xs, w.Passed (outcome act w).2 xs ∧ Speaks c source dest stage w.service w.disk xs

/-- What has been exchanged once a stage has been asked. -/
theorem passed_stage (hquiet : (w.exchanged (stage.request c dest)).Quiet w') :
    w.Passed w' [stage.exchange c dest w.service w.disk] := by
  have hpassed := (w.passed_exchanged (stage.request c dest)).trans hquiet.1
  rw [Surroundings.taken, w.arrived_eq, List.append_nil] at hpassed
  exact hpassed

namespace SaysAt

variable {act : Shell α} {next : α → Shell β} {a : α}

/-- What is quiet in front of a conversation is no part of it. -/
theorem behind (hact : outcome act w = (.ok a, w')) (hquiet : w.Quiet w')
    (h : SaysAt c source dest stage w' (next a)) : SaysAt c source dest stage w (act >>= next) := by
  obtain ⟨xs, hxs, hspeaks⟩ := h
  rw [hquiet.2, hquiet.1.service] at hspeaks
  unfold SaysAt
  rw [outcome_bind_of_ok hact]
  exact ⟨xs, hquiet.1.trans hxs, hspeaks⟩

/-- Nor is what is quiet behind it, whatever the conversation has come to. -/
theorem before (h : SaysAt c source dest stage w act)
    (hnext : ∀ a, Obeys Surroundings.Quiet (next a)) :
    SaysAt c source dest stage w (act >>= next) := by
  obtain ⟨xs, hxs, hspeaks⟩ := h
  have hquiet : (outcome act w).2.Quiet (outcome (act >>= next) w).2 := obeys_behind hnext w
  exact ⟨xs, by simpa only [List.append_nil] using hxs.trans hquiet.1, hspeaks⟩

/-- **The last question**: the reply leads nowhere, and nothing is asked any more. -/
theorem last (hquiet : (w.exchanged (stage.request c dest)).Quiet (outcome act w).2)
    (hends : ∀ stage', ¬ Goes c source w.reply w.arrived stage stage') :
    SaysAt c source dest stage w act := by
  rw [w.arrived_eq] at hends
  exact ⟨_, passed_stage hquiet, .last hends⟩

/-- A question that fails, with a reply that leads nowhere. -/
theorem failed {f : Failure} (hact : outcome act w = (.error f, w'))
    (hquiet : (w.exchanged (stage.request c dest)).Quiet w')
    (hends : ∀ stage', ¬ Goes c source w.reply w.arrived stage stage') :
    SaysAt c source dest stage w (act >>= next) := by
  refine last ?_ hends
  rw [outcome_bind_of_error hact]
  exact hquiet

/-- A question that is answered, after which nothing is asked any more. -/
theorem ended (hact : outcome act w = (.ok a, w'))
    (hquiet : (w.exchanged (stage.request c dest)).Quiet w')
    (hrest : w'.Quiet (outcome (next a) w').2)
    (hends : ∀ stage', ¬ Goes c source w.reply w.arrived stage stage') :
    SaysAt c source dest stage w (act >>= next) := by
  refine last ?_ hends
  rw [outcome_bind_of_ok hact]
  exact trans_of Surroundings.Quiet hquiet hrest

/-- A check that finds the file open, after which the time is up. -/
theorem late (hact : outcome act w = (.ok a, w'))
    (hquiet : (w.exchanged (Stage.checking.request c dest)).Quiet w')
    (hrest : w'.Quiet (outcome (next a) w').2) (hopen : w.reply.Gives Client.closedIn false) :
    SaysAt c source dest .checking w (act >>= next) := by
  refine ⟨_, passed_stage (trans_of Surroundings.Quiet hquiet ?_), .late hopen⟩
  rw [outcome_bind_of_ok hact]
  exact hrest

/-- **A question that is answered as it should be**: the conversation goes on where the reply
leads. -/
theorem asked (hact : outcome act w = (.ok a, w'))
    (hquiet : (w.exchanged (stage.request c dest)).Quiet w')
    (hgo : Goes c source w.reply w.arrived stage stage')
    (h : SaysAt c source dest stage' w' (next a)) :
    SaysAt c source dest stage w (act >>= next) := by
  obtain ⟨xs, hxs, hspeaks⟩ := h
  have hdisk : (w.exchanged (stage.request c dest)).disk = w.disk.after (w.service.take 1) :=
    w.arrived_eq
  rw [w.arrived_eq] at hgo
  rw [hquiet.1.service, hquiet.2, hdisk] at hspeaks
  unfold SaysAt
  rw [outcome_bind_of_ok hact]
  exact ⟨_, (passed_stage hquiet).trans hxs, .next hgo hspeaks⟩

end SaysAt

/-! ## The wait -/

variable (c source dest)

/-- A reply from which something is learned has used up an answer. -/
theorem length_tail_lt {look : Response → Except Failure α} {a : α} {answers : List Answer}
    (h : (replyOf answers).Gives look a) : answers.tail.length < answers.length := by
  cases answers with
  | nil =>
    obtain ⟨r, hreply, -⟩ := h
    cases hreply
  | cons answer answers => exact Nat.lt_succ_self _

/-- **Checks go on while the file is open**, until the time is up. There are more checks than
answers, so it is never the checks that are used up first. -/
theorem says_poll (timeout interval start : Float) (checks : Nat) (w : Surroundings)
    (hchecks : w.service.length < checks) :
    SaysAt c source dest .checking w
      (Lease.poll (Lease.watch c dest) timeout interval start checks) := by
  have henter : ∀ phase, Obeys Surroundings.Quiet ((Lease.watch c dest).enter phase) :=
    fun _ => obeys_note rfl
  induction checks generalizing w with
  | zero => exact absurd hchecks (Nat.not_lt_zero _)
  | succ checks ih =>
    have hact := c.outcome_isClosed dest w
    cases hheard : c.heard Client.closedIn w.reply with
    | error f =>
      rw [hheard] at hact
      refine .failed hact (refl_of _ _) fun stage' hgo => ?_
      cases hgo with
      | stillOpen h => cases hheard.symm.trans (Client.heard_eq_ok.mpr h)
    | ok closed =>
      rw [hheard] at hact
      have hgives := Client.heard_eq_ok.mp hheard
      cases closed with
      | true =>
        refine .ended hact (refl_of _ _) ?_ fun stage' hgo => ?_
        · exact obeys_bind (henter _) (fun _ => obeys_pure _) _
        · cases hgo with
          | stillOpen h => cases hgives.unique h
      | false =>
        -- The clock is read, and whether there is another check depends on how late it is.
        generalize hw₁ : w.exchanged (c.request .blockLocations dest) = w₁ at hact
        have hnow : outcome (Lease.watch c dest).now w₁ = (.ok w₁.clock.now, w₁) := rfl
        by_cases hlate : timeout ≤ w₁.clock.now - start
        · refine .late hact (hw₁ ▸ refl_of _ _) ?_ hgives
          rw [if_neg Bool.false_ne_true, outcome_bind_of_ok hnow]
          simp only [if_pos hlate]
          exact obeys_bind (henter _) (fun _ => obeys_bind (obeys_warn _ _)
            fun _ => obeys_pure _) _
        · refine .asked hact (hw₁ ▸ refl_of _ _) (.stillOpen hgives) ?_
          rw [if_neg Bool.false_ne_true]
          refine .behind hnow (refl_of _ _) ?_
          simp only [if_neg hlate]
          have hleft : w₁.service.length < checks := by
            have hused := length_tail_lt hgives
            rw [← hw₁]
            exact Nat.lt_of_lt_of_le hused (Nat.le_of_lt_succ hchecks)
          exact .behind rfl (obeys_sleep _ _) (ih _ hleft)

/-- **The request for the lease**: what comes of it is a warning at most where the reply leads on,
and a failure where it does not. -/
theorem outcome_requestOrWarn (w : Surroundings) :
    ∃ result w', outcome (Lease.requestOrWarn c dest) w = (result, w') ∧
      (w.exchanged (c.request .blockLocations dest)).Quiet w' ∧
      ((result = .ok () ∧ Goes c source w.reply w.arrived .recovering .checking) ∨
        ∃ f, result = .error f ∧
          ∀ stage', ¬ Goes c source w.reply w.arrived .recovering stage') := by
  unfold Lease.requestOrWarn Client.recoverLease
  rw [outcome_tryCatch, outcome_bind, c.outcome_isClosed]
  cases hheard : c.heard Client.closedIn w.reply with
  | ok b =>
    exact ⟨_, _, rfl, refl_of _ _, .inl ⟨rfl, .recovered (Client.heard_eq_ok.mp hheard)⟩⟩
  | error f =>
    simp only
    split
    next hf =>
      exact ⟨_, _, rfl, obeys_warn _ _ _,
        .inl ⟨rfl, .unrecovered hheard (Failure.isOwn_iff.mp hf)⟩⟩
    next hf =>
      refine ⟨_, _, rfl, refl_of _ _, .inr ⟨f, rfl, fun stage' hgo => ?_⟩⟩
      cases hgo with
      | recovered h => cases hheard.symm.trans (Client.heard_eq_ok.mpr h)
      | unrecovered h hf' =>
        obtain rfl := Except.error.inj (hheard.symm.trans h)
        exact hf (Failure.isOwn_iff.mpr hf')

/-- **The wait keeps to the protocol**: its request is the first look at the blocks, and its checks
are the others. -/
theorem says_await (patience : Lease.Patience) (w : Surroundings) :
    SaysAt c source dest .recovering w (Lease.await c patience dest) := by
  have henter : ∀ phase, Obeys Surroundings.Quiet ((Lease.watch c dest).enter phase) :=
    fun _ => obeys_note rfl
  refine .behind (outcome_get w) (refl_of _ _) (.before ?_ fun outcome => ?_)
  · refine .behind rfl (henter _ w) ?_
    obtain ⟨result, w₁, hresult, hquiet, ⟨rfl, hgo⟩ | ⟨f, rfl, hends⟩⟩ :=
      outcome_requestOrWarn c source dest (outcome ((Lease.watch c dest).enter .requesting) w).2
    · refine .asked hresult hquiet hgo ?_
      refine .behind rfl (henter _ w₁) (.behind rfl (refl_of _ _) ?_)
      -- The request has used up an answer, or there were none.
      have hleft : w₁.service.length < w.service.length + 1 := by
        rw [hquiet.1.service]
        exact Nat.lt_succ_of_le (List.length_tail ▸ Nat.sub_le _ _)
      exact says_poll c source dest _ _ _ _ _ hleft
    · exact .failed hresult hquiet hends
  · cases outcome with
    | some outcome => exact obeys_pure outcome
    | none => exact obeys_throw _

/-! ## The steps before -/

/-- The data goes where the namenode says, and what comes after it is the wait. -/
theorem says_append {next : Unit → Shell α} (place : Place)
    (hnext : ∀ w, SaysAt c source dest .recovering w (next ())) (w : Surroundings) :
    SaysAt c source dest (.opening place) w
      (c.append dest (.file place Client.bufferSize) >>= next) := by
  unfold Client.append Client.write
  simp only [bind_assoc]
  rw [← bind_assoc]
  have hact : outcome (c.perform .append dest [] >>= fun r => liftM (Client.location r)) w =
      (c.heard Client.location w.reply, w.exchanged (c.request .append dest [])) :=
    c.outcome_perform_look (fun r v => outcome_lift (Client.location r) v) w
  cases hheard : c.heard Client.location w.reply with
  | error f =>
    rw [hheard] at hact
    refine .failed hact (refl_of _ _) fun stage' hgo => ?_
    cases hgo with
    | located h => cases hheard.symm.trans (Client.heard_eq_ok.mpr h)
  | ok target =>
    rw [hheard] at hact
    have hgives := Client.heard_eq_ok.mp hheard
    cases target with
    | none =>
      -- Without a place to send the data to nothing is sent.
      refine .ended hact (refl_of _ _) (refl_of _ _) fun stage' hgo => ?_
      cases hgo with
      | located h => cases hgives.unique h
    | some target =>
      refine .asked hact (refl_of _ _) (.located hgives) ?_
      simp only [bind_assoc, pure_bind]
      have hsend := c.outcome_send (.upload .post target (.file place Client.bufferSize) c.timeout)
        (w.exchanged (c.request .append dest))
      cases hverdict : c.verdict (w.exchanged (c.request .append dest)).reply with
      | error f =>
        rw [hverdict] at hsend
        refine .failed hsend (refl_of _ _) fun stage' hgo => ?_
        cases hgo with
        | sent hreply hr =>
          rw [hreply, Client.verdict_response, if_neg (Bool.eq_false_iff.mp hr)] at hverdict
          cases hverdict
      | ok r =>
        rw [hverdict] at hsend
        obtain ⟨hreply, hr⟩ := Client.verdict_eq_ok hverdict
        exact .asked hsend (refl_of _ _) (.sent hreply hr) (hnext _)

/-- The namenode is asked for its replication when the client was not given one, and in either case
some replication is set. -/
theorem says_defaultReplication {next : Int → Shell α} (hn : c.replication = none)
    (hnext : ∀ n w, SaysAt c source dest (.restoring n) w (next n)) (w : Surroundings) :
    SaysAt c source dest .learning w (c.defaultReplication dest >>= next) := by
  have hasked := c.outcome_serverReplication dest w
  cases hheard : c.heard Client.replicationIn w.reply with
  | ok n =>
    have hact : outcome (c.defaultReplication dest) w =
        (.ok n, w.exchanged (c.request .serverDefaults dest)) := by
      rw [Client.defaultReplication, hn]
      simp only
      rw [outcome_tryCatch, hasked, hheard]
    exact .asked hact (refl_of _ _) (.learned (Client.heard_eq_ok.mp hheard)) (hnext n _)
  | error f =>
    by_cases hf : Client.isForgiven f = true
    · obtain ⟨w', hact, hquiet⟩ : ∃ w', outcome (c.defaultReplication dest) w = (.ok 3, w') ∧
          (w.exchanged (c.request .serverDefaults dest)).Quiet w' := by
        rw [Client.defaultReplication, hn]
        simp only
        rw [outcome_tryCatch, hasked, hheard]
        simp only [if_pos hf]
        exact ⟨_, rfl, Idle.aside rfl _⟩
      exact .asked hact hquiet (.forgiven hheard (Client.isForgiven_iff.mp hf)) (hnext 3 w')
    · have hact : outcome (c.defaultReplication dest) w =
          (.error f, w.exchanged (c.request .serverDefaults dest)) := by
        rw [Client.defaultReplication, hn]
        simp only
        rw [outcome_tryCatch, hasked, hheard]
        simp only [if_neg hf]
        rfl
      refine .failed hact (refl_of _ _) fun stage' hgo => ?_
      cases hgo with
      | learned h => cases hheard.symm.trans (Client.heard_eq_ok.mpr h)
      | forgiven h hf' =>
        obtain rfl := Except.error.inj (hheard.symm.trans h)
        exact hf (Client.isForgiven_iff.mpr hf')

/-- SETREPLICATION goes out before the file is opened, so that a file that is gone by then leaves
the replication set and nothing sent. -/
theorem says_setReplication {next : Place → Shell α} (n : Int)
    (hnext : ∀ place w, SaysAt c source dest (.opening place) w (next place)) (w : Surroundings) :
    SaysAt c source dest (.restoring n) w
      (c.setReplication dest n >>= fun _ => onDisk source (·.openForReading source) >>= next) := by
  have hact := c.outcome_setReplication dest n w
  cases hheard : c.heard Client.agreementIn w.reply with
  | error f =>
    rw [hheard] at hact
    refine .failed hact (refl_of _ _) fun stage' hgo => ?_
    cases hgo with
    | restored h _ => cases hheard.symm.trans (Client.heard_eq_ok.mpr h)
  | ok b =>
    rw [hheard] at hact
    have hgives := Client.heard_eq_ok.mp hheard
    -- The file is opened after the reply has come, on the disk as it is by then.
    have hopen := outcome_onDisk source (·.openForReading source)
      (w.exchanged (c.request .setReplication dest [("replication", toString n)]))
    cases hplace : w.arrived.openForReading source with
    | error cause =>
      change outcome _ _ = (((w.arrived.openForReading source).mapError _), _) at hopen
      rw [hplace] at hopen
      refine .ended hact (refl_of _ _) ?_ fun stage' hgo => ?_
      · rw [outcome_bind_of_error hopen]
        exact refl_of _ _
      · cases hgo with
        | restored _ hplace' => cases hplace.symm.trans hplace'
    | ok place =>
      change outcome _ _ = (((w.arrived.openForReading source).mapError _), _) at hopen
      rw [hplace] at hopen
      exact .asked hact (refl_of _ _) (.restored hgives hplace)
        (.behind hopen (refl_of _ _) (hnext place _))

/-- What is no regular file is not sent. -/
theorem needFile_of_not_isFile (hfile : w.disk.isFile source = false) :
    outcome (needFile source) w = (.error (.absent source), w) := by
  rw [outcome_needFile, hfile, if_neg Bool.false_ne_true]

/-- **An addition keeps to the protocol** from its first question on. -/
theorem says_addition (patience : Lease.Patience) (w : Surroundings)
    (hfile : w.disk.isFile source = true) :
    SaysAt c source dest .asking w (append c patience source dest) := by
  have hrest : ∀ n w, SaysAt c source dest (.restoring n) w (do
      let _ ← c.setReplication dest n
      let place ← onDisk source (·.openForReading source)
      c.append dest (.file place Client.bufferSize)
      let size ← sizeAt place
      let outcome ← Lease.await c patience dest
      return (⟨source, dest, .append, size, some outcome⟩ : Transfer)) := by
    intro n w
    refine says_setReplication c source dest n (fun place w => ?_) w
    refine says_append c source dest place (fun w => ?_) w
    refine .behind rfl (refl_of _ _) (.before (says_await c source dest patience _) fun _ => ?_)
    exact obeys_pure _
  have hneed : outcome (needFile source) w = (.ok (), w) := by
    rw [outcome_needFile, if_pos hfile]
  have hact := c.outcome_exists dest w
  unfold append
  refine .behind hneed (refl_of _ w) ?_
  cases hpresence : c.presence w.reply with
  | error f =>
    rw [hpresence] at hact
    refine .failed hact (refl_of _ _) fun stage' hgo => ?_
    cases hpresence.symm.trans hgo.presence_of_asking
  | ok there =>
    rw [hpresence] at hact
    cases there with
    | false =>
      refine .ended hact (refl_of _ _) (refl_of _ _) fun stage' hgo => ?_
      cases hpresence.symm.trans hgo.presence_of_asking
    | true =>
      have hfound := Client.presence_eq_true.mp hpresence
      cases hn : c.replication with
      | some n =>
        -- The replication is the one the client was given, and nothing is asked for it.
        have hdefault : ∀ w, outcome (c.defaultReplication dest) w = (.ok n, w) := by
          intro w
          rw [Client.defaultReplication, hn]
          rfl
        exact .asked hact (refl_of _ _) (.configured hn hfound)
          (.behind (hdefault _) (refl_of _ _) (hrest n _))
      | none =>
        exact .asked hact (refl_of _ _) (.unconfigured hn hfound)
          (says_defaultReplication c source dest hn hrest _)

/-! ## The order of the requests -/

/-- **The requests of an addition** in their order, given the replication that is set, the place and
the data that is sent there, and how often the blocks are looked at. -/
def additionRequests (c : Client) (dest : String) (n : Int) (target : Json) (data : Payload)
    (looks : Nat) : List Request :=
  c.request .status dest ::
    ((if c.replication = none then [c.request .serverDefaults dest] else []) ++
      [c.request .setReplication dest [("replication", toString n)], c.request .append dest,
        .upload .post target data c.timeout] ++
      List.replicate looks (c.request .blockLocations dest))

/-- Only the data of an upload is taken from the disk. -/
theorem out_operation (c : Client) (op : Operation) (path : String)
    (more : List (String × String)) (d : Disk) (reply : Reply) :
    (c.request op path more).out d reply = c.request op path more := by
  cases reply <;> rfl

/-- An upload keeps its method and its place, whatever data it has. -/
theorem out_upload (method : Method) (target : Json) (data : Payload) (timeout : Float) (d : Disk)
    (reply : Reply) : ∃ data',
      (Request.upload method target data timeout).out d reply =
        .upload method target data' timeout := by
  cases reply <;> exact ⟨_, rfl⟩

namespace Speaks

variable {c source dest} {answers : List Answer} {d : Disk} {xs : List Exchange}

/-- While the file is waited for, all requests look at its blocks. -/
theorem requests_waiting (h : Speaks c source dest stage answers d xs)
    (hstage : stage = .recovering ∨ stage = .checking) :
    xs.map (·.request) = List.replicate xs.length (c.request .blockLocations dest) := by
  have hlook : ∀ {stage : Stage} {answers d}, stage = .recovering ∨ stage = .checking →
      (stage.exchange c dest answers d).request = c.request .blockLocations dest := by
    rintro stage answers d (rfl | rfl) <;> exact out_operation c _ dest _ _ _
  induction h with
  | last _ => rw [List.map_singleton, hlook hstage]; rfl
  | late _ => rw [List.map_singleton, hlook hstage]; rfl
  | @next stage stage' _ _ _ hgo rest ih =>
    have hnext : stage' = .checking := by
      rcases hstage with rfl | rfl <;> cases hgo <;> rfl
    rw [List.map_cons, hlook hstage, ih (Or.inr hnext), List.length_cons, List.replicate_succ]

/-- Behind the data there are only looks at the blocks, -/
theorem requests_sending {place : Place} {target : Json}
    (h : Speaks c source dest (.sending place target) answers d xs) :
    ∃ data looks, xs.map (·.request) <+: .upload .post target data c.timeout ::
      List.replicate looks (c.request .blockLocations dest) := by
  obtain ⟨data, hdata⟩ := out_upload .post target (.file place Client.bufferSize) c.timeout
    (d.after (answers.take 1)) (replyOf answers)
  cases h with
  | last _ => exact ⟨data, 0, List.cons_prefix_cons.mpr ⟨hdata, List.prefix_rfl⟩⟩
  | @next _ _ _ _ xs hgo rest =>
    cases hgo
    have hlooks := rest.requests_waiting (Or.inl rfl)
    exact ⟨data, xs.length, List.cons_prefix_cons.mpr ⟨hdata, hlooks ▸ List.prefix_rfl⟩⟩

/-- which APPEND comes before, -/
theorem requests_opening {place : Place}
    (h : Speaks c source dest (.opening place) answers d xs) :
    ∃ target data looks, xs.map (·.request) <+:
      c.request .append dest :: .upload .post target data c.timeout ::
        List.replicate looks (c.request .blockLocations dest) := by
  have hhead := out_operation c .append dest [] (d.after (answers.take 1)) (replyOf answers)
  cases h with
  | last _ => exact ⟨.null, .parts [], 0, List.cons_prefix_cons.mpr ⟨hhead, List.nil_prefix⟩⟩
  | next hgo rest =>
    cases hgo with
    | @located _ target =>
      obtain ⟨data, looks, hrest⟩ := rest.requests_sending
      exact ⟨target, data, looks, List.cons_prefix_cons.mpr ⟨hhead, hrest⟩⟩

/-- and SETREPLICATION before that, -/
theorem requests_restoring {n : Int} (h : Speaks c source dest (.restoring n) answers d xs) :
    ∃ target data looks, xs.map (·.request) <+:
      c.request .setReplication dest [("replication", toString n)] :: c.request .append dest ::
        .upload .post target data c.timeout ::
          List.replicate looks (c.request .blockLocations dest) := by
  have hhead := out_operation c .setReplication dest [("replication", toString n)]
    (d.after (answers.take 1)) (replyOf answers)
  cases h with
  | last _ => exact ⟨.null, .parts [], 0, List.cons_prefix_cons.mpr ⟨hhead, List.nil_prefix⟩⟩
  | next hgo rest =>
    cases hgo
    obtain ⟨target, data, looks, hrest⟩ := rest.requests_opening
    exact ⟨target, data, looks, List.cons_prefix_cons.mpr ⟨hhead, hrest⟩⟩

/-- and GETSERVERDEFAULTS before that, in a client that was not given a replication. -/
theorem requests_learning (h : Speaks c source dest .learning answers d xs) :
    ∃ (n : Int) (target : Json) (data : Payload) (looks : Nat), xs.map (·.request) <+:
      c.request .serverDefaults dest ::
        c.request .setReplication dest [("replication", toString n)] :: c.request .append dest ::
          .upload .post target data c.timeout ::
            List.replicate looks (c.request .blockLocations dest) := by
  have hhead := out_operation c .serverDefaults dest [] (d.after (answers.take 1)) (replyOf answers)
  cases h with
  | last _ => exact ⟨3, .null, .parts [], 0, List.cons_prefix_cons.mpr ⟨hhead, List.nil_prefix⟩⟩
  | @next _ stage' _ _ _ hgo rest =>
    obtain ⟨n, rfl⟩ : ∃ n, stage' = .restoring n := by
      cases hgo <;> exact ⟨_, rfl⟩
    obtain ⟨target, data, looks, hrest⟩ := rest.requests_restoring
    exact ⟨n, target, data, looks, List.cons_prefix_cons.mpr ⟨hhead, hrest⟩⟩

/-- **The requests of an addition come in their order.** -/
theorem requests_asking (h : Speaks c source dest .asking answers d xs) :
    ∃ n target data looks,
      xs.map (·.request) <+: additionRequests c dest n target data looks := by
  have hhead := out_operation c .status dest [] (d.after (answers.take 1)) (replyOf answers)
  unfold additionRequests
  cases h with
  | last _ => exact ⟨3, .null, .parts [], 0, List.cons_prefix_cons.mpr ⟨hhead, List.nil_prefix⟩⟩
  | next hgo rest =>
    cases hgo with
    | @configured n hn =>
      obtain ⟨target, data, looks, hrest⟩ := rest.requests_restoring
      refine ⟨n, target, data, looks, List.cons_prefix_cons.mpr ⟨hhead, ?_⟩⟩
      rw [hn]
      exact hrest
    | unconfigured hn =>
      obtain ⟨n, target, data, looks, hrest⟩ := rest.requests_learning
      refine ⟨n, target, data, looks, List.cons_prefix_cons.mpr ⟨hhead, ?_⟩⟩
      rw [hn]
      exact hrest

end Speaks

/-- **Additions keep to their protocol.** Whatever there is on the disk and whatever the service
answers, an addition asks nothing when its source is no file, and otherwise holds a conversation of
the protocol, to its end. So its requests are those of an addition in their order, as far as it
comes; the data is posted to the place that a redirection names, which is not followed. -/
theorem append_speaks (c : Client) (patience : Lease.Patience) (source dest : String)
    (w : Surroundings) :
    (w.disk.isFile source = false →
      w.exchanges (outcome (append c patience source dest) w).2 = []) ∧
    (w.disk.isFile source = true → Speaks c source dest .asking w.service w.disk
      (w.exchanges (outcome (append c patience source dest) w).2)) ∧
    (∃ n target data looks, w.requests (outcome (append c patience source dest) w).2 <+:
      additionRequests c dest n target data looks) ∧
    Operation.append.method = .post ∧ Operation.append.followsRedirects = false := by
  cases hfile : w.disk.isFile source with
  | false =>
    have hnone : outcome (append c patience source dest) w = (.error (.absent source), w) := by
      unfold append
      rw [outcome_bind_of_error (needFile_of_not_isFile source hfile)]
    have hexchanges : w.exchanges w = [] := (Surroundings.Passed.refl w).exchanges_eq
    rw [Surroundings.requests, hnone, hexchanges]
    exact ⟨fun _ => rfl, nofun, ⟨3, .null, .parts [], 0, List.nil_prefix⟩, rfl, rfl⟩
  | true =>
    obtain ⟨xs, hxs, hspeaks⟩ := says_addition c source dest patience w hfile
    rw [Surroundings.requests, hxs.exchanges_eq]
    exact ⟨nofun, fun _ => hspeaks, hspeaks.requests_asking, rfl, rfl⟩

/-- An answer that comes, with no headers. -/
def sampleAnswer (status : Nat) (body : String) : Answer :=
  ⟨.response { status, headers := [], body := .whole (Bytes.ofText body) }, none⟩

/-- An answer that says where the data goes. -/
def sampleRedirection : Answer :=
  ⟨.response { status := 307, headers := [("Location", "d")], body := .whole [] }, none⟩

/-- A service that refuses to tell its replication, and refuses the first look at the blocks. -/
def sampleAddition : Surroundings where
  service := [sampleAnswer 200 "\x7b\"FileStatus\":1\x7d", sampleAnswer 500 "",
    sampleAnswer 200 "\x7b\x7d", sampleRedirection, sampleAnswer 200 "", sampleAnswer 500 "",
    sampleAnswer 200 "\x7b\x7d"]
  disk := { tree := [(["f"], .file [104])] }

/-- A client that was not given a replication. -/
def sampleAdder : Client := { host := "nn", port := 9870, user := "alice" }

/-- What is seen to be heard in a reply is what the reply gives. -/
theorem gives_of_seen {look : Response → Except Failure α} {a : α} {reply : Reply}
    (h : (sampleAdder.heard look reply).toOption = some a) : reply.Gives look a :=
  Client.heard_eq_ok.mp (eq_ok_of_toOption h)

/-- And the category of the failure that is heard is seen in the same way. -/
theorem fails_of_seen {look : Response → Except Failure α} {k : Category} {reply : Reply}
    (h : (match sampleAdder.heard look reply with
      | .ok _ => none
      | .error f => some f.category) = some k) :
    ∃ f, sampleAdder.heard look reply = .error f ∧ f.category = k := by
  cases hheard : sampleAdder.heard look reply with
  | ok a =>
    rw [hheard] at h
    cases h
  | error f =>
    rw [hheard] at h
    exact ⟨f, rfl, Option.some.inj h⟩

/-- **Both answers that are made up for**: the usual replication is set, and a check follows the
look that was refused. -/
theorem append_speaks_sample :
    sampleAddition.disk.isFile "/f" = true ∧
      ∃ data, sampleAddition.requests (outcome (append sampleAdder {} "/f" "/g") sampleAddition).2 =
        additionRequests sampleAdder "/g" 3 (.text "d") data 2 := by
  have hfile : sampleAddition.disk.isFile "/f" = true := by
    decide +kernel
  have hplace : sampleAddition.disk.openForReading "/f" = .ok ["f"] :=
    eq_ok_of_toOption (by decide +kernel)
  have hheader : (Response.header?
      { status := 307, headers := [("Location", "d")], body := .whole [] } "Location").filter
        (· ≠ "") = some "d" := by
    decide +kernel
  have hplaced : (Reply.response
      { status := 307, headers := [("Location", "d")], body := .whole [] }).Gives
        Client.location (some (.text "d")) :=
    ⟨_, rfl, rfl, by rw [Client.location, hheader]⟩
  have hclosed : (replyOf [sampleAnswer 200 "\x7b\x7d"]).Gives Client.closedIn true :=
    gives_of_seen (by decide +kernel)
  obtain ⟨f, hforgiven, hf⟩ : ∃ f, sampleAdder.heard Client.replicationIn
      (replyOf [sampleAnswer 500 ""]) = .error f ∧ f.category = .remote :=
    fails_of_seen (by decide +kernel)
  obtain ⟨g, hrefused, hg⟩ : ∃ f, sampleAdder.heard Client.closedIn
      (replyOf [sampleAnswer 500 ""]) = .error f ∧ f.category = .remote :=
    fails_of_seen (by decide +kernel)
  have h := (append_speaks sampleAdder {} "/f" "/g" sampleAddition).2.1 hfile
  obtain ⟨_, h₁, h⟩ := h.goesOn nofun
    (.unconfigured rfl (Client.isFound_of_presence (c := sampleAdder) (by decide +kernel)))
  obtain ⟨_, h₂, h⟩ := h.goesOn nofun
    (.forgiven hforgiven (by rw [hf]; decide))
  obtain ⟨_, h₃, h⟩ := h.goesOn nofun
    (.restored (b := false) (gives_of_seen (by decide +kernel)) hplace)
  obtain ⟨_, h₄, h⟩ := h.goesOn nofun (.located hplaced)
  obtain ⟨_, h₅, h⟩ := h.goesOn nofun (.sent rfl rfl)
  obtain ⟨_, h₆, h⟩ := h.goesOn nofun (.unrecovered hrefused (by rw [hg]; decide))
  cases h with
  | late hopen => cases hclosed.unique hopen
  | next hgo _ =>
    cases hgo with
    | stillOpen hopen => cases hclosed.unique hopen
  | last _ =>
    refine ⟨hfile, .parts (Payload.taken sampleAddition.disk (.file ["f"] Client.bufferSize)), ?_⟩
    rw [Surroundings.requests, h₁, h₂, h₃, h₄, h₅, h₆]
    rfl

end Transfer

end NamenodeShell
