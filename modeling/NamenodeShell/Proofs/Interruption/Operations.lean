import NamenodeShell.Listing.Reported
import NamenodeShell.Proofs.Interruption.Basic
import NamenodeShell.Proofs.Operations

/-!
# Operations heed interruptions

What is computed from answers is never an interruption: the functions that look into values fail,
each in its own way, but not in this one. So the only interruptions there are come from an exchange
(`heeds_perform`), and every operation, wait and transfer hands them on. Three of them make up for
some failures: a question for what is not there, the replication nobody can name, the lease that is
not given up. None of the three takes an interruption for one of those.
-/
set_option autoImplicit false

namespace NamenodeShell

open Shell

/-! ## Values -/

namespace Json

/-- A member that has to be there: what is wrong is that it is not, or that there are no members. -/
theorem undisturbed_sub (name : String) (v : Json) : Undisturbed (v.sub name) := by
  unfold sub
  split
  next => split <;> nofun
  all_goals nofun

theorem undisturbed_get (name : String) (v : Json) : Undisturbed (v.get name) := by
  unfold get
  split <;> nofun

theorem undisturbed_each (v : Json) : Undisturbed v.each := by
  unfold each
  split <;> nofun

theorem undisturbed_key (v : Json) : Undisturbed v.key := by
  unfold key
  split <;> nofun

/-- A whole number can be wanting in many ways, each a failure of its own. -/
theorem undisturbed_whole (v : Json) : Undisturbed v.whole := by
  unfold whole
  split
  next => nofun
  next => nofun
  next =>
    unfold truncated
    split <;> nofun
  next => split <;> nofun
  next => nofun

theorem undisturbed_beforeScalar (v w : Json) : Undisturbed (beforeScalar v w) := by
  unfold beforeScalar
  split
  next => nofun
  next => split <;> nofun

mutual

/-- Two values are compared at their kinds, and two lists element by element, so the proof follows
`before` and `beforeElements` through each other. -/
theorem undisturbed_before (v w : Json) : Undisturbed (before v w) := by
  match v with
  -- two lists are compared by the other of the two functions
  | list vs =>
    rw [before.eq_def]
    split
    next vs' ws h =>
      cases h
      exact undisturbed_beforeElements vs ws
    next => exact undisturbed_beforeScalar _ _
  | null | bool _ | int _ | float _ | text _ | object _ =>
    rw [before]
    · exact undisturbed_beforeScalar _ _
    · nofun

theorem undisturbed_beforeElements (vs ws : List Json) : Undisturbed (beforeElements vs ws) := by
  cases vs with
  | nil => exact undisturbed_ok _
  | cons v vs =>
    cases ws with
    | nil => exact undisturbed_ok _
    | cons w ws =>
      rw [beforeElements]
      split
      next => exact undisturbed_beforeElements vs ws
      next => exact undisturbed_before v w

end

end Json

/-! ## Sorting -/

namespace Sorting

variable {α : Type} {before : α → α → Except Failure Bool}

section

variable (h : ∀ a b, Undisturbed (before a b))

include h

/-- A run goes on while comparisons come out the same way; each of them may fail. -/
theorem undisturbed_runBehind (descending : Bool) (last : α) (xs : List α) :
    Undisturbed (runBehind before descending last xs) := by
  fun_induction runBehind before descending last xs with
  | case1 => exact undisturbed_ok _
  | case2 last x rest e hbefore => exact (h x last).of_eq_error hbefore
  | case3 last x rest e hrun hbefore ih => exact ih.of_eq_error hrun
  | case4 => exact undisturbed_ok _
  | case5 => exact undisturbed_ok _

/-- The leading run takes one comparison to tell its direction and then goes on. -/
theorem undisturbed_leadingRun (xs : List α) : Undisturbed (leadingRun before xs) := by
  unfold leadingRun
  split
  next => exact undisturbed_ok _
  next => exact undisturbed_ok _
  next x y rest =>
    split
    next e hbefore => exact (h y x).of_eq_error hbefore
    next descending _ =>
      split
      next e hrun => exact (undisturbed_runBehind h descending y rest).of_eq_error hrun
      next => exact undisturbed_ok _

/-- An element finds its place among sorted ones by halving, one comparison at a time. -/
theorem undisturbed_insert (x : α) (sorted : List α) : Undisturbed (insert before x sorted) := by
  fun_induction insert before x sorted with
  | case1 => exact undisturbed_ok _
  | case2 sorted middle above hdrop e hbefore => exact (h x middle).of_eq_error hbefore
  | case3 sorted middle above hdrop below hbefore e hinsert ih => exact ih.of_eq_error hinsert
  | case4 => exact undisturbed_ok _
  | case5 sorted middle above hdrop hbefore e hinsert ih => exact ih.of_eq_error hinsert
  | case6 => exact undisturbed_ok _

theorem undisturbed_insertAll (sorted xs : List α) :
    Undisturbed (insertAll before sorted xs) := by
  fun_induction insertAll before sorted xs with
  | case1 => exact undisturbed_ok _
  | case2 sorted x rest e hinsert => exact (undisturbed_insert h x sorted).of_eq_error hinsert
  | case3 sorted x rest sorted' hinsert ih => exact ih

/-- **Sorting fails only as comparisons do.** -/
theorem undisturbed_sort (xs : List α) : Undisturbed (sort before xs) := by
  unfold sort
  split
  -- the leading run fails, or it is the sorted part that all others are put into
  next e hrun => exact (undisturbed_leadingRun h xs).of_eq_error hrun
  next run left _ => exact undisturbed_insertAll h run left

end

end Sorting

/-! ## Listings -/

namespace Listing

/-- Rows are told apart by kind first, which takes no comparison that could fail, and then by name.
-/
theorem undisturbed_before (a b : Row) : Undisturbed (Row.before a b) := by
  unfold Row.before
  simp only
  split
  next => exact undisturbed_ok _
  next =>
    split
    next => exact undisturbed_ok _
    next => exact Json.undisturbed_before _ _

/-- A row whose name cannot be drawn ends the lines, with a failure of its own. -/
theorem linesUpTo_ne_interrupted (rows : List Row) : (linesUpTo rows).2 ≠ some .interrupted := by
  fun_induction linesUpTo rows with
  | case1 => nofun
  | case2 name kind rest lines failure hrest ih => rwa [hrest] at ih
  | case3 => nofun

/-- No listing is kept from being shown by an interruption. -/
theorem reportedLines_ne_interrupted (rows : List Row) :
    (reportedLines rows).2 ≠ some .interrupted := by
  unfold reportedLines
  split
  next => nofun
  next =>
    split
    next => exact linesUpTo_ne_interrupted _
    next failure hsort =>
      rintro h
      cases h
      exact Sorting.undisturbed_sort undisturbed_before rows hsort

end Listing

/-! ## Operations of the client -/

namespace Client

variable (c : Client) (path : String)

/-- Trouble on the way is a failure of the service: it cannot be reached, or the time is up. -/
theorem faultFailure_ne_interrupted (f : Fault) : c.faultFailure f ≠ .interrupted := by
  cases f <;> nofun

/-- A refusal is worded from its body, and what is wrong with the body is no interruption. -/
theorem refusal_ne_interrupted (r : Response) : refusal r ≠ .interrupted := by
  unfold refusal
  split
  next body _ =>
    unfold reportFailure
    split
    next members =>
      split
      next => nofun
      next report _ =>
        split
        next => nofun
        next e hkey =>
          rintro rfl
          exact Json.undisturbed_key _ hkey
      next => nofun
    next => nofun
  next =>
    split <;> nofun

/-- **A request is interrupted where its reply says so**, and nowhere else. -/
theorem heeds_send (request : Request) : Heeds (c.send request) := by
  intro w
  rw [outcome_send]
  refine ⟨_, w.passed_exchanged request, ?_⟩
  simp only [Interrupted, List.mem_singleton, exists_eq_left]
  cases w.reply with
  | interrupted => exact iff_of_true rfl rfl
  | fault f =>
    exact iff_of_false (undisturbed_error (c.faultFailure_ne_interrupted f)) fun h => by cases h
  | response r =>
    refine iff_of_false ?_ fun h => by cases h
    rw [verdict_response]
    split
    next => exact undisturbed_error (refusal_ne_interrupted r)
    next => exact undisturbed_ok r

variable {c path}

/-- An operation is one request. -/
theorem heeds_perform {op : Operation} {more : List (String × String)} :
    Heeds (c.perform op path more) :=
  c.heeds_send _

theorem heeds_bodyOf (r : Response) : Heeds (bodyOf r) := by
  unfold bodyOf
  split
  next => exact heeds_pure _
  next => exact heeds_throw nofun

/-- Whether a response says yes is read off its body. -/
theorem heeds_agrees (r : Response) : Heeds (agrees r) :=
  (heeds_bodyOf r).bind fun _ => (heeds_lift (Json.undisturbed_get _ _)).bind fun _ =>
    heeds_pure _

/-- An operation whose answer is read and then looked into. -/
theorem heeds_perform_look {α : Type} {op : Operation} {more : List (String × String)}
    {look : Json → Except Failure α} (hlook : ∀ body, Undisturbed (look body)) :
    Heeds (c.perform op path more >>= fun r => bodyOf r >>= fun body => liftM (look body)) :=
  heeds_perform.bind fun r => (heeds_bodyOf r).bind fun body => heeds_lift (hlook body)

/-- GETFILESTATUS. -/
theorem heeds_status : Heeds (c.status path) :=
  heeds_perform_look fun _ => Json.undisturbed_sub _ _

/-- An interruption does not pass for an absence. -/
theorem heeds_orAbsent {ask : Shell Bool} (h : Heeds ask) : Heeds (orAbsent ask) := by
  refine h.tryCatch (fun e he => ?_) rfl
  split
  next => exact heeds_pure false
  next => exact heeds_throw he

/-- Whether there is something at a path: the status is asked for, and its absence is an answer too.
-/
theorem heeds_exists : Heeds (c.exists path) :=
  heeds_orAbsent (heeds_status.bind fun _ => heeds_pure _)

theorem undisturbed_isDirectoryStatus (status : Json) : Undisturbed (isDirectoryStatus status) := by
  refine (Json.undisturbed_get _ _).bind fun type => ?_
  split <;> exact undisturbed_ok _

theorem heeds_isDirectory : Heeds (c.isDirectory path) :=
  heeds_orAbsent (heeds_status.bind fun _ => heeds_lift (undisturbed_isDirectoryStatus _))

theorem undisturbed_entryOf (v : Json) : Undisturbed (entryOf v) := by
  refine (Json.undisturbed_get _ _).bind fun name => (Json.undisturbed_get _ _).bind fun type => ?_
  refine Undisturbed.bind ?_ fun _ => undisturbed_ok _
  unfold kindOf
  split
  next v =>
    refine (Json.undisturbed_key v).bind fun key => ?_
    split <;> exact undisturbed_ok _
  next => exact undisturbed_ok _

theorem undisturbed_entriesOf (body : Json) : Undisturbed (entriesOf body) := by
  refine (Json.undisturbed_get _ _).bind fun _ => (Json.undisturbed_get _ _).bind fun rows => ?_
  split
  next => exact undisturbed_ok _
  next v _ =>
    exact (Json.undisturbed_each v).bind fun rows => undisturbed_mapM undisturbed_entryOf rows

/-- LISTSTATUS. -/
theorem heeds_list : Heeds (c.list path) :=
  heeds_perform_look undisturbed_entriesOf

/-- MKDIRS. -/
theorem heeds_makeDirectories : Heeds (c.makeDirectories path) :=
  heeds_perform.bind heeds_agrees

theorem heeds_delete {recursive : Bool} : Heeds (c.delete path recursive) :=
  heeds_perform.bind heeds_agrees

theorem heeds_setReplication {n : Int} : Heeds (c.setReplication path n) :=
  heeds_perform.bind heeds_agrees

theorem undisturbed_location (r : Response) : Undisturbed (location r) := by
  unfold location
  split
  next => exact undisturbed_ok _
  next =>
    refine Undisturbed.bind ?_ fun _ => undisturbed_ok _
    unfold bodyLocation
    split
    next => exact Json.undisturbed_get _ _
    next => split <;> nofun

/-- CREATE and APPEND: the namenode is asked for a location, and the data is sent there. -/
theorem heeds_write {op : Operation} {more : List (String × String)} {data : Payload} :
    Heeds (c.write op path more data) := by
  refine heeds_perform.bind fun r => (heeds_lift (undisturbed_location r)).bind fun target => ?_
  split
  next => exact heeds_throw nofun
  next => exact (c.heeds_send _).bind fun _ => heeds_pure _

/-- OPEN. -/
theorem heeds_openFile : Heeds (c.openFile path) :=
  heeds_place.bind fun _ => heeds_perform.bind fun _ => heeds_pure _

/-- A stream breaks off in its own ways, of which an interruption is none. -/
theorem heeds_readAll_bind {α : Type} {d : Download} {size : Option Nat}
    {next : List Bytes × Option Failure → Shell α}
    (hnext : ∀ read, read.2 ≠ some .interrupted → Heeds (next read)) :
    Heeds (c.readAll d size >>= next) := by
  change Heeds (note (.closed d.stream) >>= fun _ => next (_, _))
  refine (heeds_note rfl).bind fun _ => hnext _ fun h => ?_
  obtain ⟨b, -, hb⟩ := Option.map_eq_some_iff.mp h
  exact c.faultFailure_ne_interrupted _ hb

/-- The replication nobody can name is made up for, an interruption is not. -/
theorem heeds_defaultReplication : Heeds (c.defaultReplication path) := by
  unfold defaultReplication
  split
  next => exact heeds_pure _
  next =>
    refine Heeds.tryCatch ?_ (fun e he => ?_) rfl
    · exact heeds_perform.bind fun r => (heeds_bodyOf r).bind fun _ =>
        (heeds_lift (Json.undisturbed_sub _ _)).bind fun _ =>
        (heeds_lift (Json.undisturbed_sub _ _)).bind fun _ => heeds_lift (Json.undisturbed_whole _)
    · split
      next => exact (heeds_warn _ _).bind fun _ => heeds_pure _
      next => exact heeds_throw he

theorem undisturbed_closedStatus (body : Json) : Undisturbed (closedStatus body) := by
  refine (Json.undisturbed_get _ _).bind fun blocks => ?_
  split
  next => exact undisturbed_ok _
  next => exact (Json.undisturbed_get _ _).bind fun _ => undisturbed_ok _

/-- GET_BLOCK_LOCATIONS. -/
theorem heeds_isClosed : Heeds (c.isClosed path) :=
  heeds_perform_look undisturbed_closedStatus

end Client

/-! ## The wait for a lease -/

namespace Lease

variable {c : Client} {path : String}

/-- The lease that is not given up is made up for, an interruption is not. -/
theorem heeds_requestOrWarn : Heeds (requestOrWarn c path) := by
  refine Heeds.tryCatch (Client.heeds_isClosed.bind fun _ => heeds_pure _) (fun e he => ?_) rfl
  split
  next => exact heeds_warn _ _
  next => exact heeds_throw he

/-- **The checks of a wait**, by induction on how many are left: one check, a reading of the clock
and a sleep stand in front of the rest. -/
theorem heeds_poll (timeout interval start : Float) (checks : Nat) :
    Heeds (poll (watch c path) timeout interval start checks) := by
  induction checks with
  | zero => exact heeds_pure none
  | succ checks ih =>
    refine Client.heeds_isClosed.bind fun closed => ?_
    cases closed with
    | true => exact (heeds_note rfl).bind fun _ => heeds_pure _
    | false =>
      refine heeds_now.bind fun now => ?_
      simp only
      split
      next => exact (heeds_note rfl).bind fun _ => (heeds_warn _ _).bind fun _ => heeds_pure _
      next => exact (heeds_sleep _).bind fun _ => ih

theorem heeds_await (patience : Patience) : Heeds (await c patience path) := by
  refine heeds_get.bind fun w => Heeds.bind ?_ fun outcome => ?_
  · exact (heeds_note rfl).bind fun _ => heeds_requestOrWarn.bind fun _ =>
      (heeds_note rfl).bind fun _ => heeds_now.bind fun _ => heeds_poll _ _ _ _
  · cases outcome with
    | some outcome => exact heeds_pure outcome
    | none => exact heeds_throw nofun

end Lease

/-! ## Transfers -/

namespace Transfer

variable {c : Client} {source : String}

theorem heeds_needFile : Heeds (needFile source) := by
  refine heeds_disk.bind fun d => ?_
  split
  next => exact heeds_pure _
  next => exact heeds_throw nofun

theorem heeds_sizeAt (place : Place) : Heeds (sizeAt place) :=
  heeds_disk.bind fun _ => heeds_pure _

/-- A file that is in the way, or cannot be made, is a failure of its own. -/
theorem heeds_createLocal (dest : String) (content : Bytes) : Heeds (createLocal dest content) := by
  refine heeds_disk.bind fun d => ?_
  split
  next => exact heeds_pure _
  next => exact heeds_throw nofun
  next => exact heeds_throw nofun

/-- **Uploads hand interruptions on**, at every one of their exchanges. -/
theorem heeds_put (remoteDir : String) : Heeds (put c source remoteDir) := by
  refine heeds_needFile.bind fun _ => Client.heeds_exists.bind fun there => ?_
  cases there with
  | true => exact heeds_throw nofun
  | false =>
    exact (heeds_onDisk _ _).bind fun place => Client.heeds_write.bind fun _ =>
      (heeds_sizeAt place).bind fun _ => heeds_pure _

/-- **Downloads hand interruptions on.** The stream that breaks off while it is read is no
interruption, so the failure with which the local file is kept is none either. -/
theorem heeds_get (localDir : String) : Heeds (get c source localDir) := by
  refine Client.heeds_exists.bind fun there => ?_
  cases there with
  | false => exact heeds_throw nofun
  | true =>
    refine heeds_disk.bind fun d => ?_
    simp only
    split
    next => exact heeds_throw nofun
    next =>
      refine Client.heeds_openFile.bind fun download => (heeds_createLocal _ _).bind fun _ => ?_
      refine Client.heeds_readAll_bind fun read hread => ?_
      refine (heeds_createLocal _ _).bind fun d => (heeds_setDisk d).bind fun _ => ?_
      cases hfailure : read.2 with
      | some f => exact heeds_throw fun hf => hread (hfailure.trans (congrArg some hf))
      | none => exact heeds_pure _

/-- **Additions hand interruptions on**, through the two answers that they make up for and the wait.
-/
theorem heeds_append (patience : Lease.Patience) (dest : String) :
    Heeds (append c patience source dest) := by
  refine heeds_needFile.bind fun _ => Client.heeds_exists.bind fun there => ?_
  cases there with
  | false => exact heeds_throw nofun
  | true =>
    exact Client.heeds_defaultReplication.bind fun _ => Client.heeds_setReplication.bind fun _ =>
      (heeds_onDisk _ _).bind fun place => Client.heeds_write.bind fun _ =>
      (heeds_sizeAt place).bind fun _ => (Lease.heeds_await patience).bind fun _ => heeds_pure _

end Transfer

end NamenodeShell
