import NamenodeShell.Proofs.Replies
import NamenodeShell.Proofs.Shell.Laws
import NamenodeShell.Transfer

/-!
# What operations obey

Each operation of the client sends one request and reads the reply. So it obeys every law that
allows to idle and allows that request, and it is seen here once, whatever the law is about: the
language of what is exchanged, or the disk. The wait for a lease sends the same request over and
over, so one request has to be allowed for it too, however many checks there are.
-/
set_option autoImplicit false

namespace NamenodeShell

open Shell

variable {T : Surroundings → Surroundings → Prop} {c : Client} {path : String}

namespace Client

/-- A request that is sent is one exchange. -/
theorem obeys_send {request : Request} (h : Allows T request) : Obeys T (c.send request) := by
  intro w
  rw [outcome_send]
  exact h w

/-- An operation is one request. -/
theorem obeys_perform {op : Operation} {more : List (String × String)}
    (h : Allows T (c.request op path more)) : Obeys T (c.perform op path more) :=
  obeys_send h

/-- GETFILESTATUS, by which it is asked whether there is something at a path. -/
theorem obeys_exists (h : Allows T (c.request .status path)) : Obeys T (c.exists path) := by
  intro w
  rw [outcome_exists]
  exact h w

/-- GETFILESTATUS, by which it is asked what that is. -/
theorem obeys_isDirectory (h : Allows T (c.request .status path)) :
    Obeys T (c.isDirectory path) := by
  intro w
  rw [outcome_isDirectory]
  exact h w

variable [Idle T]

theorem obeys_bodyOf (r : Response) : Obeys T (bodyOf r) :=
  obeys_of_still fun w => by rw [outcome_bodyOf]

/-- What is read off a body is not asked for. -/
theorem obeys_agrees (r : Response) : Obeys T (agrees r) :=
  obeys_bind (obeys_bodyOf r) fun _ => obeys_bind (obeys_lift _) fun _ => obeys_pure _

/-- An operation whose answer is read and then looked into. -/
theorem obeys_perform_look {α : Type} {op : Operation} {more : List (String × String)}
    (h : Allows T (c.request op path more)) (look : Json → Except Failure α) :
    Obeys T (c.perform op path more >>= fun r => bodyOf r >>= fun body => liftM (look body)) :=
  obeys_bind (obeys_perform h) fun r => obeys_bind (obeys_bodyOf r) fun _ => obeys_lift _

/-- LISTSTATUS. -/
theorem obeys_list (h : Allows T (c.request .list path)) : Obeys T (c.list path) :=
  obeys_perform_look h _

/-- MKDIRS. -/
theorem obeys_makeDirectories (h : Allows T (c.request .makeDirectory path)) :
    Obeys T (c.makeDirectories path) :=
  obeys_bind (obeys_perform h) obeys_agrees

/-- DELETE, which says whether it goes down into directories. -/
theorem obeys_delete {recursive : Bool}
    (h : Allows T (c.request .delete path
      [("recursive", if recursive then "true" else "false")])) :
    Obeys T (c.delete path recursive) :=
  obeys_bind (obeys_perform h) obeys_agrees

/-- SETREPLICATION, with the number. -/
theorem obeys_setReplication {n : Int}
    (h : Allows T (c.request .setReplication path [("replication", toString n)])) :
    Obeys T (c.setReplication path n) :=
  obeys_bind (obeys_perform h) obeys_agrees

/-- OPEN. -/
theorem obeys_openFile (h : Allows T (c.request .openFile path)) : Obeys T (c.openFile path) :=
  obeys_bind obeys_place fun _ => obeys_bind (obeys_perform h) fun _ => obeys_pure _

/-- GETSERVERDEFAULTS, unless the client was given a replication. What is made up for is warned of.
-/
theorem obeys_defaultReplication (h : Allows T (c.request .serverDefaults path)) :
    Obeys T (c.defaultReplication path) := by
  unfold defaultReplication
  split
  next => exact obeys_pure _
  next =>
    refine obeys_tryCatch ?_ fun e => ?_
    · exact obeys_bind (obeys_perform h) fun r => obeys_bind (obeys_bodyOf r) fun _ =>
        obeys_bind (obeys_lift _) fun _ => obeys_bind (obeys_lift _) fun _ => obeys_lift _
    · split
      next => exact obeys_bind (obeys_warn _ _) fun _ => obeys_pure _
      next => exact obeys_throw e

/-- GET_BLOCK_LOCATIONS. -/
theorem obeys_isClosed (h : Allows T (c.request .blockLocations path)) :
    Obeys T (c.isClosed path) :=
  obeys_perform_look h _

end Client

variable [Idle T]

/-! ## Waiting -/

namespace Lease

/-- The request for the lease is the same look at the blocks, and a warning if it fails. -/
theorem obeys_requestOrWarn (h : Allows T (c.request .blockLocations path)) :
    Obeys T (requestOrWarn c path) := by
  refine obeys_tryCatch (obeys_bind (Client.obeys_isClosed h) fun _ => obeys_pure _) fun e => ?_
  split
  next => exact obeys_warn _ _
  next => exact obeys_throw e

theorem obeys_enter (phase : Phase) : Obeys T ((watch c path).enter phase) :=
  obeys_note rfl

/-- However many checks there are, they all send the one request. -/
theorem obeys_poll (h : Allows T (c.request .blockLocations path))
    (timeout interval start : Float) (checks : Nat) :
    Obeys T (poll (watch c path) timeout interval start checks) := by
  induction checks with
  | zero => exact obeys_pure none
  -- one check, one reading of the clock, one sleep, and the rest by induction
  | succ checks ih =>
    refine obeys_bind (Client.obeys_isClosed h) fun closed => ?_
    cases closed with
    | true => exact obeys_bind (obeys_enter _) fun _ => obeys_pure _
    | false =>
      refine obeys_bind obeys_now fun now => ?_
      simp only
      split
      next =>
        exact obeys_bind (obeys_enter _) fun _ =>
          obeys_bind (obeys_warn _ _) fun _ => obeys_pure _
      next => exact obeys_bind (obeys_sleep _) fun _ => ih

/-- **A wait sends one request over and over**, and idles in between. -/
theorem obeys_await (h : Allows T (c.request .blockLocations path)) (patience : Patience) :
    Obeys T (await c patience path) := by
  refine obeys_bind obeys_get fun w => obeys_bind ?_ fun outcome => ?_
  · exact obeys_bind (obeys_enter _) fun _ => obeys_bind (obeys_requestOrWarn h) fun _ =>
      obeys_bind (obeys_enter _) fun _ => obeys_bind obeys_now fun _ => obeys_poll h _ _ _ _
  · cases outcome with
    | some outcome => exact obeys_pure outcome
    | none => exact obeys_throw _

end Lease

/-! ## The local side of transfers -/

namespace Transfer

theorem outcome_needFile (path : String) (w : Surroundings) :
    outcome (needFile path) w =
      (if w.disk.isFile path then .ok () else .error (.absent path), w) := by
  unfold needFile
  rw [outcome_bind_of_ok (outcome_disk w)]
  split <;> rfl

theorem obeys_needFile (path : String) : Obeys T (needFile path) :=
  obeys_of_still fun w => by rw [outcome_needFile]

theorem obeys_sizeAt (place : Place) : Obeys T (sizeAt place) :=
  obeys_bind obeys_disk fun _ => obeys_pure _

/-- Creating a file looks at the disk; what is written comes with `setDisk`. -/
theorem obeys_createLocal (dest : String) (content : Bytes) :
    Obeys T (createLocal dest content) := by
  refine obeys_bind obeys_disk fun d => ?_
  split
  next => exact obeys_pure _
  next => exact obeys_throw _
  next => exact obeys_throw _

end Transfer

end NamenodeShell
