import NamenodeShell.Proofs.Dealings

/-!
# Asking first

`Checked` is the language of those who ask what is at a path before they do anything else, and go on
only after the answer they need: nothing at all, or the question, and behind it dealings with the
path that was asked about if the reply was a good one and nothing otherwise. The transfers speak it:
an upload needs to hear that its destination is not there, a download and an addition that the
remote file is.
-/
set_option autoImplicit false

namespace NamenodeShell

open Shell

/-- **Exchanges that begin by asking for a path**, and go on only after such a reply as is good. -/
def Checked (c : Client) (p : String) (ops : List Operation) (good : Reply → Prop)
    (xs : List Exchange) : Prop :=
  xs = [] ∨ ∃ reply ys, xs = ⟨c.request .status p, reply⟩ :: ys ∧ Dealings c p ops ys ∧
    (good reply ∨ ys = [])

namespace Checked

variable {c : Client} {p : String} {ops : List Operation} {good : Reply → Prop}
  {xs : List Exchange}

theorem nil : Checked c p ops good [] := Or.inl rfl

theorem dealings (h : Checked c p ops good xs) (hstatus : .status ∈ ops) :
    Dealings c p ops xs := by
  rcases h with rfl | ⟨reply, ys, rfl, hys, -⟩
  · exact .nil
  · exact .operation hstatus (fun hop => by cases hop) hys

/-- A computation that asks for a path, and after one of the two answers does nothing more. -/
theorem of_exists {α : Type} {next : Bool → Shell α} {b : Bool}
    (hgood : ∀ reply, c.presence reply = .ok b → good reply)
    (hnext : Follows (Dealings c p ops) (next b)) (hother : Silent (next !b)) :
    Follows (Checked c p ops good) (c.exists p >>= next) := by
  intro w
  have hfirst := w.passed_operation c .status p []
  rw [outcome_bind, Client.outcome_exists]
  cases hreply : c.presence w.reply with
  | error e => exact ⟨_, hfirst, Or.inr ⟨w.reply, [], rfl, .nil, Or.inr rfl⟩⟩
  | ok answer =>
    by_cases hanswer : answer = b
    · subst hanswer
      obtain ⟨ys, hys, hdealings⟩ := hnext (w.exchanged (c.request .status p))
      exact ⟨_, hfirst.trans hys,
        Or.inr ⟨w.reply, ys, rfl, hdealings, Or.inl (hgood _ hreply)⟩⟩
    · obtain rfl : answer = !b := Bool.eq_not.mpr hanswer
      obtain ⟨ys, hys, rfl⟩ := hother (w.exchanged (c.request .status p))
      exact ⟨_, hfirst.trans hys, Or.inr ⟨w.reply, [], rfl, .nil, Or.inr rfl⟩⟩

/-- A computation that asks whether a path is a directory and then deals with it. -/
theorem of_isDirectory {α : Type} {next : Bool → Shell α}
    (hnext : ∀ b, Follows (Dealings c p ops) (next b)) :
    Follows (Checked c p ops fun _ => True) (c.isDirectory p >>= next) := by
  intro w
  have hfirst := w.passed_operation c .status p []
  rw [outcome_bind, Client.outcome_isDirectory]
  cases c.directory w.reply with
  | error e => exact ⟨_, hfirst, Or.inr ⟨w.reply, [], rfl, .nil, Or.inr rfl⟩⟩
  | ok b =>
    obtain ⟨ys, hys, hdealings⟩ := hnext b (w.exchanged (c.request .status p))
    exact ⟨_, hfirst.trans hys, Or.inr ⟨w.reply, ys, rfl, hdealings, Or.inl trivial⟩⟩

end Checked

/-! ## Transfers -/

namespace Transfer

variable (c : Client)

/-- An upload asks for its destination, and creates it after it was not found. -/
theorem follows_put (source remoteDir : String) :
    Follows (Checked c (Path.remoteChild remoteDir (Path.base source)) [.status, .create]
      Reply.IsNotFound) (put c source remoteDir) := by
  refine Silent.bind (obeys_needFile source) Checked.nil fun _ => ?_
  refine Checked.of_exists (b := false) (fun _ => Client.presence_eq_false.mp) ?_ (obeys_throw _)
  refine obeys_bind (obeys_onDisk _ _) fun place => ?_
  refine obeys_bind (Client.follows_create (by simp) _) fun _ => ?_
  exact obeys_bind (obeys_sizeAt place) fun _ => obeys_pure _

/-- A download asks for its source, and opens it after it was found. -/
theorem follows_get (source localDir : String) :
    Follows (Checked c source [.status, .openFile] Reply.IsFound) (get c source localDir) := by
  refine Checked.of_exists (b := true) (fun _ => Client.presence_eq_true.mp) ?_ (obeys_throw _)
  refine obeys_bind obeys_disk fun d => ?_
  simp only
  split
  next => exact obeys_throw _
  next =>
    refine obeys_bind (Client.obeys_openFile (Client.allows_of_mem (by simp) (by decide)))
      fun download => ?_
    refine obeys_bind (obeys_createLocal _ _) fun _ => ?_
    refine obeys_bind ((Client.silent_readAll _ _).follows .nil) fun read => ?_
    refine obeys_bind (obeys_createLocal _ _) fun d => ?_
    refine obeys_bind ((silent_setDisk d).follows .nil) fun _ => ?_
    cases read.2 with
    | some f => exact obeys_throw f
    | none => exact obeys_pure _

/-- An addition asks for the file it goes to, and does the rest after that was found. -/
theorem follows_append (patience : Lease.Patience) (source dest : String) :
    Follows (Checked c dest
      [.status, .serverDefaults, .setReplication, .append, .blockLocations] Reply.IsFound)
      (append c patience source dest) := by
  refine Silent.bind (obeys_needFile source) Checked.nil fun _ => ?_
  refine Checked.of_exists (b := true) (fun _ => Client.presence_eq_true.mp) ?_ (obeys_throw _)
  have hallows : ∀ {op more}, op ∈ [.serverDefaults, .setReplication, .blockLocations] →
      Allows (Within (Dealings c dest
        [.status, .serverDefaults, .setReplication, .append, .blockLocations]))
        (c.request op dest more) := by
    intro op more hop
    refine Client.allows_of_mem ?_ ?_ <;> revert hop <;> cases op <;> decide
  refine obeys_bind (Client.obeys_defaultReplication (hallows (by simp))) fun replication => ?_
  refine obeys_bind (Client.obeys_setReplication (hallows (by simp))) fun _ => ?_
  refine obeys_bind (obeys_onDisk _ _) fun place => ?_
  refine obeys_bind (Client.follows_append (by simp) _) fun _ => ?_
  refine obeys_bind (obeys_sizeAt place) fun size => ?_
  exact obeys_bind (Lease.obeys_await (hallows (by simp)) patience) fun _ => obeys_pure _

end Transfer

end NamenodeShell
