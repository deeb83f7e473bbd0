import NamenodeShell.Proofs.Operations

/-!
# Dealings with a path

What the operations of a client exchange with the service. All of them deal with one path: each
request that goes to the namenode is for that path, and data is sent only right after an answer that
accepts a write and names the location the data goes to. `Dealings` is the language of such
exchanges, for the operations that are allowed. It is closed, so whatever is put together from the
client's operations on a path deals with that path: the transfers do, and so does the wait for a
lease, however many checks it takes.
-/
set_option autoImplicit false

namespace NamenodeShell

open Shell

/-- What the request of an operation says beyond the operation: a creation, that nothing is to be
replaced. -/
def Operation.Admits (op : Operation) (more : List (String × String)) : Prop :=
  op = .create → more = [("overwrite", "false")]

/-- **Dealings of a client with a path** by some operations: requests for the path, and data sent to
the location that the answer before has named. -/
inductive Dealings (c : Client) (p : String) (ops : List Operation) : List Exchange → Prop
  | nil : Dealings c p ops []
  | operation {op : Operation} {more : List (String × String)} {reply : Reply}
      {xs : List Exchange} (hop : op ∈ ops) (hmore : op.Admits more) (rest : Dealings c p ops xs) :
      Dealings c p ops (⟨c.request op p more, reply⟩ :: xs)
  | write {op : Operation} {more : List (String × String)} {r : Response} {target : Json}
      {data : Payload} {reply : Reply} {xs : List Exchange} (hop : op ∈ ops)
      (hmore : op.Admits more) (hr : r.isRefusal = false)
      (hlocation : Client.location r = .ok (some target)) (rest : Dealings c p ops xs) :
      Dealings c p ops (⟨c.request op p more, .response r⟩ ::
        ⟨.upload op.method target data c.timeout, reply⟩ :: xs)

namespace Dealings

variable {c : Client} {p : String} {ops ops' : List Operation} {xs ys : List Exchange}

/-- Dealings one after the other are dealings. -/
theorem append (h : Dealings c p ops xs) (h' : Dealings c p ops ys) :
    Dealings c p ops (xs ++ ys) := by
  induction h with
  | nil => exact h'
  | operation hop hmore _ ih => exact .operation hop hmore ih
  | write hop hmore hr hlocation _ ih => exact .write hop hmore hr hlocation ih

instance : Closed (Dealings c p ops) where
  nil := .nil
  append := append

/-- Dealings by some operations are dealings by more. -/
theorem mono (h : Dealings c p ops xs) (hsub : ∀ op ∈ ops, op ∈ ops') :
    Dealings c p ops' xs := by
  induction h with
  | nil => exact .nil
  | operation hop hmore _ ih => exact .operation (hsub _ hop) hmore ih
  | write hop hmore hr hlocation _ ih => exact .write (hsub _ hop) hmore hr hlocation ih

/-- Every request of the dealings is for the path or an upload. -/
theorem request_cases (h : Dealings c p ops xs) {x : Exchange} (hx : x ∈ xs) :
    (∃ op more, op ∈ ops ∧ op.Admits more ∧ x.request = c.request op p more) ∨
      ∃ op target data, op ∈ ops ∧ x.request = .upload op.method target data c.timeout := by
  induction h with
  | nil => cases hx
  | operation hop hmore _ ih =>
    rcases List.mem_cons.mp hx with rfl | hx
    · exact Or.inl ⟨_, _, hop, hmore, rfl⟩
    · exact ih hx
  | write hop hmore hr hlocation _ ih =>
    rcases List.mem_cons.mp hx with rfl | hx
    · exact Or.inl ⟨_, _, hop, hmore, rfl⟩
    · rcases List.mem_cons.mp hx with rfl | hx
      · exact Or.inr ⟨_, _, _, hop, rfl⟩
      · exact ih hx

end Dealings

namespace Client

variable {c : Client} {p : String} {ops : List Operation}

/-- An operation among the allowed ones is allowed. -/
theorem allows_request {op : Operation} {more : List (String × String)} (hop : op ∈ ops)
    (hmore : op.Admits more) : Allows (Within (Dealings c p ops)) (c.request op p more) :=
  fun w => ⟨_, w.passed_operation c op p more, .operation hop hmore .nil⟩

/-- An operation of which nothing more has to be said is allowed if it is among the allowed ones. -/
theorem allows_of_mem {op : Operation} {more : List (String × String)} (hop : op ∈ ops)
    (hcreate : op ≠ .create) : Allows (Within (Dealings c p ops)) (c.request op p more) :=
  allows_request hop fun h => absurd h hcreate

/-- To read a stream asks for nothing. -/
theorem silent_readAll (d : Download) (size : Option Nat) : Silent (c.readAll d size) :=
  obeys_bind (silent_note rfl) fun _ => obeys_pure _

/-! ## Writing -/

/-- **The first step of a write**: what it comes to, and where the data is to go. -/
theorem outcome_write (c : Client) (op : Operation) (path : String)
    (more : List (String × String)) (data : Payload) (w : Surroundings) :
    outcome (c.write op path more data) w =
      match (c.verdict w.reply).bind location with
      | .error e => (.error e, w.exchanged (c.request op path more))
      | .ok none => (.error (.noLocation op.word path), w.exchanged (c.request op path more))
      | .ok (some target) =>
        let w' := w.exchanged (c.request op path more)
        let upload := .upload op.method target data c.timeout
        ((c.verdict w'.reply).map fun _ => (), w'.exchanged upload) := by
  unfold write
  rw [outcome_bind, outcome_perform]
  cases c.verdict w.reply with
  | error e => rfl
  | ok r =>
    simp only [Except.bind]
    rw [outcome_bind, outcome_lift]
    cases location r with
    | error e => rfl
    | ok target =>
      cases target with
      | none => rfl
      | some target =>
        simp only
        rw [outcome_bind, outcome_send]
        cases c.verdict (w.exchanged (c.request op path more)).reply <;> rfl

/-- **A write deals with its path**: one request, and data only where that was answered by a
location. -/
theorem follows_write {op : Operation} {more : List (String × String)} (hop : op ∈ ops)
    (hmore : op.Admits more) (data : Payload) :
    Follows (Dealings c p ops) (c.write op p more data) := by
  intro w
  have hfirst := w.passed_operation c op p more
  rw [outcome_write]
  split
  -- The answer is a failure or names no location, and no data is sent.
  next => exact ⟨_, hfirst, .operation hop hmore .nil⟩
  next => exact ⟨_, hfirst, .operation hop hmore .nil⟩
  next target hlocation =>
    cases hverdict : c.verdict w.reply with
    | error e => rw [hverdict] at hlocation; cases hlocation
    | ok r =>
      rw [hverdict] at hlocation
      obtain ⟨hreply, hr⟩ := verdict_eq_ok hverdict
      rw [hreply] at hfirst
      have hsecond := (w.exchanged (c.request op p more)).passed_exchanged
        (.upload op.method target data c.timeout)
      obtain ⟨data', hdata⟩ := (w.exchanged (c.request op p more)).taken_upload
        op.method target data c.timeout
      rw [hdata] at hsecond
      exact ⟨_, hfirst.trans hsecond, .write hop hmore hr hlocation .nil⟩

/-- CREATE says that nothing is to be replaced, -/
theorem follows_create (h : .create ∈ ops) (data : Payload) :
    Follows (Dealings c p ops) (c.create p data) :=
  follows_write h (fun _ => rfl) data

/-- and APPEND has nothing to say of that. -/
theorem follows_append (h : .append ∈ ops) (data : Payload) :
    Follows (Dealings c p ops) (c.append p data) :=
  follows_write h (fun hop => by cases hop) data

end Client

end NamenodeShell
