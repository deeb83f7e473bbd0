import NamenodeShell.Proofs.Session.Commands

/-!
# What lines may do on the service

Two safety properties of a single line, over everything it exchanges and whatever the service
answers.

A command on an entry is confined to that entry (`actions_confined`): all that it asks the namenode
for is the path of the name that was typed, directly below the remote directory, and a name that
could mean another place gets it nowhere.

What changes something on the service comes after a question (`changes_checked`): a request with
another method than `get` is sent by four commands only, for the path that the first request of the
line has asked about, and only after the reply that its command needs. What has a reply of any other
kind ends the line's exchanges.
-/
set_option autoImplicit false

namespace NamenodeShell

open Shell

/-- The method of a request. -/
def Request.method : Request → Method
  | .operation op _ _ _ => op.method
  | .upload method _ _ _ => method

/-- The commands on an entry of the remote directory. -/
def Verb.onEntry : List Verb := [.mkdir, .put, .get, .append, .delete]

/-- The commands that change something on the service, by the reply they need. -/
def Verb.afterAbsence : List Verb := [.mkdir, .put]

@[inherit_doc Verb.afterAbsence]
def Verb.afterPresence : List Verb := [.append, .delete]

namespace Dealings

variable {c : Client} {p : String} {ops : List Operation} {xs : List Exchange}

/-- The namenode is asked for the one path. -/
theorem url_eq (h : Dealings c p ops xs) {x : Exchange} (hx : x ∈ xs) {op : Operation}
    {url : String} {query : List (String × String)} {timeout : Float}
    (hrequest : x.request = .operation op url query timeout) : url = c.url p := by
  rcases h.request_cases hx with ⟨op', more, -, -, heq⟩ | ⟨op', target, data, -, heq⟩
  · rw [hrequest] at heq
    cases heq
    rfl
  · rw [hrequest] at heq
    cases heq

/-- A request of the dealings has the method of an allowed operation. -/
theorem method_eq (h : Dealings c p ops xs) {x : Exchange} (hx : x ∈ xs) :
    ∃ op ∈ ops, x.request.method = op.method := by
  rcases h.request_cases hx with ⟨op, more, hop, -, heq⟩ | ⟨op, target, data, hop, heq⟩
  · exact ⟨op, hop, by rw [heq]; rfl⟩
  · exact ⟨op, hop, by rw [heq]; rfl⟩

/-- A creation says that nothing is to be replaced. -/
theorem overwrite_eq (h : Dealings c p ops xs) {x : Exchange} (hx : x ∈ xs) {url : String}
    {query : List (String × String)} {timeout : Float}
    (hrequest : x.request = .operation .create url query timeout) :
    query.lookup "overwrite" = some "false" := by
  rcases h.request_cases hx with ⟨op, more, -, hmore, heq⟩ | ⟨op, target, data, -, heq⟩
  · rw [hrequest] at heq
    cases heq
    rw [hmore rfl]
    rfl
  · rw [hrequest] at heq
    cases heq

end Dealings

namespace Checked

variable {c : Client} {p : String} {ops : List Operation} {good : Reply → Prop}
  {xs : List Exchange}

/-- What is exchanged behind the question is exchanged after a good reply. -/
theorem eq_nil_of_not_good (h : Checked c p ops good xs) {x : Exchange} {rest : List Exchange}
    (hxs : xs = x :: rest) (hx : ¬ good x.reply) : rest = [] := by
  rcases h with rfl | ⟨reply, ys, rfl, -, hgood⟩
  · cases hxs
  · cases hxs
    exact hgood.resolve_left hx

/-- A request with another method than `get` stands behind the question. -/
theorem of_change (h : Checked c p ops good xs) {x : Exchange} (hx : x ∈ xs)
    (hchange : x.request.method ≠ .get) :
    ∃ reply ys, xs = ⟨c.request .status p, reply⟩ :: ys ∧ x ∈ ys ∧ Dealings c p ops ys ∧
      good reply := by
  rcases h with rfl | ⟨reply, ys, rfl, hys, hgood⟩
  · cases hx
  · rcases List.mem_cons.mp hx with rfl | hx
    · exact absurd rfl hchange
    · have hne : ys ≠ [] := List.ne_nil_of_mem hx
      exact ⟨reply, ys, rfl, hx, hys, hgood.resolve_right hne⟩

/-- No creation of a checked line replaces anything. -/
theorem overwrite_eq (h : Checked c p ops good xs) {x : Exchange} (hx : x ∈ xs) {url : String}
    {query : List (String × String)} {timeout : Float}
    (hrequest : x.request = .operation .create url query timeout) :
    query.lookup "overwrite" = some "false" := by
  rcases h with rfl | ⟨reply, ys, rfl, hys, -⟩
  · cases hx
  · rcases List.mem_cons.mp hx with rfl | hx
    · cases hrequest
    · exact hys.overwrite_eq hx hrequest

end Checked

namespace Session

variable {s : Session}

/-! ## Confinement -/

/-- A command on an entry that is not given one gets nowhere. -/
theorem silent_run_of_no_entry {v : Verb} {args : List String} (hv : v ∈ Verb.onEntry)
    (h : v.entryName? args = none) : Silent (s.run v args) := by
  have hcomplain : Silent (s.unchanged (complain v)) := obeys_unchanged (obeys_complain v)
  unfold run
  split
  case h_14 => exact hcomplain
  all_goals first | exact absurd hv (by decide) | cases h

/-- **A command on an entry is confined to it.** Unless nothing is exchanged, the name that was
typed is a bare one, and the namenode is asked for one path only: the normal one of that name right
below the remote directory. Data is sent only where the namenode has wanted it. -/
theorem actions_confined {cwd line : String} {v : Verb} (hremote : s.remote = .path cwd)
    (hcwd : Path.isRooted cwd.toList = true) (hv : v ∈ Verb.onEntry)
    (hline : (Command.ofLine line).name = v.word) (w : Surroundings) :
    w.exchanges (outcome (s.execute line) w).2 = [] ∨
      ∃ name p, v.entryName? (Command.ofLine line).args = some name ∧
        (name ≠ "" ∧ name ≠ "." ∧ name ≠ ".." ∧ '/' ∉ name.toList) ∧
        (Path.IsNormal p ∧ Path.base p = name ∧ Path.parent p = Path.remoteChild cwd ".") ∧
        (∀ x ∈ w.exchanges (outcome (s.execute line) w).2, ∀ op url query timeout,
          x.request = .operation op url query timeout → url = s.client.url p) ∧
        Dealings s.client p v.operations (w.exchanges (outcome (s.execute line) w).2) := by
  cases hentry : v.entryName? (Command.ofLine line).args with
  | none => exact Or.inl ((follows_execute hline (silent_run_of_no_entry hv hentry)).exchanges w)
  | some name =>
    cases hbare : Path.isBare name with
    | false => exact Or.inl ((follows_execute hline (silent_run_entry hentry hbare)).exchanges w)
    | true =>
      have hname := Path.isBare_iff.mp hbare
      obtain ⟨hnothing, hdot, hdots⟩ := hname.ne_texts
      have hstatus : Operation.status ∈ v.operations := by
        cases v <;> first | exact List.mem_cons_self | exact absurd hv (by decide)
      -- The question in front is for the same path, and so one of the dealings too.
      have hdealings : Dealings s.client (Path.remoteChild cwd name) v.operations
          (w.exchanges (outcome (s.execute line) w).2) := by
        have hchecked := (follows_execute hline (follows_run_entry (s := s) hentry)).exchanges w
        rw [hremote] at hchecked
        exact hchecked.dealings hstatus
      refine Or.inr ⟨name, Path.remoteChild cwd name, rfl,
        ⟨hnothing, hdot, hdots, hname.slash_free⟩, Path.remoteChild_bare hcwd hbare, ?_, hdealings⟩
      intro x hx op url query timeout hrequest
      exact hdealings.url_eq hx hrequest

/-- A line that removes an entry, with nobody to answer: one question goes out. -/
theorem actions_confined_sample :
    Path.isRooted "/user/alice".toList = true ∧ Verb.delete ∈ Verb.onEntry ∧
      (Command.ofLine "delete \"n\"").name = Verb.delete.word ∧
      (unanswered.exchanges (outcome (sample.execute "delete \"n\"") unanswered).2).length = 1 ∧
      ∃ name p, Verb.entryName? .delete (Command.ofLine "delete \"n\"").args = some name ∧
        (name ≠ "" ∧ name ≠ "." ∧ name ≠ ".." ∧ '/' ∉ name.toList) ∧
        (Path.IsNormal p ∧ Path.base p = name ∧
          Path.parent p = Path.remoteChild "/user/alice" ".") ∧
        Dealings sample.client p Verb.delete.operations
          (unanswered.exchanges (outcome (sample.execute "delete \"n\"") unanswered).2) := by
  have hline : (Command.ofLine "delete \"n\"").name = Verb.delete.word := by
    decide +kernel
  have hone : (unanswered.exchanges
      (outcome (sample.execute "delete \"n\"") unanswered).2).length = 1 := by
    decide +kernel
  refine ⟨rfl, by decide, hline, hone, ?_⟩
  rcases actions_confined (s := sample) rfl rfl (by decide) hline unanswered with
    hnil | ⟨name, p, hentry, hname, hp, -, hdealings⟩
  · rw [hnil] at hone
    cases hone
  · exact ⟨name, p, hentry, hname, hp, hdealings⟩

/-! ## Asking before changing -/

/-- A line exchanges nothing, or asks first as its command does. -/
theorem checked_execute (s : Session) (line : String) (w : Surroundings) :
    w.exchanges (outcome (s.execute line) w).2 = [] ∨
      ∃ v p, (Command.ofLine line).name = Verb.word v ∧ Checked s.client p v.operations v.Needs
        (w.exchanges (outcome (s.execute line) w).2) := by
  by_cases h : ∃ v : Verb, (Command.ofLine line).name = v.word
  · obtain ⟨v, hv⟩ := h
    obtain ⟨p, hp⟩ := s.follows_run v (Command.ofLine line).args
    exact Or.inr ⟨v, p, hv, (follows_execute hv hp).exchanges w⟩
  · exact Or.inl ((silent_execute fun v hv => h ⟨v, hv⟩).exchanges w)

end Session

namespace Verb

/-- The commands with an operation that is not sent with `get`. -/
theorem mem_of_method_ne {v : Verb} {op : Operation} (hop : op ∈ v.operations)
    (h : op.method ≠ .get) : v ∈ afterAbsence ++ afterPresence := by
  revert op
  cases v <;> simp [operations, afterAbsence, afterPresence, Operation.method]

/-- `mkdir` and `put` need a reply that nothing is there, -/
theorem needs_of_afterAbsence {v : Verb} (hv : v ∈ afterAbsence) {reply : Reply} :
    v.Needs reply ↔ reply.IsNotFound := by
  cases v <;> first | exact Iff.rfl | exact absurd hv (by decide)

/-- `append` and `delete` one that something is. -/
theorem needs_of_afterPresence {v : Verb} (hv : v ∈ afterPresence) {reply : Reply} :
    v.Needs reply ↔ reply.IsFound := by
  cases v <;> first | exact Iff.rfl | exact absurd hv (by decide)

end Verb

namespace Session

/-- **Nothing is changed that has not been asked about.** A request with another method than `get`
belongs to one of four commands. The first exchange of its line is then the question for the path
that all later requests to the namenode are for as well, and the reply to it is the one that the
command needs; after any other reply the question has been all. No creation replaces anything. -/
theorem changes_checked (s : Session) (line : String) (w : Surroundings) :
    (∀ x ∈ w.exchanges (outcome (s.execute line) w).2, x.request.method ≠ .get →
      ∃ v ∈ Verb.afterAbsence ++ Verb.afterPresence, (Command.ofLine line).name = Verb.word v ∧
        ∃ p reply rest, w.exchanges (outcome (s.execute line) w).2 =
            ⟨s.client.request .status p, reply⟩ :: rest ∧
          (∀ y ∈ rest, ∀ op url query timeout,
            y.request = .operation op url query timeout → url = s.client.url p) ∧
          Dealings s.client p v.operations rest ∧
          (v ∈ Verb.afterAbsence → reply.IsNotFound) ∧
          (v ∈ Verb.afterPresence → reply.IsFound)) ∧
    (∀ v x rest, (Command.ofLine line).name = Verb.word v →
      w.exchanges (outcome (s.execute line) w).2 = x :: rest →
      (v ∈ Verb.afterAbsence ∧ ¬ x.reply.IsNotFound ∨
        v ∈ Verb.afterPresence ∧ ¬ x.reply.IsFound) → rest = []) ∧
    ∀ x ∈ w.exchanges (outcome (s.execute line) w).2, ∀ url query timeout,
      x.request = .operation .create url query timeout →
        query.lookup "overwrite" = some "false" := by
  rcases checked_execute s line w with hnil | ⟨v, p, hline, hchecked⟩
  · rw [hnil]
    refine ⟨?_, ?_, ?_⟩
    · intro x hx
      cases hx
    · intro v x rest _ hxs
      cases hxs
    · intro x hx
      cases hx
  refine ⟨?_, ?_, ?_⟩
  · intro x hx hchange
    obtain ⟨reply, rest, hxs, hrest, hdealings, hgood⟩ := hchecked.of_change hx hchange
    obtain ⟨op, hop, hmethod⟩ := hdealings.method_eq hrest
    rw [hmethod] at hchange
    refine ⟨v, Verb.mem_of_method_ne hop hchange, hline, p, reply, rest, hxs, ?_, hdealings, ?_, ?_⟩
    · intro y hy op url query timeout hrequest
      exact hdealings.url_eq hy hrequest
    · intro hv
      exact (Verb.needs_of_afterAbsence hv).mp hgood
    · intro hv
      exact (Verb.needs_of_afterPresence hv).mp hgood
  · intro v' x rest hline' hxs hreply
    -- A line names one command.
    obtain rfl : v' = v := Verb.word_injective (hline'.symm.trans hline)
    apply hchecked.eq_nil_of_not_good hxs
    intro hneeds
    rcases hreply with ⟨hv, hreply⟩ | ⟨hv, hreply⟩
    · exact hreply ((Verb.needs_of_afterAbsence hv).mp hneeds)
    · exact hreply ((Verb.needs_of_afterPresence hv).mp hneeds)
  · intro x hx url query timeout hrequest
    exact hchecked.overwrite_eq hx hrequest

end Session

end NamenodeShell
