import NamenodeShell.Lease.Basic

/-!
# Rounds of a wait

What a wait does, in any world whose computations read and change a state and may fail. A *round* is
a check that finds the file open, a reading of the clock that does not end the wait, and a sleep.
`Opens`, `Rounds` and `Ends` list the calls of a wait in their order, and nothing stands between
them: in `Ends.closed` the clock is not read, and the state is the one that the check has left.

The closing checks are counted in the program, and a wait need not come to an end. `poll_cases` is
the run lemma, by induction on the checks: some rounds are made, and then the checks are used up, or
the wait ends, or a check fails. What a wait comes to when there are enough checks is `ComesTo`, and
`comesTo_ok_iff` and `comesTo_error_iff` say when.
-/
set_option autoImplicit false

namespace NamenodeShell.Lease

section

variable {σ ε α β : Type}

/-- What a computation leads to from a state: how it ends, and the state it leaves. -/
def after (act : ExceptT ε (StateM σ) α) (s : σ) : Except ε α × σ :=
  act.run.run s

/-- A value is there at once. -/
theorem after_pure (a : α) (s : σ) : after (pure a : ExceptT ε (StateM σ) α) s = (.ok a, s) := rfl

/-- What follows begins in the state that has been left, -/
theorem after_bind_of_ok {act : ExceptT ε (StateM σ) α} {next : α → ExceptT ε (StateM σ) β}
    {s s' : σ} {a : α} (h : after act s = (.ok a, s')) :
    after (act >>= next) s = after (next a) s' := by
  unfold after at h ⊢
  rw [ExceptT.run_bind, StateT.run_bind, h]
  rfl

/-- and is not begun after a failure. -/
theorem after_bind_of_error {act : ExceptT ε (StateM σ) α} {next : α → ExceptT ε (StateM σ) β}
    {s s' : σ} {e : ε} (h : after act s = (.error e, s')) :
    after (act >>= next) s = (.error e, s') := by
  unfold after at h ⊢
  rw [ExceptT.run_bind, StateT.run_bind, h]
  rfl

end

section

variable {σ ε τ : Type} [Sub τ] [LE τ] [LT τ] [DecidableLE τ] [DecidableLT τ]
  {watch : Watch (ExceptT ε (StateM σ)) τ} {timeout interval start : τ} {s s' s'' : σ}

/-- **A steady watch**: nothing of it fails but the request and the checks. -/
structure Steady (watch : Watch (ExceptT ε (StateM σ)) τ) : Prop where
  enter : ∀ phase s, ∃ s', after (watch.enter phase) s = (.ok (), s')
  now : ∀ s, ∃ reading s', after watch.now s = (.ok reading, s')
  sleep : ∀ seconds s, ∃ s', after (watch.sleep seconds) s = (.ok (), s')
  giveUp : ∀ elapsed s, ∃ s', after (watch.giveUp elapsed) s = (.ok (), s')

/-! ## The parts of a wait -/

/-- **A wait opens**: the lease is asked for in its phase, and the polling starts at a reading. -/
inductive Opens (watch : Watch (ExceptT ε (StateM σ)) τ) : τ → σ → σ → Prop
  | mk {s s₁ s₂ s₃ s' : σ} {start : τ}
      (requesting : after (watch.enter .requesting) s = (.ok (), s₁))
      (request : after watch.request s₁ = (.ok (), s₂))
      (polling : after (watch.enter .polling) s₂ = (.ok (), s₃))
      (now : after watch.now s₃ = (.ok start, s')) : Opens watch start s s'

/-- **A wait is refused**: the request fails otherwise than by a refusal. -/
inductive Refused (watch : Watch (ExceptT ε (StateM σ)) τ) : ε → σ → σ → Prop
  | mk {s s₁ s' : σ} {e : ε} (requesting : after (watch.enter .requesting) s = (.ok (), s₁))
      (request : after watch.request s₁ = (.error e, s')) : Refused watch e s s'

/-- **A round**, with the reading of the clock in it. -/
inductive Round (watch : Watch (ExceptT ε (StateM σ)) τ) (timeout interval start : τ) :
    τ → σ → σ → Prop
  | mk {s s₁ s₂ s' : σ} {reading : τ} (check : after watch.isClosed s = (.ok false, s₁))
      (now : after watch.now s₁ = (.ok reading, s₂)) (early : ¬ timeout ≤ reading - start)
      (sleep : after (watch.sleep (pause interval (timeout - (reading - start)))) s₂ =
        (.ok (), s')) : Round watch timeout interval start reading s s'

/-- **Rounds**, one after the other, with their readings. -/
inductive Rounds (watch : Watch (ExceptT ε (StateM σ)) τ) (timeout interval start : τ) :
    List τ → σ → σ → Prop
  | nil {s : σ} : Rounds watch timeout interval start [] s s
  | cons {s s' s'' : σ} {reading : τ} {readings : List τ}
      (round : Round watch timeout interval start reading s s')
      (rest : Rounds watch timeout interval start readings s' s'') :
      Rounds watch timeout interval start (reading :: readings) s s''

/-- **A wait ends**, with an outcome and the readings of the clock after the last check. -/
inductive Ends (watch : Watch (ExceptT ε (StateM σ)) τ) (timeout start : τ) :
    Outcome → List τ → σ → σ → Prop
  | closed {s s₁ s' : σ} (check : after watch.isClosed s = (.ok true, s₁))
      (done : after (watch.enter .done) s₁ = (.ok (), s')) :
      Ends watch timeout start .closed [] s s'
  | timedOut {s s₁ s₂ s₃ s' : σ} {reading : τ} (check : after watch.isClosed s = (.ok false, s₁))
      (now : after watch.now s₁ = (.ok reading, s₂)) (late : timeout ≤ reading - start)
      (done : after (watch.enter .done) s₂ = (.ok (), s₃))
      (giveUp : after (watch.giveUp (reading - start)) s₃ = (.ok (), s')) :
      Ends watch timeout start .timedOut [reading] s s'

/-! ## What checks come to -/

/-- A round uses up one check. -/
theorem Round.poll {reading : τ} (h : Round watch timeout interval start reading s s')
    (checks : Nat) :
    after (Lease.poll watch timeout interval start (checks + 1)) s =
      after (Lease.poll watch timeout interval start checks) s' := by
  obtain ⟨hcheck, hnow, hearly, hsleep⟩ := h
  rw [Lease.poll, after_bind_of_ok hcheck]
  simp only [Bool.false_eq_true, if_false]
  rw [after_bind_of_ok hnow]
  simp only [if_neg hearly]
  exact after_bind_of_ok hsleep

/-- Rounds use up as many checks as they are. -/
theorem Rounds.poll {readings : List τ} (h : Rounds watch timeout interval start readings s s')
    (checks : Nat) :
    after (Lease.poll watch timeout interval start (readings.length + checks)) s =
      after (Lease.poll watch timeout interval start checks) s' := by
  induction h with
  | nil => rw [List.length_nil, Nat.zero_add]
  | cons round rest ih => rw [List.length_cons, Nat.succ_add, round.poll, ih]

/-- The last check ends it, however many are left. -/
theorem Ends.poll {outcome : Outcome} {last : List τ}
    (h : Ends watch timeout start outcome last s s') (checks : Nat) :
    after (Lease.poll watch timeout interval start (checks + 1)) s = (.ok (some outcome), s') := by
  cases h with
  | closed check done =>
    rw [Lease.poll, after_bind_of_ok check]
    simp only [if_true]
    rw [after_bind_of_ok done, after_pure]
  | timedOut check now late done giveUp =>
    rw [Lease.poll, after_bind_of_ok check]
    simp only [Bool.false_eq_true, if_false]
    rw [after_bind_of_ok now]
    simp only [if_pos late]
    rw [after_bind_of_ok done, after_bind_of_ok giveUp, after_pure]

/-- A check that fails breaks the polling off. -/
theorem poll_of_failed {e : ε} (h : after watch.isClosed s = (.error e, s')) (checks : Nat) :
    after (poll watch timeout interval start (checks + 1)) s = (.error e, s') := by
  rw [poll, after_bind_of_error h]

/-- **What a check is the beginning of**: a round, the end, or a failure. -/
theorem check_cases (hsteady : Steady watch) (timeout interval start : τ) (s : σ) :
    (∃ reading s', Round watch timeout interval start reading s s') ∨
      (∃ outcome last s', Ends watch timeout start outcome last s s') ∨
      ∃ e s', after watch.isClosed s = (.error e, s') := by
  cases hcheck : after watch.isClosed s with
  | mk result s₁ =>
    cases result with
    | error e => exact .inr (.inr ⟨e, s₁, rfl⟩)
    | ok closed =>
      cases closed with
      | true =>
        obtain ⟨s', hdone⟩ := hsteady.enter .done s₁
        exact .inr (.inl ⟨_, _, s', .closed hcheck hdone⟩)
      | false =>
        obtain ⟨reading, s₂, hnow⟩ := hsteady.now s₁
        -- the file is open: the reading decides whether the wait ends or sleeps
        by_cases hlate : timeout ≤ reading - start
        · obtain ⟨s₃, hdone⟩ := hsteady.enter .done s₂
          obtain ⟨s', hgiveUp⟩ := hsteady.giveUp (reading - start) s₃
          exact .inr (.inl ⟨_, _, s', .timedOut hcheck hnow hlate hdone hgiveUp⟩)
        · obtain ⟨s', hsleep⟩ := hsteady.sleep (pause interval (timeout - (reading - start))) s₂
          exact .inl ⟨reading, s', .mk hcheck hnow hlate hsleep⟩

/-- **What so many checks come to**: after some rounds they are used up, or the wait ends, or a
check fails. -/
theorem poll_cases (hsteady : Steady watch) (timeout interval start : τ) (checks : Nat) (s : σ) :
    ∃ readings s₁, Rounds watch timeout interval start readings s s₁ ∧
      (readings.length = checks ∨ readings.length < checks ∧
        ((∃ outcome last s', Ends watch timeout start outcome last s₁ s') ∨
          ∃ e s', after watch.isClosed s₁ = (.error e, s'))) := by
  induction checks generalizing s with
  | zero => exact ⟨[], s, .nil, .inl rfl⟩
  | succ checks ih =>
    rcases check_cases hsteady timeout interval start s with ⟨reading, s₁, hround⟩ | hend
    · obtain ⟨readings, s₂, hrounds, hcases⟩ := ih s₁
      refine ⟨reading :: readings, s₂, .cons hround hrounds, ?_⟩
      rw [List.length_cons]
      exact hcases.imp (congrArg (· + 1)) fun ⟨hlength, hend⟩ => ⟨Nat.succ_lt_succ hlength, hend⟩
    · exact ⟨[], s, .nil, .inr ⟨Nat.succ_pos checks, hend⟩⟩

/-! ## What a wait comes to -/

/-- **What a wait comes to** when there are enough closing checks: an outcome or a failure. -/
def ComesTo (watch : Watch (ExceptT ε (StateM σ)) τ) (timeout interval : τ) (s : σ)
    (result : Except ε Outcome) (s' : σ) : Prop :=
  ∃ enough, ∀ checks, enough ≤ checks →
    after (wait watch timeout interval checks) s = (result.map some, s')

/-- What is the same to a program that counts its checks is the same. -/
theorem eq_of_map_some {result result' : Except ε Outcome}
    (h : (result.map some, s) = (result'.map some, s')) : result = result' ∧ s = s' := by
  obtain ⟨hmap, rfl⟩ := Prod.mk.inj h
  refine ⟨?_, rfl⟩
  cases result <;> cases result' <;> cases hmap <;> rfl

/-- A wait comes to one thing. -/
theorem ComesTo.unique {result result' : Except ε Outcome}
    (h : ComesTo watch timeout interval s result s')
    (h' : ComesTo watch timeout interval s result' s'') : result = result' ∧ s' = s'' := by
  obtain ⟨enough, h⟩ := h
  obtain ⟨enough', h'⟩ := h'
  exact eq_of_map_some ((h _ (Nat.le_max_left enough enough')).symm.trans
    (h' _ (Nat.le_max_right enough enough')))

/-- What is left of a wait that has opened is the polling from its start. -/
theorem Opens.wait (h : Opens watch start s s') (timeout interval : τ) (checks : Nat) :
    after (Lease.wait watch timeout interval checks) s =
      after (poll watch timeout interval start checks) s' := by
  obtain ⟨hrequesting, hrequest, hpolling, hnow⟩ := h
  rw [Lease.wait, after_bind_of_ok hrequesting, after_bind_of_ok hrequest,
    after_bind_of_ok hpolling, after_bind_of_ok hnow]

/-- A wait that is refused comes to the failure, and no check is used. -/
theorem Refused.wait {e : ε} (h : Refused watch e s s') (timeout interval : τ) (checks : Nat) :
    after (Lease.wait watch timeout interval checks) s = (.error e, s') := by
  obtain ⟨hrequesting, hrequest⟩ := h
  rw [Lease.wait, after_bind_of_ok hrequesting, after_bind_of_error hrequest]

omit [Sub τ] [LE τ] [LT τ] [DecidableLE τ] [DecidableLT τ] in
/-- What a wait begins with. -/
theorem opens_or_refused (hsteady : Steady watch) (s : σ) :
    (∃ start s', Opens watch start s s') ∨ ∃ e s', Refused watch e s s' := by
  obtain ⟨s₁, hrequesting⟩ := hsteady.enter .requesting s
  cases hrequest : after watch.request s₁ with
  | mk result s₂ =>
    cases result with
    | error e => exact .inr ⟨e, s₂, .mk hrequesting hrequest⟩
    | ok _ =>
      obtain ⟨s₃, hpolling⟩ := hsteady.enter .polling s₂
      obtain ⟨start, s', hnow⟩ := hsteady.now s₃
      exact .inl ⟨start, s', .mk hrequesting hrequest hpolling hnow⟩

/-- **The course of a wait** that comes to an outcome: it opens, makes rounds and ends. -/
inductive Course (watch : Watch (ExceptT ε (StateM σ)) τ) (timeout interval start : τ)
    (readings last : List τ) (outcome : Outcome) : σ → σ → Prop
  | mk {s s₁ s₂ s' : σ} (opens : Opens watch start s s₁)
      (rounds : Rounds watch timeout interval start readings s₁ s₂)
      (ends : Ends watch timeout start outcome last s₂ s') :
      Course watch timeout interval start readings last outcome s s'

/-- **A wait breaks off** when it has opened and made rounds, and a check fails. -/
inductive Breaks (watch : Watch (ExceptT ε (StateM σ)) τ) (timeout interval start : τ)
    (readings : List τ) (e : ε) : σ → σ → Prop
  | mk {s s₁ s₂ s' : σ} (opens : Opens watch start s s₁)
      (rounds : Rounds watch timeout interval start readings s₁ s₂)
      (failed : after watch.isClosed s₂ = (.error e, s')) :
      Breaks watch timeout interval start readings e s s'

variable {readings last : List τ} {outcome : Outcome} {e : ε}

/-- With more checks than rounds the course of a wait is what it comes to. -/
theorem Course.wait (h : Course watch timeout interval start readings last outcome s s')
    {checks : Nat} (hchecks : readings.length < checks) :
    after (Lease.wait watch timeout interval checks) s = (.ok (some outcome), s') := by
  obtain ⟨hopens, hrounds, hends⟩ := h
  obtain ⟨more, rfl⟩ := Nat.exists_eq_add_of_lt hchecks
  rw [hopens.wait, Nat.add_assoc, hrounds.poll, hends.poll]

/-- With more checks than rounds it is the failure of the check that is come to. -/
theorem Breaks.wait (h : Breaks watch timeout interval start readings e s s') {checks : Nat}
    (hchecks : readings.length < checks) :
    after (Lease.wait watch timeout interval checks) s = (.error e, s') := by
  obtain ⟨hopens, hrounds, hfailed⟩ := h
  obtain ⟨more, rfl⟩ := Nat.exists_eq_add_of_lt hchecks
  rw [hopens.wait, Nat.add_assoc, hrounds.poll, poll_of_failed hfailed]

/-- With as many checks as rounds a wait comes to nothing. -/
theorem Rounds.wait {s₀ : σ} (h : Rounds watch timeout interval start readings s s')
    (hopens : Opens watch start s₀ s) :
    after (Lease.wait watch timeout interval readings.length) s₀ = (.ok none, s') := by
  have hpoll := h.poll 0
  rw [Nat.add_zero] at hpoll
  rw [hopens.wait, hpoll, Lease.poll, after_pure]

/-- **What a wait comes to with so many checks**: it is refused, or opens and makes as many rounds,
or comes to an outcome or breaks off before. -/
theorem wait_cases (hsteady : Steady watch) (timeout interval : τ) (checks : Nat) (s : σ) :
    (∃ e s', Refused watch e s s') ∨
      (∃ start readings s₁ s₂, readings.length = checks ∧ Opens watch start s s₁ ∧
        Rounds watch timeout interval start readings s₁ s₂) ∨
      (∃ start readings last outcome s', readings.length < checks ∧
        Course watch timeout interval start readings last outcome s s') ∨
      ∃ start readings e s', readings.length < checks ∧
        Breaks watch timeout interval start readings e s s' := by
  rcases opens_or_refused hsteady s with ⟨start, s₁, hopens⟩ | hrefused
  · obtain ⟨readings, s₂, hrounds, hcases⟩ := poll_cases hsteady timeout interval start checks s₁
    rcases hcases with hused | ⟨hlength, ⟨outcome, last, s', hends⟩ | ⟨e, s', hfailed⟩⟩
    · exact .inr (.inl ⟨start, readings, s₁, s₂, hused, hopens, hrounds⟩)
    · exact .inr (.inr (.inl ⟨start, readings, last, outcome, s', hlength,
        .mk hopens hrounds hends⟩))
    · exact .inr (.inr (.inr ⟨start, readings, e, s', hlength, .mk hopens hrounds hfailed⟩))
  · exact .inl hrefused

/-- What a wait comes to has one of three reasons. -/
theorem ComesTo.reason (hsteady : Steady watch) {result : Except ε Outcome}
    (h : ComesTo watch timeout interval s result s') :
    (∃ e, result = .error e ∧ Refused watch e s s') ∨
      (∃ outcome start readings last, result = .ok outcome ∧
        Course watch timeout interval start readings last outcome s s') ∨
      ∃ e start readings, result = .error e ∧
        Breaks watch timeout interval start readings e s s' := by
  obtain ⟨enough, hwait⟩ := h
  have hwait := hwait enough (Nat.le_refl enough)
  rcases wait_cases hsteady timeout interval enough s with
    ⟨e, s₁, hrefused⟩ | ⟨start, readings, s₁, s₂, rfl, hopens, hrounds⟩ |
      ⟨start, readings, last, outcome, s₁, hlength, hcourse⟩ |
      ⟨start, readings, e, s₁, hlength, hbreaks⟩
  · obtain ⟨rfl, rfl⟩ : result = .error e ∧ s' = s₁ :=
      eq_of_map_some (hwait.symm.trans (hrefused.wait timeout interval enough))
    exact .inl ⟨e, rfl, hrefused⟩
  -- with enough checks they are never used up
  · cases result <;> cases (hrounds.wait hopens).symm.trans hwait
  · obtain ⟨rfl, rfl⟩ : result = .ok outcome ∧ s' = s₁ :=
      eq_of_map_some (hwait.symm.trans (hcourse.wait hlength))
    exact .inr (.inl ⟨outcome, start, readings, last, rfl, hcourse⟩)
  · obtain ⟨rfl, rfl⟩ : result = .error e ∧ s' = s₁ :=
      eq_of_map_some (hwait.symm.trans (hbreaks.wait hlength))
    exact .inr (.inr ⟨e, start, readings, rfl, hbreaks⟩)

/-- **A wait comes to an outcome** just when its course is to open, to make rounds and to end. -/
theorem comesTo_ok_iff (hsteady : Steady watch) :
    ComesTo watch timeout interval s (.ok outcome) s' ↔
      ∃ start readings last,
        Course watch timeout interval start readings last outcome s s' := by
  constructor
  · intro hcomes
    rcases hcomes.reason hsteady with ⟨e, hresult, -⟩ |
      ⟨outcome', start, readings, last, hresult, hcourse⟩ | ⟨e, start, readings, hresult, -⟩
    · cases hresult
    · cases hresult
      exact ⟨start, readings, last, hcourse⟩
    · cases hresult
  · rintro ⟨start, readings, last, hcourse⟩
    exact ⟨readings.length + 1, fun _ hchecks => hcourse.wait hchecks⟩

/-- **A wait comes to a failure** just when it is refused or breaks off. -/
theorem comesTo_error_iff (hsteady : Steady watch) :
    ComesTo watch timeout interval s (.error e) s' ↔
      Refused watch e s s' ∨
        ∃ start readings, Breaks watch timeout interval start readings e s s' := by
  constructor
  · intro hcomes
    rcases hcomes.reason hsteady with ⟨e', hresult, hrefused⟩ |
      ⟨outcome', start, readings, last, hresult, -⟩ | ⟨e', start, readings, hresult, hbreaks⟩
    · cases hresult
      exact .inl hrefused
    · cases hresult
    · cases hresult
      exact .inr ⟨start, readings, hbreaks⟩
  · rintro (hrefused | ⟨start, readings, hbreaks⟩)
    · exact ⟨0, fun checks _ => hrefused.wait timeout interval checks⟩
    · exact ⟨readings.length + 1, fun _ hchecks => hbreaks.wait hchecks⟩

end

end NamenodeShell.Lease
