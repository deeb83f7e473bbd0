import NamenodeShell.Navigation
import NamenodeShell.Proofs.Classification

/-!
# Where remote targets lead

What going to a remote target comes to. The path of the target is asked for once. When the reply
shows a directory the path comes out; when it shows something else, or says that nothing is there,
the path is asked for once more, and it is the second reply that decides which of the two failures
it is. The service may have changed its mind in between, so `Resolved` tells what comes out for
every pair of replies, and `remote_resolved` is that it does. Only from a service that says the same
thing twice do the two failures mean what they say of the path.

Whatever else is wrong with a reply gets out as it is. It is never taken for one of the two: no
reply is about what was typed (`Client.category_statusOf_ne`), and one that says that nothing is
there is no failure of a question.
-/
set_option autoImplicit false

namespace NamenodeShell

open Shell

namespace Client

variable {c : Client} {reply : Reply} {f : Failure}

/-! ## No reply is about what was typed -/

/-- What is wrong with an accepted answer to the question is none of the shell's own failures. -/
theorem isOwn_of_statusIn {r : Response} (h : statusIn r = .error f) : f.isOwn = false := by
  unfold statusIn at h
  split at h
  next => exact isOwn_of_sub h
  next why _ =>
    cases h
    exact Failure.isOwn_unreadable why

/-- **No reply is about what was typed.** -/
theorem category_statusOf_ne (h : c.statusOf reply = .error f) : f.category ≠ .invalidInput := by
  unfold statusOf at h
  cases hverdict : c.verdict reply with
  | error e =>
    rw [hverdict] at h
    cases h
    exact category_verdict_ne hverdict
  | ok r =>
    rw [hverdict] at h
    intro hinput
    have hown : f.isOwn = true := Failure.isOwn_iff.mpr (by rw [hinput]; decide)
    rw [isOwn_of_statusIn h] at hown
    cases hown

/-- What `isDirectory` fails with is neither about what was typed nor about an absence. -/
theorem category_of_directory (h : c.directory reply = .error f) :
    f.category ≠ .invalidInput ∧ f.category ≠ .notFound := by
  obtain ⟨htype, hcategory⟩ := directory_eq_error.mp h
  refine ⟨?_, hcategory⟩
  unfold typeOf at htype
  cases hs : c.statusOf reply with
  | ok status =>
    rw [hs] at htype
    rw [category_isDirectoryStatus htype]
    decide
  | error e =>
    rw [hs] at htype
    cases htype
    exact category_statusOf_ne hs

/-- What `exists` fails with is neither of the two, in the same way. -/
theorem category_of_presence (h : c.presence reply = .error f) :
    f.category ≠ .invalidInput ∧ f.category ≠ .notFound := by
  obtain ⟨hstatus, hcategory⟩ := presence_eq_error.mp h
  exact ⟨category_statusOf_ne hstatus, hcategory⟩

/-- A failure to learn a type from a reply that does not say that nothing is there. -/
theorem directory_of_typeOf (h : c.typeOf reply = .error f) (hthere : ¬ reply.IsNotFound) :
    c.directory reply = .error f := by
  refine directory_eq_error.mpr ⟨h, fun hcategory => ?_⟩
  unfold typeOf at h
  cases hs : c.statusOf reply with
  | ok status =>
    rw [hs] at h
    rw [category_isDirectoryStatus h] at hcategory
    cases hcategory
  | error e =>
    rw [hs] at h
    cases h
    exact hthere (isNotFound_of_statusOf hs hcategory)

/-- A failure to learn a status from such a reply is the failure of the question for presence. -/
theorem presence_of_statusOf (h : c.statusOf reply = .error f) (hthere : ¬ reply.IsNotFound) :
    c.presence reply = .error f :=
  presence_eq_error.mpr ⟨h, fun hcategory => hthere (isNotFound_of_statusOf h hcategory)⟩

end Client

namespace Navigation

variable {c : Client} {current target path : String} {w : Surroundings} {first second : Reply}
variable {f : Failure}

/-! ## Asking once and asking twice -/

/-- The failure of a target that is no directory, by whether something is there. -/
def noDirectory (path : String) : Bool → Failure
  | true => .notRemoteDirectory path
  | false => .noRemoteDirectory path

/-- Where a target leads, by the replies. -/
def led (c : Client) (path : String) (first second : Reply) : Except Failure String :=
  match c.directory first with
  | .error f => .error f
  | .ok true => .ok path
  | .ok false => (c.presence second).bind fun there => .error (noDirectory path there)

/-- What is exchanged about a target. -/
def asked (c : Client) (path : String) (first second : Reply) : List Exchange :=
  match c.directory first with
  | .ok false => [⟨c.request .status path, first⟩, ⟨c.request .status path, second⟩]
  | _ => [⟨c.request .status path, first⟩]

/-- **A remote target comes to what the replies say**, and takes as many as it needs. -/
theorem outcome_remote (c : Client) (current : String) (ht : target ≠ "") (w : Surroundings) :
    ∃ w', outcome (remote c current target) w =
        (led c (Path.remoteChild current target) w.reply (replyOf w.service.tail), w') ∧
      w.Passed w' (asked c (Path.remoteChild current target) w.reply
        (replyOf w.service.tail)) := by
  unfold remote led asked
  rw [if_neg ht]
  -- Both questions are for one path, whatever it is.
  generalize Path.remoteChild current target = path
  have hfirst := c.outcome_isDirectory path w
  have hpassed := w.passed_operation c .status path []
  cases hdirectory : c.directory w.reply with
  | error f =>
    rw [hdirectory] at hfirst
    exact ⟨_, outcome_bind_of_error hfirst, hpassed⟩
  | ok isDirectory =>
    rw [hdirectory] at hfirst
    cases isDirectory with
    | true => exact ⟨_, outcome_bind_of_ok hfirst, hpassed⟩
    | false =>
      have hsecond := c.outcome_exists path (w.exchanged (c.request .status path))
      refine ⟨(w.exchanged (c.request .status path)).exchanged (c.request .status path), ?_,
        hpassed.trans (Surroundings.passed_operation _ c .status path [])⟩
      refine (outcome_bind_of_ok hfirst).trans ?_
      rw [if_neg Bool.false_ne_true, outcome_bind, hsecond]
      change _ = ((c.presence (w.exchanged (c.request .status path)).reply).bind _, _)
      cases c.presence (w.exchanged (c.request .status path)).reply with
      | error e => rfl
      | ok there => cases there <;> rfl

/-- **A target leads to its path** just where the first reply shows a directory. -/
theorem led_eq_ok {p : String} :
    led c path first second = .ok p ↔ first.IsDirectory ∧ p = path := by
  rw [← Client.directory_eq_true (c := c)]
  unfold led
  split
  next f hdirectory =>
    rw [hdirectory]
    exact iff_of_false (fun h => (nomatch h)) fun h => (nomatch h.1)
  next hdirectory =>
    rw [hdirectory]
    exact ⟨fun h => ⟨rfl, (Except.ok.inj h).symm⟩, fun h => congrArg Except.ok h.2.symm⟩
  next hdirectory =>
    rw [hdirectory]
    refine iff_of_false (fun h => ?_) fun h => (nomatch h.1)
    cases hpresence : c.presence second with
    | error e => rw [hpresence] at h; cases h
    | ok there => rw [hpresence] at h; cases h

/-- **The failures of a target** are those of the two requests, and the two that it is no
directory. -/
theorem led_eq_error :
    led c path first second = .error f ↔
      c.directory first = .error f ∨
        c.directory first = .ok false ∧
          (c.presence second = .error f ∨
            ∃ there, c.presence second = .ok there ∧ f = noDirectory path there) := by
  unfold led
  split
  next e hdirectory =>
    simp only [hdirectory, Except.error.injEq, reduceCtorEq, false_and, or_false]
  next hdirectory =>
    simp only [hdirectory, reduceCtorEq, Except.ok.injEq, Bool.true_eq_false, false_and, or_false]
  next hdirectory =>
    simp only [hdirectory, reduceCtorEq, true_and, false_or]
    cases c.presence second with
    | error e => simp only [Except.bind, Except.error.injEq, reduceCtorEq, false_and, exists_false,
        or_false]
    | ok there =>
      simp only [Except.bind, Except.error.injEq, reduceCtorEq, false_or, Except.ok.injEq,
        exists_eq_left']
      exact eq_comm

/-- A failure of a target that is one of the two is no failure of a request. -/
theorem led_eq_noDirectory (there : Bool) :
    led c path first second = .error (noDirectory path there) ↔
      (first.IsOther ∨ first.IsNotFound) ∧ c.presence second = .ok there := by
  rw [led_eq_error, Client.directory_eq_false]
  constructor
  -- A failure of a question has another category than either of the two, so it cannot be one of
  -- them.
  · rintro (hfirst | ⟨hfirst, hsecond | ⟨there', hsecond, hthere⟩⟩)
    · obtain ⟨hinvalid, hmissing⟩ := Client.category_of_directory hfirst
      cases there
      · exact absurd rfl hmissing
      · exact absurd rfl hinvalid
    · obtain ⟨hinvalid, hmissing⟩ := Client.category_of_presence hsecond
      cases there
      · exact absurd rfl hmissing
      · exact absurd rfl hinvalid
    · refine ⟨hfirst, ?_⟩
      rw [hsecond]
      cases there <;> cases there' <;> first | rfl | cases hthere
  · rintro ⟨hfirst, hsecond⟩
    exact .inr ⟨hfirst, .inr ⟨there, hsecond, rfl⟩⟩

/-- A target is no directory where the second reply shows it, -/
theorem led_eq_notRemoteDirectory :
    led c path first second = .error (.notRemoteDirectory path) ↔
      (first.IsOther ∨ first.IsNotFound) ∧ second.IsFound :=
  (led_eq_noDirectory true).trans (and_congr_right' Client.presence_eq_true)

/-- and it is not there where that reply says so. -/
theorem led_eq_noRemoteDirectory :
    led c path first second = .error (.noRemoteDirectory path) ↔
      (first.IsOther ∨ first.IsNotFound) ∧ second.IsNotFound :=
  (led_eq_noDirectory false).trans (and_congr_right' Client.presence_eq_false)

/-- The two failures are the ones of their kinds. -/
theorem category_of_led (h : led c path first second = .error f) :
    (f.category = .invalidInput ↔ f = .notRemoteDirectory path) ∧
      (f.category = .notFound ↔ f = .noRemoteDirectory path) := by
  have hother : f.category ≠ .invalidInput ∧ f.category ≠ .notFound →
      (f.category = .invalidInput ↔ f = .notRemoteDirectory path) ∧
        (f.category = .notFound ↔ f = .noRemoteDirectory path) := by
    rintro ⟨hinvalid, hmissing⟩
    exact ⟨iff_of_false hinvalid fun hf => hinvalid (hf ▸ rfl),
      iff_of_false hmissing fun hf => hmissing (hf ▸ rfl)⟩
  rcases led_eq_error.mp h with hfirst | ⟨-, hsecond | ⟨there, -, rfl⟩⟩
  · exact hother (Client.category_of_directory hfirst)
  · exact hother (Client.category_of_presence hsecond)
  · cases there
    · exact ⟨iff_of_false (fun h => (nomatch h)) fun h => (nomatch h), iff_of_true rfl rfl⟩
    · exact ⟨iff_of_true rfl rfl, iff_of_false (fun h => (nomatch h)) fun h => (nomatch h)⟩

/-! ## What comes out -/

/-- **What a remote target comes to**, by the replies to the first and the second time its path is
asked for: the result, and the exchanges it takes. -/
structure Resolved (c : Client) (path : String) (first second : Reply)
    (result : Except Failure String) (xs : List Exchange) : Prop where
  /-- The path comes out just where the first reply shows a directory, and nothing else does. -/
  arrives : ∀ p, result = .ok p ↔ first.IsDirectory ∧ p = path
  /-- The path is asked for a second time where the first reply shows something else, or nothing, -/
  twice : first.IsOther ∨ first.IsNotFound →
    xs = [⟨c.request .status path, first⟩, ⟨c.request .status path, second⟩]
  /-- and only there. -/
  once : ¬ (first.IsOther ∨ first.IsNotFound) → xs = [⟨c.request .status path, first⟩]
  /-- It is no directory where the second reply then shows it to be there, -/
  other : result = .error (.notRemoteDirectory path) ↔
    (first.IsOther ∨ first.IsNotFound) ∧ second.IsFound
  /-- and it is not there where the second reply says so. -/
  gone : result = .error (.noRemoteDirectory path) ↔
    (first.IsOther ∨ first.IsNotFound) ∧ second.IsNotFound
  /-- Every other failure of the first request gets out, -/
  first_fails : ∀ f, c.typeOf first = .error f → ¬ first.IsNotFound → result = .error f
  /-- and so does every other failure of the second. -/
  second_fails : ∀ f, first.IsOther ∨ first.IsNotFound → c.statusOf second = .error f →
    ¬ second.IsNotFound → result = .error f
  /-- No other failure is of the kind of one of the two. -/
  kinds : ∀ f, result = .error f →
    (f.category = .invalidInput ↔ f = .notRemoteDirectory path) ∧
      (f.category = .notFound ↔ f = .noRemoteDirectory path)
  /-- From a service that says the same thing twice, the path is not there just where it says so, -/
  steady_gone : first = second →
    ((∃ f, result = .error f ∧ f.category = .notFound) ↔ first.IsNotFound)
  /-- and no directory just where it shows something else. -/
  steady_other : first = second →
    ((∃ f, result = .error f ∧ f.category = .invalidInput) ↔ first.IsOther)

/-- **What the replies lead to is resolved as it should be**, for every pair of them. -/
theorem resolved_led (c : Client) (path : String) (first second : Reply) :
    Resolved c path first second (led c path first second) (asked c path first second) where
  arrives _ := led_eq_ok
  twice h := by
    rw [asked, Client.directory_eq_false.mpr h]
  once h := by
    unfold asked
    split
    next hdirectory => exact absurd (Client.directory_eq_false.mp hdirectory) h
    next => rfl
  other := led_eq_notRemoteDirectory
  gone := led_eq_noRemoteDirectory
  first_fails f hfirst hthere :=
    led_eq_error.mpr (.inl (Client.directory_of_typeOf hfirst hthere))
  second_fails f hfirst hsecond hthere :=
    led_eq_error.mpr (.inr ⟨Client.directory_eq_false.mpr hfirst,
      .inl (Client.presence_of_statusOf hsecond hthere)⟩)
  kinds f hf := category_of_led hf
  steady_gone := by
    rintro rfl
    constructor
    · rintro ⟨f, hf, hcategory⟩
      obtain rfl := (category_of_led hf).2.mp hcategory
      exact (led_eq_noRemoteDirectory.mp hf).2
    · intro hgone
      exact ⟨_, led_eq_noRemoteDirectory.mpr ⟨.inr hgone, hgone⟩, rfl⟩
  steady_other := by
    rintro rfl
    constructor
    · rintro ⟨f, hf, hcategory⟩
      obtain rfl := (category_of_led hf).1.mp hcategory
      -- One reply cannot say that nothing is there and show something.
      obtain ⟨hother | hgone, hfound⟩ := led_eq_notRemoteDirectory.mp hf
      · exact hother
      · exact absurd hgone hfound.not_isNotFound
    · intro hother
      exact ⟨_, led_eq_notRemoteDirectory.mpr ⟨.inl hother, hother.isFound⟩, rfl⟩

/-- **A remote target is resolved by the replies** to the one or two times its path is asked for,
whatever is typed and whatever the service says. -/
theorem remote_resolved (c : Client) (current : String) (ht : target ≠ "") (w : Surroundings) :
    Resolved c (Path.remoteChild current target) w.reply (replyOf w.service.tail)
      (outcome (remote c current target) w).1
      (w.exchanges (outcome (remote c current target) w).2) := by
  obtain ⟨w', houtcome, hpassed⟩ := outcome_remote c current ht w
  rw [houtcome, hpassed.exchanges_eq]
  exact resolved_led c _ _ _

/-- A file. -/
def sampleFile : Response where
  status := 200
  headers := []
  body := .whole (Bytes.ofText "\x7b\"FileStatus\":\x7b\"type\":\"FILE\"\x7d\x7d")

/-- Nothing. -/
def sampleAbsence : Response := { status := 404, headers := [], body := .whole [] }

/-- A service that shows a file when it is first asked, and nothing when it is asked again. -/
def sampleVanishing : Surroundings where
  service := [⟨.response sampleFile, none⟩, ⟨.response sampleAbsence, none⟩]
  disk := { tree := [] }

/-- **A file that vanishes between the two questions** is reported as not there. -/
theorem remote_resolved_vanishing :
    (outcome (remote Client.sampleClient "/user" "f") sampleVanishing).1 =
      .error (.noRemoteDirectory "/user/f") := by
  have hpath : Path.remoteChild "/user" "f" = "/user/f" := by decide +kernel
  have hfirst : (Client.sampleClient.directory (.response sampleFile)).toOption = some false := by
    decide +kernel
  have hsecond : (Client.sampleClient.presence (.response sampleAbsence)).toOption =
      some false := by
    decide +kernel
  have hresolved := remote_resolved Client.sampleClient "/user" (show "f" ≠ "" by decide)
    sampleVanishing
  rw [hpath] at hresolved
  exact hresolved.gone.mpr ⟨Client.directory_eq_false.mp (eq_ok_of_toOption hfirst),
    Client.presence_eq_false.mp (eq_ok_of_toOption hsecond)⟩

end Navigation

end NamenodeShell
