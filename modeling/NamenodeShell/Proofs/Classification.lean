import NamenodeShell.Proofs.Nesting
import NamenodeShell.Proofs.Refusals

/-!
# How failures are told apart

What a request fails with. Trouble on the way is told apart by what it is trouble with
(`Trouble.fault`), a refusal by what it reports, and a refusal that reports nothing by its status
(`Response.IsSilent`, `Response.IsReport`); a report goes before the status. `Failure.IsSorted` says
when a failure is of which kind, so `Classified` says it without the code that sorts, and
`failures_classified` is that it holds of every request, the upload of data included. That nothing
is at a path is then believed just of the refusals sorted so, and of nothing else that goes wrong.

These are all the failures there should be. A refusal whose body breaks off, or nests too deeply, is
taken for neither silence nor a report, and its failure gets out as it is
(`refusal_loses_status`).
-/
set_option autoImplicit false

namespace NamenodeShell

open Shell

/-- **A failure is sorted** by when something is not there, when it is in the way, and when the
service is away; otherwise the service refuses. -/
structure Failure.IsSorted (f : Failure) (gone taken away : Prop) : Prop where
  notFound : f.category = .notFound ↔ gone
  alreadyExists : f.category = .alreadyExists ↔ taken
  unavailable : f.category = .unavailable ↔ away
  remote : f.category = .remote ↔ ¬ (gone ∨ taken ∨ away)

namespace Failure.IsSorted

variable {f : Failure} {gone taken away : Prop}

/-- A failure that something is not there is sorted where this is so and nothing else is. -/
theorem of_notFound (h : f.category = .notFound) (hgone : gone) (htaken : ¬ taken)
    (haway : ¬ away) : f.IsSorted gone taken away := by
  constructor <;> simp [h, hgone, htaken, haway]

/-- A failure that something is in the way, in the same manner, -/
theorem of_alreadyExists (h : f.category = .alreadyExists) (hgone : ¬ gone) (htaken : taken)
    (haway : ¬ away) : f.IsSorted gone taken away := by
  constructor <;> simp [h, hgone, htaken, haway]

/-- one that the service is away, -/
theorem of_unavailable (h : f.category = .unavailable) (hgone : ¬ gone) (htaken : ¬ taken)
    (haway : away) : f.IsSorted gone taken away := by
  constructor <;> simp [h, hgone, htaken, haway]

/-- and one that is none of the three. -/
theorem of_remote (h : f.category = .remote) (hgone : ¬ gone) (htaken : ¬ taken)
    (haway : ¬ away) : f.IsSorted gone taken away := by
  constructor <;> simp [h, hgone, htaken, haway]

/-- A failure that is sorted is not about what was typed. -/
theorem ne_invalidInput (h : f.IsSorted gone taken away) : f.category ≠ .invalidInput := by
  intro hinput
  -- Each kind has a category of its own, and so has what is left.
  by_cases hall : gone ∨ taken ∨ away
  · rcases hall with hgone | htaken | haway
    · cases (h.notFound.mpr hgone).symm.trans hinput
    · cases (h.alreadyExists.mpr htaken).symm.trans hinput
    · cases (h.unavailable.mpr haway).symm.trans hinput
  · cases (h.remote.mpr hall).symm.trans hinput

end Failure.IsSorted

namespace Response

/-- **A refusal that reports nothing**: its body is no JSON, or an object with nothing in the place
of a report. -/
def IsSilent (r : Response) : Prop :=
  (∃ why, r.json = .error why ∧ why.isOtherText = true) ∨
    ∃ members, r.json = .ok (.object members) ∧
      ∀ report, members.lookup "RemoteException" = some report → report.truthy = false

/-- **A refusal that reports a failure** by a name that is one value, with a text. Either may be
missing. -/
def IsReport (r : Response) (name text : Json) : Prop :=
  ∃ members report, r.json = .ok (.object members) ∧
    members.lookup "RemoteException" = some (.object report) ∧ report ≠ [] ∧
    (report.lookup "exception").getD .null = name ∧ name.isFlat = true ∧
    (report.lookup "message").getD .null = text

variable {r : Response} {name text : Json}

/-- A report is missing where it is no member, or one that counts as nothing. -/
theorem filter_truthy_eq_none {value : Option Json} :
    value.filter Json.truthy = none ↔ ∀ v, value = some v → v.truthy = false := by
  cases value with
  | none => exact ⟨fun _ v hv => (nomatch hv), fun _ => rfl⟩
  | some v => simp [Option.filter]

/-- A refusal explains itself by reporting nothing or by reporting a failure. -/
theorem explains_iff :
    (Reply.response r).Explains ↔
      r.isRefusal = true ∧ (r.IsSilent ∨ ∃ name text, r.IsReport name text) := by
  refine and_congr_right' ⟨?_, ?_⟩
  · rintro (hother | ⟨members, hjson, hreports⟩)
    -- The body is other text, an empty one or a page: nothing is reported.
    · exact .inl (.inl hother)
    cases hreport : (members.lookup "RemoteException").filter Json.truthy with
    | none => exact .inl (.inr ⟨members, hjson, filter_truthy_eq_none.mp hreport⟩)
    | some v =>
      rw [hreport] at hreports
      cases v with
      | object report =>
        obtain ⟨hlookup, htruthy⟩ := Option.filter_eq_some_iff.mp hreport
        refine .inr ⟨_, _, members, report, hjson, hlookup, ?_, rfl, hreports, rfl⟩
        rintro rfl
        cases htruthy
      | _ => exact hreports.elim
  · rintro ((hother | ⟨members, hjson, hnothing⟩) |
      ⟨name, text, members, report, hjson, hlookup, hne, rfl, hflat, -⟩)
    · exact .inl hother
    · refine .inr ⟨members, hjson, ?_⟩
      rw [filter_truthy_eq_none.mpr hnothing]
      trivial
    · refine .inr ⟨members, hjson, ?_⟩
      rw [Option.filter_eq_some_iff.mpr ⟨hlookup, ?_⟩]
      · exact hflat
      · cases report with
        | nil => exact absurd rfl hne
        | cons member members => rfl

end Response

namespace Client

variable {c : Client} {r : Response} {name text : Json}

/-! ## The two kinds of refusals -/

/-- A refusal that reports nothing is known by its status. -/
theorem refusal_of_isSilent (h : r.IsSilent) : refusal r = .refused r.status := by
  unfold refusal
  rcases h with ⟨why, hjson, hother⟩ | ⟨members, hjson, hnothing⟩
  · simp only [hjson, hother, if_true]
  · simp only [hjson, reportFailure, Response.filter_truthy_eq_none.mpr hnothing]

/-- A refusal that reports a failure is known by its report, whatever its status. -/
theorem refusal_of_isReport (h : r.IsReport name text) : refusal r = .reported name text := by
  obtain ⟨members, report, hjson, hlookup, hne, rfl, hflat, rfl⟩ := h
  have htruthy : (Json.object report).truthy = true := by
    cases report with
    | nil => exact absurd rfl hne
    | cons member members => rfl
  have hkey : ((report.lookup "exception").getD .null).key =
      .ok ((report.lookup "exception").getD .null) := by
    cases hname : (report.lookup "exception").getD .null with
    | list _ => rw [hname] at hflat; cases hflat
    | object _ => rw [hname] at hflat; cases hflat
    | _ => rfl
  unfold refusal
  simp only [hjson, reportFailure, hlookup, Option.filter_some, htruthy, if_true, hkey]

/-! ## The kinds of failures -/

/-- A failure known by a status alone. -/
theorem isSorted_refused (status : Nat) :
    (Failure.refused status).IsSorted (status = 404) False (status = 502 ∨ status = 503) := by
  have hcategory : (Failure.refused status).category = Failure.statusCategory status := rfl
  unfold Failure.statusCategory at hcategory
  by_cases hgone : status = 404
  · exact .of_notFound (hcategory.trans (if_pos hgone)) hgone id (by omega)
  rw [if_neg hgone] at hcategory
  by_cases haway : status = 502 ∨ status = 503
  · exact .of_unavailable (hcategory.trans (if_pos haway)) hgone id haway
  · exact .of_remote (hcategory.trans (if_neg haway)) hgone id haway

/-- A failure known by a report. -/
theorem isSorted_reported (name text : Json) :
    (Failure.reported name text).IsSorted (name = .text "FileNotFoundException")
      (name = .text "FileAlreadyExistsException") False := by
  have hcategory : (Failure.reported name text).category = Failure.reportCategory name := rfl
  unfold Failure.reportCategory at hcategory
  split at hcategory
  next => exact .of_notFound hcategory rfl (by simp) id
  next => exact .of_alreadyExists hcategory (by simp) rfl id
  next hgone htaken => exact .of_remote hcategory hgone htaken id

/-- A failure known by the trouble on the way. -/
theorem isSorted_faultFailure (c : Client) (t : Trouble) :
    (c.faultFailure t.fault).IsSorted False False (t.ofConnection = true ∨ t.ofTime = true) := by
  unfold Trouble.fault
  split
  next hconnection => exact .of_unavailable rfl id id (.inl hconnection)
  next hconnection =>
    split
    next htime => exact .of_unavailable rfl id id (.inr htime)
    next htime =>
      have haway : ¬ (t.ofConnection = true ∨ t.ofTime = true) := not_or.mpr ⟨hconnection, htime⟩
      split
      next => exact .of_remote rfl id id haway
      next => exact .of_remote rfl id id haway

end Client

/-! ## What requests fail with -/

/-- **The outcome of a request is classified** by the reply to it. -/
structure Classified (c : Client) (reply : Reply) (result : Except Failure Response) : Prop where
  /-- A response that does not refuse is the result, and nothing else ever is. -/
  accepted : ∀ r, result = .ok r ↔ reply = .response r ∧ r.isRefusal = false
  /-- Trouble with the connection or with the time means that the service is away; any other
  trouble on the way is a refusal. -/
  trouble : ∀ t : Trouble, reply = .fault t.fault →
    result = .error (c.faultFailure t.fault) ∧
      (c.faultFailure t.fault).IsSorted False False (t.ofConnection = true ∨ t.ofTime = true)
  /-- A refusal that reports a failure means what it reports, whatever its status. -/
  reported : ∀ r name text, reply = .response r → r.isRefusal = true → r.IsReport name text →
    result = .error (.reported name text) ∧
      (Failure.reported name text).IsSorted (name = .text "FileNotFoundException")
        (name = .text "FileAlreadyExistsException") False ∧
      (Failure.reported name text).message =
        if text.truthy then text.message else name.message
  /-- A refusal that reports nothing means what its status says. -/
  silent : ∀ r, reply = .response r → r.isRefusal = true → r.IsSilent →
    result = .error (.refused r.status) ∧
      (Failure.refused r.status).IsSorted (r.status = 404) False
        (r.status = 502 ∨ r.status = 503)
  /-- Only these are failures that the shell tells apart. -/
  own : (∃ f, result = .error f ∧ f.isOwn = true) ↔
    (∃ t : Trouble, reply = .fault t.fault) ∨
      ∃ r, reply = .response r ∧ r.isRefusal = true ∧
        (r.IsSilent ∨ ∃ name text, r.IsReport name text)

/-- **A reply says that nothing is there**: it is a refusal that reports that a file is not found,
or that reports nothing and has the status for it. -/
def Reply.SaysAbsent (reply : Reply) : Prop :=
  ∃ r, reply = .response r ∧ r.isRefusal = true ∧
    (r.IsSilent ∧ r.status = 404 ∨ ∃ text, r.IsReport (.text "FileNotFoundException") text)

/-- **Absence is believed** of a path just where the reply says so; every other failure to learn the
status of the path gets out. -/
structure BelievesAbsence (c : Client) (path : String) (w : Surroundings) : Prop where
  absent : (outcome (c.exists path) w).1 = .ok false ↔ w.reply.SaysAbsent
  fails : ∀ f, (outcome (c.exists path) w).1 = .error f ↔
    (outcome (c.status path) w).1 = .error f ∧ ¬ w.reply.SaysAbsent

namespace Client

variable {c : Client} {r : Response}

/-- Every fault comes of some trouble. -/
theorem exists_trouble (f : Fault) : ∃ t : Trouble, f = t.fault := by
  cases f with
  | connection => exact ⟨{ ofConnection := true, text := "" }, rfl⟩
  | timeout => exact ⟨{ ofTime := true, text := "" }, rfl⟩
  | bare => exact ⟨{ ofRefusal := true, text := "" }, rfl⟩
  | other text => exact ⟨{ text }, rfl⟩

theorem isNotFound_iff {reply : Reply} : reply.IsNotFound ↔ reply.SaysAbsent := by
  refine exists_congr fun r => and_congr_right fun _ => and_congr_right fun hr => ?_
  constructor
  · intro hcategory
    have hown := Failure.isOwn_iff (f := refusal r).mpr (by rw [hcategory]; decide)
    -- A failure with a category of its own comes of a refusal that explains itself.
    obtain ⟨-, hsilent | ⟨name, text, hreport⟩⟩ :=
      Response.explains_iff.mp ((isOwn_refusal hr).mp hown)
    · rw [refusal_of_isSilent hsilent] at hcategory
      exact .inl ⟨hsilent, (isSorted_refused r.status).notFound.mp hcategory⟩
    · rw [refusal_of_isReport hreport] at hcategory
      obtain rfl := (isSorted_reported name text).notFound.mp hcategory
      exact .inr ⟨text, hreport⟩
  · rintro (⟨hsilent, hstatus⟩ | ⟨text, hreport⟩)
    · rw [refusal_of_isSilent hsilent]
      exact (isSorted_refused r.status).notFound.mpr hstatus
    · rw [refusal_of_isReport hreport]
      rfl

/-- Trouble on the way is always a failure of the shell's own. -/
theorem isOwn_faultFailure (c : Client) (f : Fault) : (c.faultFailure f).isOwn = true := by
  cases f <;> rfl

/-- A reply makes a request fail in one of the shell's own ways just where it explains itself. -/
theorem isOwn_verdict (c : Client) (reply : Reply) :
    (∃ f, c.verdict reply = .error f ∧ f.isOwn = true) ↔ reply.Explains := by
  cases reply with
  | fault f => exact iff_of_true ⟨_, rfl, c.isOwn_faultFailure f⟩ trivial
  | interrupted =>
    refine iff_of_false ?_ id
    rintro ⟨f, hf, hown⟩
    cases hf
    cases hown
  | response r =>
    rw [verdict_response]
    split
    next hr =>
      rw [← isOwn_refusal hr]
      simp
    next hr =>
      refine iff_of_false ?_ fun h => hr h.1
      rintro ⟨f, hf, -⟩
      cases hf

/-- **Every reply is classified**: the four kinds of replies are the four fields. -/
theorem classified_verdict (c : Client) (reply : Reply) : Classified c reply (c.verdict reply) where
  accepted r := by
    constructor
    · exact verdict_eq_ok
    · rintro ⟨rfl, hr⟩
      rw [verdict_response, hr, if_neg Bool.false_ne_true]
  trouble t := by
    rintro rfl
    exact ⟨rfl, isSorted_faultFailure c t⟩
  reported r name text := by
    rintro rfl hr hreport
    rw [verdict_response, if_pos hr, refusal_of_isReport hreport]
    exact ⟨rfl, isSorted_reported name text, rfl⟩
  silent r := by
    rintro rfl hr hsilent
    rw [verdict_response, if_pos hr, refusal_of_isSilent hsilent]
    exact ⟨rfl, isSorted_refused r.status⟩
  own := by
    rw [isOwn_verdict]
    cases reply with
    | fault f => exact iff_of_true trivial (.inl (exists_trouble f |>.imp fun _ => congrArg _))
    | interrupted =>
      refine iff_of_false id ?_
      rintro (⟨t, ht⟩ | ⟨r, hr, -⟩)
      · cases ht
      · cases hr
    | response r =>
      rw [Response.explains_iff]
      constructor
      · exact fun h => .inr ⟨r, rfl, h⟩
      · rintro (⟨t, ht⟩ | ⟨r', hr', h⟩)
        · cases ht
        · cases hr'
          exact h

/-- No failure of a request is about what was typed. -/
theorem category_verdict_ne {reply : Reply} {f : Failure} (h : c.verdict reply = .error f) :
    f.category ≠ .invalidInput := by
  intro hinput
  have hown : f.isOwn = true := Failure.isOwn_iff.mpr (by rw [hinput]; decide)
  have hclassified := classified_verdict c reply
  -- It would be one of the shell's own, and none of these three is about what was typed.
  rcases hclassified.own.mp ⟨f, h, hown⟩ with
    ⟨t, ht⟩ | ⟨r, hreply, hr, hsilent | ⟨name, text, hreport⟩⟩
  · obtain ⟨he, hsorted⟩ := hclassified.trouble t ht
    cases h.symm.trans he
    exact hsorted.ne_invalidInput hinput
  · obtain ⟨he, hsorted⟩ := hclassified.silent r hreply hr hsilent
    cases h.symm.trans he
    exact hsorted.ne_invalidInput hinput
  · obtain ⟨he, hsorted, -⟩ := hclassified.reported r name text hreply hr hreport
    cases h.symm.trans he
    exact hsorted.ne_invalidInput hinput

/-- **Absence is believed of a path just where the reply says so.** -/
theorem believesAbsence (c : Client) (path : String) (w : Surroundings) :
    BelievesAbsence c path w where
  absent := by
    rw [outcome_exists]
    exact presence_eq_false.trans isNotFound_iff
  fails f := by
    rw [outcome_exists, outcome_status]
    refine presence_eq_error.trans (and_congr_right fun hstatus => not_congr ?_)
    rw [← isNotFound_iff]
    constructor
    · exact isNotFound_of_statusOf hstatus
    · intro hgone
      obtain ⟨e, he, hcategory⟩ := statusOf_of_isNotFound (c := c) hgone
      cases hstatus.symm.trans he
      exact hcategory

/-- **The failures of requests are classified**: of an operation on a path, of the upload of data,
and so of the question whether something is at a path. -/
theorem failures_classified (c : Client) (w : Surroundings) :
    (∀ request, Classified c w.reply (outcome (c.send request) w).1) ∧
      ∀ path, BelievesAbsence c path w := by
  refine ⟨fun request => ?_, fun path => believesAbsence c path w⟩
  rw [outcome_send]
  exact classified_verdict c w.reply

/-! ## Bodies that cannot be read -/

/-- A client. -/
def sampleClient : Client := { host := "nn", port := 9870, user := "alice" }

/-- A service with one answer. -/
def answering (r : Response) : Surroundings where
  service := [⟨.response r, none⟩]
  disk := { tree := [] }

/-- **A refusal loses its status**: its body is no JSON, and what the request to open a file fails
with is none of the shell's own failures, whatever the status. -/
structure LosesStatus (r : Response) : Prop where
  refuses : r.isRefusal = true
  unread : ∀ v, r.json ≠ .ok v
  fails : ∃ f, (outcome (sampleClient.send (sampleClient.request .openFile "/f")) (answering r)).1 =
    .error f ∧ f.isOwn = false

/-- A refusal whose body breaks off, or is too deep to be read, loses its status: the failure to
read it gets out in the place of the refusal. -/
theorem losesStatus_of_json {why : Unreadable} (hr : r.isRefusal = true)
    (hjson : r.json = .error why) (hother : why.isOtherText = false) : LosesStatus r where
  refuses := hr
  unread v hv := by cases hjson.symm.trans hv
  fails := by
    refine ⟨.unreadable why, ?_, Failure.isOwn_unreadable why⟩
    have hreply : (answering r).reply = .response r := rfl
    rw [outcome_send, hreply, verdict_response, if_pos hr, refusal, hjson]
    simp only [hother, Bool.false_eq_true, if_false]

/-- A page that says that nothing is there, and breaks off. -/
def brokenPage : Response where
  status := 404
  headers := []
  body := .pieces [Bytes.ofText "<html>"] (some .reset)

/-- Nothing is there, in too many brackets. -/
def deepBrackets : Response where
  status := 404
  headers := []
  body := .whole (List.replicate 5000 91 ++ [])

/-- **Refusals that lose their status**, of which each is the one for what is not there. -/
theorem refusal_loses_status :
    (brokenPage.status = 404 ∧ LosesStatus brokenPage) ∧
      deepBrackets.status = 404 ∧ LosesStatus deepBrackets := by
  obtain ⟨why, hjson, hother⟩ :=
    Response.json_of_brackets (r := deepBrackets) rfl (show Json.maxNesting < 5000 by decide)
  exact ⟨⟨rfl, losesStatus_of_json rfl rfl rfl⟩, rfl, losesStatus_of_json rfl hjson hother⟩

end Client

end NamenodeShell
