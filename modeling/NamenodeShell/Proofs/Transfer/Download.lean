import NamenodeShell.Proofs.Transfer.Moves

/-!
# How downloads end

`Downloads` tells the ways in which a download can end, whatever the service answers and whatever
others create before an answer comes: the remote file is not opened, or refused, or opened; and
then the local file is created or cannot be. `downloads_get` is the inversion; what is proved of
downloads is proved over the four ways.

An opened stream is closed by reading it, and it is read only once the file is there. So it is
closed just where its destination could be created (`get_closes_iff`). Where it could not, because
somebody was faster or because the system refuses the path, the download fails and leaves its
stream open (`get_leaves_open`).
-/
set_option autoImplicit false

namespace NamenodeShell

open Shell

/-! ## Streams that are closed -/

/-- **A request's stream is closed** between two surroundings: the request was answered, and the
stream that began there has been closed since. -/
def Surroundings.Closes (w w' : Surroundings) (request : Request) : Prop :=
  ∃ stream, w.log.length ≤ stream ∧ w'.log[stream]? = some (.sent request true) ∧
    .closed stream ∈ w'.log.drop w.log.length

/-- OPEN is one exchange, and its stream begins at the place in the log where it was asked for. -/
theorem Client.outcome_openFile (c : Client) (path : String) (w : Surroundings) :
    outcome (c.openFile path) w =
      ((c.verdict w.reply).map (Download.mk w.log.length ·.body),
        w.exchanged (c.request .openFile path)) := by
  unfold openFile
  rw [outcome_bind_of_ok (outcome_place w), outcome_bind, outcome_perform]
  cases c.verdict w.reply <;> rfl

namespace Transfer

variable {c : Client} {source dest dir : String} {w w' : Surroundings} {place : Place}

/-- At a vacant path a file is created with what it is given. -/
theorem createLocal_of_vacant (h : w.disk.Vacant dest place) (content : Bytes) :
    outcome (createLocal dest content) w = (.ok (w.disk.set place (.file content)), w) :=
  outcome_createLocal (Disk.create_eq_ok_iff.mpr ⟨place, h, rfl⟩)

/-- At no other path is one created. -/
theorem createLocal_eq_error (h : ∀ place, ¬ w.disk.Vacant dest place) (content : Bytes) :
    ∃ f, outcome (createLocal dest content) w = (.error f, w) := by
  cases hcreate : w.disk.create dest content with
  | ok d =>
    obtain ⟨place, hvacant, -⟩ := Disk.create_eq_ok_iff.mp hcreate
    exact absurd hvacant (h place)
  | error cause => exact outcome_createLocal_of_error hcreate

/-! ## The ways a download ends -/

/-- The surroundings once a download has asked for its source. -/
def asked (c : Client) (source : String) (w : Surroundings) : Surroundings :=
  w.exchanged (c.request .status source)

/-- The surroundings once a download has asked to open its source. -/
def opened (c : Client) (source : String) (w : Surroundings) : Surroundings :=
  (asked c source w).exchanged (c.request .openFile source)

/-- **The ways a download ends.** -/
inductive Downloads (c : Client) (source dest : String) (w : Surroundings) : Surroundings → Prop
  /-- The source is not shown to be there, or something is at the destination. -/
  | unopened
      (hreply : w.reply.IsFound → (asked c source w).disk.isPresent dest = true) :
      Downloads c source dest w (asked c source w)
  /-- The source is not opened. -/
  | refused (hfound : w.reply.IsFound)
      (hreply : ∀ r, (asked c source w).reply = .response r → r.isRefusal = true) :
      Downloads c source dest w (opened c source w)
  /-- The source is open, and there is no place for a file at the destination. -/
  | uncreated {r : Response} (hfound : w.reply.IsFound)
      (hreply : (asked c source w).reply = .response r) (hr : r.isRefusal = false)
      (hdest : ∀ place, ¬ (opened c source w).disk.Vacant dest place) :
      Downloads c source dest w (opened c source w)
  /-- The source is open and read into a file at the destination, as far as it comes. -/
  | created {r : Response} {place : Place} (hfound : w.reply.IsFound)
      (hreply : (asked c source w).reply = .response r) (hr : r.isRefusal = false)
      (hdest : (opened c source w).disk.Vacant dest place) :
      Downloads c source dest w
        { opened c source w with
          disk := (opened c source w).disk.set place
            (.file (r.body.stream (some Client.bufferSize)).1.flatten)
          log := (opened c source w).log ++ [.closed (asked c source w).log.length] }

/-- The surroundings once a download has read its source into a file at a place. -/
def created (c : Client) (source : String) (w : Surroundings) (r : Response) (place : Place) :
    Surroundings :=
  { opened c source w with
    disk := (opened c source w).disk.set place
      (.file (r.body.stream (some Client.bufferSize)).1.flatten)
    log := (opened c source w).log ++ [.closed (asked c source w).log.length] }

/-- A download whose destination is vacant once its source is open reads it into a file there, all
that comes of it, and then does what is left to do. -/
theorem outcome_of_opened {r : Response} (hdest : (opened c source w).disk.Vacant dest place)
    (finish : List Bytes × Option Failure → Shell Transfer) :
    outcome (do
        let _ ← createLocal dest []
        let result ← c.readAll ⟨(asked c source w).log.length, r.body⟩
        setDisk (← createLocal dest result.1.flatten)
        finish result) (opened c source w) =
      outcome (finish ((r.body.stream (some Client.bufferSize)).1.filter (!·.isEmpty),
          (r.body.stream (some Client.bufferSize)).2.map fun b => c.faultFailure b.fault))
        (created c source w r place) := by
  rw [outcome_bind_of_ok (createLocal_of_vacant hdest [])]
  let parts := r.body.stream (some Client.bufferSize)
  let read : Surroundings := { opened c source w with
    log := (opened c source w).log ++ [.closed (asked c source w).log.length] }
  have hread : outcome (c.readAll ⟨(asked c source w).log.length, r.body⟩) (opened c source w) =
      (.ok (parts.1.filter (!·.isEmpty), parts.2.map fun b => c.faultFailure b.fault), read) :=
    rfl
  rw [outcome_bind_of_ok hread]
  simp only [List.flatten_filter_not_isEmpty]
  -- Reading the stream does not touch the disk: the place is as vacant as it was, and the file with
  -- all that came is put there in the stead of the empty one.
  have hread : read.disk.Vacant dest place := hdest
  rw [outcome_bind_of_ok (createLocal_of_vacant hread _),
    outcome_bind_of_ok (outcome_setDisk _ read)]
  rfl

/-- What is left of a download once its source is open. -/
theorem downloads_of_opened {r : Response} (hfound : w.reply.IsFound)
    (hreply : (asked c source w).reply = .response r) (hr : r.isRefusal = false)
    (finish : List Bytes × Option Failure → Shell Transfer)
    (hfinish : ∀ result v, (outcome (finish result) v).2 = v) :
    Downloads c source dest w
      (outcome (do
        let _ ← createLocal dest []
        let result ← c.readAll ⟨(asked c source w).log.length, r.body⟩
        setDisk (← createLocal dest result.1.flatten)
        finish result) (opened c source w)).2 := by
  -- Whether the file can be created is all that tells the two ways apart once the source is open.
  by_cases hdest : ∃ place, (opened c source w).disk.Vacant dest place
  -- The rest of a download leaves things as they are.
  · obtain ⟨place, hvacant⟩ := hdest
    rw [outcome_of_opened hvacant, hfinish]
    exact .created hfound hreply hr hvacant
  · rw [not_exists] at hdest
    obtain ⟨f, hf⟩ := createLocal_eq_error hdest []
    rw [outcome_bind_of_error hf]
    exact .uncreated hfound hreply hr hdest

/-- **Every download ends in one of these ways.** -/
theorem downloads_get (c : Client) (source dir : String) (w : Surroundings) :
    Downloads c source (Path.localChild dir (Path.base source)) w
      (outcome (get c source dir) w).2 := by
  have hexists : outcome (c.exists source) w = (c.presence w.reply, asked c source w) :=
    Client.outcome_exists c source w
  have hopen : outcome (c.openFile source) (asked c source w) =
      ((c.verdict (asked c source w).reply).map
        (Client.Download.mk (asked c source w).log.length ·.body), opened c source w) :=
    Client.outcome_openFile c source _
  unfold get
  cases hpresence : c.presence w.reply with
  | error e =>
    rw [hpresence] at hexists
    rw [outcome_bind_of_error hexists]
    -- The question failed, or its answer could not be read.
    refine .unopened fun hfound => ?_
    rw [Client.presence_eq_true.mpr hfound] at hpresence
    cases hpresence
  | ok b =>
    rw [hpresence] at hexists
    rw [outcome_bind_of_ok hexists]
    cases b with
    | false =>
      refine .unopened fun hfound => ?_
      rw [Client.presence_eq_true.mpr hfound] at hpresence
      cases hpresence
    | true =>
      have hfound := Client.presence_eq_true.mp hpresence
      simp only [if_true]
      rw [outcome_bind_of_ok (outcome_disk _)]
      cases hpresent : (asked c source w).disk.isPresent
          (Path.localChild dir (Path.base source)) with
      | true => exact .unopened fun _ => hpresent
      | false =>
        simp only [Bool.false_eq_true, if_false]
        cases hverdict : c.verdict (asked c source w).reply with
        | error e =>
          rw [hverdict] at hopen
          rw [outcome_bind_of_error hopen]
          -- No answer came to the request to open, or one that is a refusal.
          refine .refused hfound fun r hreply => ?_
          rw [hreply, Client.verdict_response] at hverdict
          split at hverdict
          next hr => exact hr
          next => cases hverdict
        | ok r =>
          obtain ⟨hreply, hr⟩ := Client.verdict_eq_ok hverdict
          rw [hverdict] at hopen
          rw [outcome_bind_of_ok hopen]
          refine downloads_of_opened hfound hreply hr _ fun result v => ?_
          obtain ⟨parts, failure⟩ := result
          cases failure <;> rfl

/-- A download that finds something at its destination ends there. -/
theorem get_of_present (hfound : w.reply.IsFound)
    (hpresent : (asked c source w).disk.isPresent (Path.localChild dir (Path.base source)) = true) :
    outcome (get c source dir) w =
      (.error (.present (Path.localChild dir (Path.base source))), asked c source w) := by
  have hexists : outcome (c.exists source) w = (.ok true, asked c source w) := by
    rw [Client.outcome_exists, Client.presence_eq_true.mpr hfound]
    rfl
  unfold get
  rw [outcome_bind_of_ok hexists]
  simp only [if_true]
  rw [outcome_bind_of_ok (outcome_disk _), if_pos hpresent]
  rfl

/-- **What a download comes to that has read its source**, by the pieces and how they ended. -/
def delivered (c : Client) (source dest : String) :
    List Bytes × Option Break → Except Failure Transfer
  | (parts, none) => .ok { source, dest, direction := .get, size := parts.flatten.length }
  | (_, some b) => .error (c.faultFailure b.fault)

/-- **A download that opens its source, and whose destination is vacant then, reads the source into
a file there.** -/
theorem get_of_vacant {r : Response} (hfound : w.reply.IsFound)
    (habsent : (asked c source w).disk.isPresent (Path.localChild dir (Path.base source)) = false)
    (hreply : (asked c source w).reply = .response r) (hr : r.isRefusal = false)
    (hdest : (opened c source w).disk.Vacant (Path.localChild dir (Path.base source)) place) :
    outcome (get c source dir) w =
      (delivered c source (Path.localChild dir (Path.base source))
          (r.body.stream (some Client.bufferSize)),
        created c source w r place) := by
  have hexists : outcome (c.exists source) w = (.ok true, asked c source w) := by
    rw [Client.outcome_exists, Client.presence_eq_true.mpr hfound]
    rfl
  have hopen : outcome (c.openFile source) (asked c source w) =
      (.ok ⟨(asked c source w).log.length, r.body⟩, opened c source w) := by
    rw [Client.outcome_openFile, hreply, Client.verdict_response, hr, if_neg Bool.false_ne_true]
    rfl
  unfold get
  rw [outcome_bind_of_ok hexists]
  simp only [if_true]
  rw [outcome_bind_of_ok (outcome_disk _), habsent]
  simp only [Bool.false_eq_true, if_false]
  rw [outcome_bind_of_ok hopen]
  refine (outcome_of_opened hdest _).trans ?_
  obtain ⟨parts, ending⟩ := r.body.stream (some Client.bufferSize)
  cases ending with
  | none => simp only [Option.map_none, List.flatten_filter_not_isEmpty]; rfl
  | some b => rfl

/-! ## What downloads exchange -/

/-- The first exchange of a download is GETFILESTATUS of its source. -/
theorem passed_asked (c : Client) (source : String) (w : Surroundings) :
    w.Passed (asked c source w) [⟨c.request .status source, w.reply⟩] :=
  w.passed_operation c .status source []

/-- The second exchange is OPEN of its source. -/
theorem passed_opened (c : Client) (source : String) (w : Surroundings) :
    w.Passed (opened c source w)
      [⟨c.request .status source, w.reply⟩,
        ⟨c.request .openFile source, (asked c source w).reply⟩] :=
  (passed_asked c source w).trans ((asked c source w).passed_operation c .openFile source [])

/-- Each of the two stands in the log where it was made, with whether it was answered. -/
theorem log_opened (c : Client) (source : String) (w : Surroundings) :
    (asked c source w).log = w.log ++ [.sent (c.request .status source) w.isAnswered] ∧
      (opened c source w).log = (asked c source w).log ++
        [.sent (c.request .openFile source) (asked c source w).isAnswered] :=
  ⟨w.log_exchanged c .status source [], (asked c source w).log_exchanged c .openFile source []⟩

/-- The exchanges of a download change nothing on the disk of their own. -/
theorem spared_opened (c : Client) (source : String) (w : Surroundings) :
    w.Spared (opened c source w) :=
  trans_of _ (Surroundings.Spared.exchanged w _) (Surroundings.Spared.exchanged _ _)

/-- What a download changes after it has opened its source is no exchange. -/
theorem passed_created (c : Client) (source : String) (w : Surroundings) (d : Disk) (n : Nat) :
    w.Passed { opened c source w with disk := d, log := (opened c source w).log ++ [.closed n] }
      [⟨c.request .status source, w.reply⟩,
        ⟨c.request .openFile source, (asked c source w).reply⟩] :=
  (passed_opened c source w).trans ⟨⟨[.closed n], rfl, rfl⟩, rfl, rfl⟩

/-- The reply to the second exchange of a download is the one to the request to open its source. -/
theorem reply_of_mem {r : Response} {xs : List Exchange}
    (hxs : xs = [⟨c.request .status source, w.reply⟩,
      ⟨c.request .openFile source, (asked c source w).reply⟩])
    (hopen : ⟨c.request .openFile source, .response r⟩ ∈ xs) :
    (asked c source w).reply = .response r := by
  rw [hxs] at hopen
  rcases List.mem_cons.mp hopen with h | h
  · cases h
  · exact (congrArg Exchange.reply (List.mem_singleton.mp h)).symm

/-- A download that only asks for its source does not open it. -/
theorem not_mem_asked (r : Response) : ⟨c.request .openFile source, .response r⟩ ∉
    w.exchanges (asked c source w) := by
  rw [(passed_asked c source w).exchanges_eq]
  intro hopen
  cases List.mem_singleton.mp hopen

namespace Downloads

/-- A download that finds its source and nothing at its destination asks to open the source. -/
theorem exchanges_eq (h : Downloads c source dest w w') (hfound : w.reply.IsFound)
    (habsent : (asked c source w).disk.isPresent dest = false) :
    w.exchanges w' = [⟨c.request .status source, w.reply⟩,
      ⟨c.request .openFile source, (asked c source w).reply⟩] := by
  cases h with
  | unopened hreply =>
    rw [hreply hfound] at habsent
    cases habsent
  | refused => exact (passed_opened c source w).exchanges_eq
  | uncreated => exact (passed_opened c source w).exchanges_eq
  | created => exact (passed_created c source w _ _).exchanges_eq

/-- **The stream of a download is closed just where its destination was vacant** for a file once the
source was open. -/
theorem closes_iff {r : Response} (h : Downloads c source dest w w')
    (hopen : ⟨c.request .openFile source, .response r⟩ ∈ w.exchanges w')
    (hr : r.isRefusal = false) :
    w.Closes w' (c.request .openFile source) ↔ ∃ place, (w.leftBy w').Vacant dest place := by
  obtain ⟨hlog, hlog'⟩ := log_opened c source w
  cases h with
  | unopened => exact absurd hopen (not_mem_asked r)
  | refused _ hreply =>
    have hreply' := hreply r (reply_of_mem (passed_opened c source w).exchanges_eq hopen)
    rw [hr] at hreply'
    cases hreply'
  | uncreated _ _ _ hdest =>
    constructor
    · rintro ⟨stream, -, -, hclosed⟩
      -- The log holds the two requests and nothing that closes a stream.
      rw [hlog', hlog, List.append_assoc, List.drop_left] at hclosed
      rcases List.mem_cons.mp hclosed with h | h
      · cases h
      · cases List.mem_singleton.mp h
    · rintro ⟨place, hvacant⟩
      rw [← (spared_opened c source w).disk_eq] at hvacant
      exact absurd hvacant (hdest place)
  | @created _ place _ hreply _ hdest =>
    refine ⟨fun _ => ⟨place, ?_⟩, fun _ => ⟨(asked c source w).log.length, ?_, ?_, ?_⟩⟩
    · rw [(spared_opened c source w).disk_eq] at hdest
      rwa [Surroundings.leftBy, (passed_created c source w _ _).exchanges_eq,
        ← (passed_opened c source w).exchanges_eq, ← Surroundings.leftBy]
    · rw [hlog, List.length_append]
      exact Nat.le_add_right _ _
    · have hanswered : (asked c source w).isAnswered = true := by
        rw [Surroundings.isAnswered, hreply]
      simp only [hlog', hanswered, List.append_assoc, List.getElem?_append_right (Nat.le_refl _),
        Nat.sub_self]
      rfl
    · simp only [hlog', hlog, List.append_assoc, List.drop_left]
      simp

end Downloads

/-- **A download closes the stream it has opened just where its destination could be created** when
the stream was opened. -/
theorem get_closes_iff {r : Response}
    (hopen : ⟨c.request .openFile source, .response r⟩ ∈
      w.exchanges (outcome (get c source dir) w).2)
    (hr : r.isRefusal = false) :
    w.Closes (outcome (get c source dir) w).2 (c.request .openFile source) ↔
      ∃ d, (w.leftBy (outcome (get c source dir) w).2).create
        (Path.localChild dir (Path.base source)) [] = .ok d := by
  rw [(downloads_get c source dir w).closes_iff hopen hr]
  constructor
  · rintro ⟨place, hvacant⟩
    exact ⟨_, Disk.create_eq_ok_iff.mpr ⟨place, hvacant, rfl⟩⟩
  · rintro ⟨d, hcreate⟩
    obtain ⟨place, hvacant, -⟩ := Disk.create_eq_ok_iff.mp hcreate
    exact ⟨place, hvacant⟩

/-- A download that has opened its source, and could create its destination then, has read the one
into the other. -/
theorem get_of_create {r : Response} {d : Disk}
    (hopen : ⟨c.request .openFile source, .response r⟩ ∈
      w.exchanges (outcome (get c source dir) w).2)
    (hr : r.isRefusal = false)
    (hcreate : (w.leftBy (outcome (get c source dir) w).2).create
      (Path.localChild dir (Path.base source)) [] = .ok d) :
    ∃ place, (opened c source w).disk.Vacant (Path.localChild dir (Path.base source)) place ∧
      outcome (get c source dir) w =
        (delivered c source (Path.localChild dir (Path.base source))
            (r.body.stream (some Client.bufferSize)),
          created c source w r place) := by
  have hdownloads := downloads_get c source dir w
  -- Which of the four ways it was shows in the surroundings that the download has left.
  generalize hafter : (outcome (get c source dir) w).2 = after at hopen hcreate hdownloads
  cases hdownloads with
  | unopened => exact absurd hopen (not_mem_asked r)
  | refused _ hreply =>
    have hreply' := hreply r (reply_of_mem (passed_opened c source w).exchanges_eq hopen)
    rw [hr] at hreply'
    cases hreply'
  | uncreated _ _ _ hdest =>
    obtain ⟨place, hvacant, -⟩ := Disk.create_eq_ok_iff.mp hcreate
    rw [← (spared_opened c source w).disk_eq] at hvacant
    exact absurd hvacant (hdest place)
  | @created _ place hfound hreply hr' hdest =>
    have hthis := reply_of_mem (passed_created c source w _ _).exchanges_eq hopen
    cases hreply.symm.trans hthis
    refine ⟨place, hdest, get_of_vacant hfound ?_ hreply hr hdest⟩
    -- With something at the destination the source would not have been opened.
    refine Bool.eq_false_iff.mpr fun hpresent => ?_
    rw [get_of_present hfound hpresent] at hafter
    rw [← hafter] at hopen
    exact absurd hopen (not_mem_asked r)

/-- A client. -/
def sampleClient : Client := { host := "nn", port := 9870, user := "alice" }

/-- An answer that shows a file. -/
def sampleStatus : Response where
  status := 200
  headers := []
  body := .whole (Bytes.ofText "\x7b\"FileStatus\":1\x7d")

/-- A stream that comes to its end. -/
def sampleStream : Response := { status := 200, headers := [], body := .pieces [[104]] none }

/-- A service that shows a file and opens it, before which somebody may create a local file. -/
def sampleSurroundings (created : Option String) : Surroundings where
  service := [⟨.response sampleStatus, none⟩, ⟨.response sampleStream, created⟩]
  disk := { tree := [(["home"], .directory)] }

/-- The sample download asks for its source and opens it, whatever is created meanwhile. -/
theorem exchanges_sample (created : Option String) :
    (sampleSurroundings created).exchanges
        (outcome (get sampleClient "/f" "/home") (sampleSurroundings created)).2 =
      [⟨sampleClient.request .status "/f", .response sampleStatus⟩,
        ⟨sampleClient.request .openFile "/f", .response sampleStream⟩] := by
  have hpresence : (sampleClient.presence (.response sampleStatus)).toOption = some true := by
    decide +kernel
  have habsent : (sampleSurroundings none).disk.isPresent
      (Path.localChild "/home" (Path.base "/f")) = false := by
    decide +kernel
  exact (downloads_get sampleClient "/f" "/home" (sampleSurroundings created)).exchanges_eq
    (Client.isFound_of_presence hpresence) habsent

/-- The sample download creates its file and closes its stream. -/
theorem get_closes_iff_sample :
    (sampleSurroundings none).Closes
      (outcome (get sampleClient "/f" "/home") (sampleSurroundings none)).2
      (sampleClient.request .openFile "/f") := by
  have hvacant : Disk.Vacant (sampleSurroundings none).disk
      (Path.localChild "/home" (Path.base "/f")) ["home", "f"] :=
    ⟨by decide +kernel, ["home"], "f", false, by decide +kernel, rfl⟩
  refine (get_closes_iff (r := sampleStream) ?_ rfl).mpr
    ⟨(sampleSurroundings none).disk.set ["home", "f"] (.file []), ?_⟩
  · rw [exchanges_sample]
    exact List.mem_cons_of_mem _ List.mem_cons_self
  · rw [Surroundings.leftBy, exchanges_sample]
    exact Disk.create_eq_ok_iff.mpr ⟨_, hvacant, rfl⟩

/-- **A stream that is left open**: the source is opened, and somebody has created the destination
meanwhile. -/
theorem get_leaves_open :
    ⟨sampleClient.request .openFile "/f", .response sampleStream⟩ ∈
        (sampleSurroundings (some "/home/f")).exchanges
          (outcome (get sampleClient "/f" "/home") (sampleSurroundings (some "/home/f"))).2 ∧
      sampleStream.isRefusal = false ∧
      ¬ (sampleSurroundings (some "/home/f")).Closes
        (outcome (get sampleClient "/f" "/home") (sampleSurroundings (some "/home/f"))).2
        (sampleClient.request .openFile "/f") := by
  have hopen : ⟨sampleClient.request .openFile "/f", .response sampleStream⟩ ∈
      (sampleSurroundings (some "/home/f")).exchanges
        (outcome (get sampleClient "/f" "/home") (sampleSurroundings (some "/home/f"))).2 := by
    rw [exchanges_sample]
    exact List.mem_cons_of_mem _ List.mem_cons_self
  refine ⟨hopen, rfl, ?_⟩
  rw [(downloads_get sampleClient "/f" "/home" _).closes_iff hopen rfl]
  rintro ⟨place, -, parent, name, slash, hfind, -⟩
  rw [Surroundings.leftBy, exchanges_sample] at hfind
  have hthere : ((sampleSurroundings (some "/home/f")).disk.after
      ((sampleSurroundings (some "/home/f")).service.take 2)).find false
        (Path.localChild "/home" (Path.base "/f")) = .ok (.at ["home", "f"] (.file [])) := by
    decide +kernel
  cases hthere.symm.trans hfind

end Transfer

end NamenodeShell
