import NamenodeShell.Proofs.Dealings
import NamenodeShell.Proofs.Disk.Child
import NamenodeShell.Proofs.Reader

/-!
# What transfers move

What an upload and a download come to when the service goes along. `TakesUpload` and
`GivesDownload` are the answers this asks for. The upload sends the content of the file in pieces
that make up the content again (`Bytes.flatten_chunks`), and the download creates a file of what the
pieces that came make up, however the service has cut them; the sizes are those of what was moved.

Both are followed from exchange to exchange. What has been shown meanwhile is told by `Tells`, which
adds up like the exchanges do.
-/
set_option autoImplicit false

namespace NamenodeShell

open Shell

/-- The pieces of a file make up the file, whatever their size. -/
theorem Bytes.flatten_chunks (size : Nat) (content : Bytes) :
    (Bytes.chunks size content).flatten = content := by
  fun_induction Bytes.chunks size content with
  | case1 => rfl
  | case2 b rest ih =>
    rw [List.flatten_cons, ih, List.cons_append, List.take_append_drop]

/-- A read asks for a byte at least, or no file would come to its end. -/
theorem Client.one_le_bufferSize : 1 ≤ bufferSize := by
  decide

namespace Surroundings

variable {w w' w'' : Surroundings} {ts us : List Markup.Styled}

/-- **Some surroundings lead to others by events that show certain texts** and no more. -/
def Tells (w w' : Surroundings) (ts : List Markup.Styled) : Prop :=
  ∃ events, w'.log = w.log ++ events ∧ events.filterMap Event.shown? = ts

/-- **The texts shown between two surroundings**, of which the second came from the first. -/
def shown (w w' : Surroundings) : List Markup.Styled :=
  (w'.log.drop w.log.length).filterMap Event.shown?

namespace Tells

/-- The texts that were told are the ones that have been shown. -/
theorem shown_eq (h : Tells w w' ts) : w.shown w' = ts := by
  obtain ⟨events, hlog, rfl⟩ := h
  rw [shown, hlog, List.drop_left]

/-- A text that is shown is told. -/
theorem say (w : Surroundings) (text : Markup.Styled) :
    Tells w { w with log := w.log ++ [.shown text] } [text] :=
  ⟨[_], rfl, rfl⟩

/-- What is told on the way is told first. -/
theorem trans (h : Tells w w' ts) (h' : Tells w' w'' us) : Tells w w'' (ts ++ us) := by
  obtain ⟨events, hlog, rfl⟩ := h
  obtain ⟨events', hlog', rfl⟩ := h'
  exact ⟨events ++ events', by rw [hlog', hlog, List.append_assoc], List.filterMap_append⟩

/-- An exchange shows nothing. -/
theorem exchanged (w : Surroundings) (request : Request) : Tells w (w.exchanged request) [] :=
  ⟨[_], rfl, rfl⟩

end Tells

/-- An answer that comes with nothing else happening on the disk. -/
theorem exchanged_of_service {reply : Reply} {rest : List Answer}
    (h : w.service = ⟨reply, none⟩ :: rest) (request : Request) :
    w.reply = reply ∧ w.arrived = w.disk ∧ (w.exchanged request).service = rest ∧
      (w.exchanged request).disk = w.disk := by
  unfold Surroundings.reply replyOf exchanged arrived
  rw [h]
  exact ⟨rfl, rfl, rfl, rfl⟩

end Surroundings

namespace Transfer

variable {w : Surroundings} (c : Client) (source dir : String) {place : Place}

/-! ## Uploads -/

/-- **The service takes an upload**: it says that the destination is not there, names a location,
and accepts the data. -/
def TakesUpload (answers : List Answer) (target : Json) : Prop :=
  ∃ reply r r' rest,
    answers = ⟨reply, none⟩ :: ⟨.response r, none⟩ :: ⟨.response r', none⟩ :: rest ∧
    reply.IsNotFound ∧ (r.isRefusal = false ∧ Client.location r = .ok (some target)) ∧
    r'.isRefusal = false

/-- A regular file may be sent. -/
theorem needFile_of_file {path : String} {content : Bytes}
    (h : w.disk.look path = .ok (place, .file content)) :
    outcome (needFile path) w = (.ok (), w) := by
  have hfile : w.disk.isFile path = true := by
    rw [Disk.isFile, h]
  rw [outcome_needFile, if_pos hfile]

/-- A file that is there is opened where it is. -/
theorem outcome_openForReading {path : String} {content : Bytes}
    (h : w.disk.look path = .ok (place, .file content)) :
    outcome (onDisk path (·.openForReading path)) w = (.ok place, w) := by
  rw [outcome_onDisk, Disk.openForReading, h]
  rfl

/-- **An upload that is taken** asks for its destination, creates it, and sends the content of the
file to the location. It changes nothing on the disk, and its size is that of the content. -/
theorem put_of_taken {target : Json} {content : Bytes}
    (hfile : w.disk.look source = .ok (place, .file content))
    (hservice : TakesUpload w.service target) :
    ∃ w', outcome (put c source dir) w =
        (.ok { source, dest := Path.remoteChild dir (Path.base source), direction := .put,
               size := content.length }, w') ∧
      (∃ xs, w.Passed w' xs ∧ xs.map (·.request) =
        [c.request .status (Path.remoteChild dir (Path.base source)),
          c.request .create (Path.remoteChild dir (Path.base source)) [("overwrite", "false")],
          .upload .put target (.parts (Bytes.chunks Client.bufferSize content)) c.timeout]) ∧
      w.Tells w' [] ∧ w'.disk = w.disk := by
  obtain ⟨reply, r, r', rest, hanswers, hreply, ⟨hr, hlocation⟩, hr'⟩ := hservice
  have hcontent : w.disk.contentAt place = content := by
    rw [Disk.contentAt, Disk.nodeAt?_of_look hfile fun h => by cases h]
  -- the surroundings after each of the three exchanges
  let dest := Path.remoteChild dir (Path.base source)
  let ask := c.request .status dest
  let make := c.request .create dest [("overwrite", "false")]
  let send := Request.upload .put target (.file place Client.bufferSize) c.timeout
  let w₁ := w.exchanged ask
  let w₂ := w₁.exchanged make
  let w₃ := w₂.exchanged send
  obtain ⟨hreply₀, -, hservice₁, hdisk₁⟩ := Surroundings.exchanged_of_service hanswers ask
  obtain ⟨hreply₁, -, hservice₂, hdisk₂⟩ := Surroundings.exchanged_of_service hservice₁ make
  obtain ⟨hreply₂, harrived₂, -, hdisk₃⟩ := Surroundings.exchanged_of_service hservice₂ send
  have hexists : outcome (c.exists dest) w = (.ok false, w₁) := by
    rw [Client.outcome_exists, hreply₀, Client.presence_eq_false.mpr hreply]
  have hopen : outcome (onDisk source (·.openForReading source)) w₁ = (.ok place, w₁) :=
    outcome_openForReading (by rw [hdisk₁, hfile])
  have hverdict : ∀ {r : Response}, r.isRefusal = false → c.verdict (.response r) = .ok r :=
    fun h => by rw [Client.verdict_response, h, if_neg Bool.false_ne_true]
  have hcreate : outcome (c.create dest (.file place Client.bufferSize)) w₁ = (.ok (), w₃) := by
    have htarget : (c.verdict w₁.reply).bind Client.location = .ok (some target) := by
      rw [hreply₁, hverdict hr]
      exact hlocation
    have hdone : (c.verdict w₂.reply).map (fun _ => ()) = .ok () := by
      rw [hreply₂, hverdict hr']
      rfl
    -- The two steps of CREATE: the namenode names a location, and the data is sent there.
    rw [Client.create, Client.outcome_write, htarget]
    exact congrArg (·, w₃) hdone
  have hsize : outcome (sizeAt place) w₃ = (.ok content.length, w₃) := by
    unfold sizeAt
    -- The size is that of the reader at its end, not one asked of the disk.
    rw [outcome_bind_of_ok (outcome_disk w₃), hdisk₃, hdisk₂, hdisk₁, hcontent,
      Reader.size_last content Client.one_le_bufferSize]
    rfl
  refine ⟨w₃, ?_, ?_, ?_, ?_⟩
  · unfold put
    rw [outcome_bind_of_ok (needFile_of_file hfile), outcome_bind_of_ok hexists]
    simp only [Bool.false_eq_true, if_false]
    rw [outcome_bind_of_ok hopen, outcome_bind_of_ok hcreate, outcome_bind_of_ok hsize]
    rfl
  · have hsent : w₂.taken send =
        .upload .put target (.parts (Bytes.chunks Client.bufferSize content)) c.timeout := by
      rw [Surroundings.taken, hreply₂, harrived₂, hdisk₂, hdisk₁]
      change Request.upload _ _ (.parts (Reader.opened (w.disk.contentAt place) _).pieces) _ = _
      rw [hcontent, Reader.pieces_eq_chunks Client.one_le_bufferSize]
      rfl
    have hlast := w₂.passed_exchanged send
    rw [hsent] at hlast
    exact ⟨_, ((w.passed_operation c .status dest []).trans
      (w₁.passed_operation c .create dest [("overwrite", "false")])).trans hlast, rfl⟩
  · exact ((Surroundings.Tells.exchanged w ask).trans (.exchanged w₁ make)).trans
      (.exchanged w₂ send)
  · rw [hdisk₃, hdisk₂, hdisk₁]

/-! ## Downloads -/

/-- **The service gives a download**: it shows the file, and opens it as a stream of pieces that
comes to its end. -/
def GivesDownload (answers : List Answer) (parts : List Bytes) : Prop :=
  ∃ reply r rest, answers = ⟨reply, none⟩ :: ⟨.response r, none⟩ :: rest ∧
    reply.IsFound ∧ r.isRefusal = false ∧ r.body = .pieces parts none

/-- A file is created as the disk has it. -/
theorem outcome_createLocal {dest : String} {content : Bytes} {d : Disk}
    (h : w.disk.create dest content = .ok d) :
    outcome (createLocal dest content) w = (.ok d, w) := by
  unfold createLocal
  rw [outcome_bind_of_ok (outcome_disk w), h]
  rfl

/-- A file that cannot be created is a failure of the shell, for whatever cause. -/
theorem outcome_createLocal_of_error {dest : String} {content : Bytes} {cause : Cause}
    (h : w.disk.create dest content = .error cause) :
    ∃ f, outcome (createLocal dest content) w = (.error f, w) := by
  unfold createLocal
  rw [outcome_bind_of_ok (outcome_disk w), h]
  cases cause <;> exact ⟨_, rfl⟩

/-- What a download that is given exchanges: the source is there, and is opened. -/
theorem open_of_given {parts : List Bytes} (hservice : GivesDownload w.service parts) :
    ∃ w₁ w₂, outcome (c.exists source) w = (.ok true, w₁) ∧
      outcome (c.openFile source) w₁ = (.ok ⟨w₁.log.length, .pieces parts none⟩, w₂) ∧
      (∃ xs, w.Passed w₂ xs ∧ xs.map (·.request) =
        [c.request .status source, c.request .openFile source]) ∧
      w.Tells w₂ [] ∧ w₁.disk = w.disk ∧ w₂.disk = w.disk := by
  obtain ⟨reply, r, rest, hanswers, hreply, hr, hbody⟩ := hservice
  let ask := c.request .status source
  let opening := c.request .openFile source
  let w₁ := w.exchanged ask
  let w₂ := w₁.exchanged opening
  obtain ⟨hreply₀, -, hservice₁, hdisk₁⟩ := Surroundings.exchanged_of_service hanswers ask
  obtain ⟨hreply₁, -, -, hdisk₂⟩ := Surroundings.exchanged_of_service hservice₁ opening
  refine ⟨w₁, w₂, ?_, ?_, ?_, ?_, hdisk₁, hdisk₂.trans hdisk₁⟩
  · rw [Client.outcome_exists, hreply₀, Client.presence_eq_true.mpr hreply]
  · unfold Client.openFile
    rw [outcome_bind_of_ok (outcome_place w₁), outcome_bind, Client.outcome_perform, hreply₁,
      Client.verdict_response, hr, if_neg Bool.false_ne_true, ← hbody]
    rfl
  · exact ⟨_, (w.passed_operation c .status source []).trans
      (w₁.passed_operation c .openFile source []), rfl⟩
  · exact (Surroundings.Tells.exchanged w ask).trans (.exchanged w₁ opening)

/-- A stream that comes to its end is read and closed. -/
theorem outcome_readAll (c : Client) (stream : Nat) (parts : List Bytes) (w : Surroundings) :
    outcome (c.readAll ⟨stream, .pieces parts none⟩) w =
      (.ok (parts.filter (!·.isEmpty), none), { w with log := w.log ++ [.closed stream] }) := rfl

/-- **A download that is given** asks for its source, opens it, and creates a file of what came in a
directory that has no entry of the name. Its size is that of what came. -/
theorem get_of_given {parts : List Bytes} (hname : Path.IsName (Path.base source).toList)
    (hdir : w.disk.look dir = .ok (place, .directory)) (hstep : Disk.IsStep (Path.base source))
    (htaken : Disk.IsTaken (Path.localChild dir (Path.base source)))
    (hnone : w.disk.nodeAt? (place ++ [Path.base source]) = none)
    (hservice : GivesDownload w.service parts) :
    ∃ w', outcome (get c source dir) w =
        (.ok { source, dest := Path.localChild dir (Path.base source), direction := .get,
               size := parts.flatten.length }, w') ∧
      (∃ xs, w.Passed w' xs ∧ xs.map (·.request) =
        [c.request .status source, c.request .openFile source]) ∧
      w.Tells w' [] ∧
      w'.disk = w.disk.set (place ++ [Path.base source]) (.file parts.flatten) := by
  obtain ⟨w₁, w₂, hexists, hopen, ⟨xs, hpassed, hrequests⟩, htells, hdisk₁, hdisk₂⟩ :=
    open_of_given c source hservice
  have habsent : w.disk.isPresent (Path.localChild dir (Path.base source)) = false := by
    rw [Disk.isPresent, Disk.find_absent hdir hname hstep htaken hnone]
  have hcreate : ∀ content, w.disk.create (Path.localChild dir (Path.base source)) content =
      .ok (w.disk.set (place ++ [Path.base source]) (.file content)) :=
    Disk.create_localChild hdir hname hstep htaken hnone
  -- the surroundings once the stream has been closed, and the disk with the file on it
  let w₃ : Surroundings := { w₂ with log := w₂.log ++ [.closed w₁.log.length] }
  let d := w.disk.set (place ++ [Path.base source]) (.file parts.flatten)
  have hcreated : outcome (createLocal (Path.localChild dir (Path.base source)) parts.flatten) w₃ =
      (.ok d, w₃) := by
    refine outcome_createLocal ?_
    change w₂.disk.create _ _ = _
    rw [hdisk₂]
    exact hcreate _
  refine ⟨{ w₃ with disk := d }, ?_, ⟨xs, ?_, hrequests⟩, ?_, rfl⟩
  · unfold get
    rw [outcome_bind_of_ok hexists]
    simp only [if_true]
    rw [outcome_bind_of_ok (outcome_disk w₁), hdisk₁, habsent]
    simp only [Bool.false_eq_true, if_false]
    rw [outcome_bind_of_ok hopen,
      outcome_bind_of_ok (outcome_createLocal (by rw [hdisk₂]; exact hcreate [])),
      outcome_bind_of_ok (outcome_readAll c _ parts w₂)]
    -- Empty pieces are dropped on the way, which the content does not show.
    simp only [List.flatten_filter_not_isEmpty]
    rw [outcome_bind_of_ok hcreated]
    rfl
  · have hclosed : Surroundings.Passed w₂ { w₃ with disk := d } [] :=
      ⟨⟨[.closed w₁.log.length], rfl, rfl⟩, rfl, rfl⟩
    simpa only [List.append_nil] using hpassed.trans hclosed
  · exact htells.trans ⟨[.closed w₁.log.length], rfl, rfl⟩

/-- **A download that is given for a path that is too long** fails and creates nothing. -/
theorem get_of_far {parts : List Bytes}
    (hfar : Disk.maxPath < (Path.localChild dir (Path.base source)).utf8ByteSize)
    (hservice : GivesDownload w.service parts) :
    ∃ f w', outcome (get c source dir) w = (.error f, w') ∧ w'.disk = w.disk := by
  obtain ⟨w₁, w₂, hexists, hopen, -, -, hdisk₁, hdisk₂⟩ :=
    open_of_given c source hservice
  obtain ⟨cause, hfind, hcreate⟩ := w.disk.refuses_far hfar
  have habsent : w.disk.isPresent (Path.localChild dir (Path.base source)) = false := by
    rw [Disk.isPresent, hfind]
  obtain ⟨f, hrefused⟩ :
      ∃ f, outcome (createLocal (Path.localChild dir (Path.base source)) []) w₂ =
        (.error f, w₂) :=
    outcome_createLocal_of_error (by rw [hdisk₂, hcreate])
  refine ⟨f, w₂, ?_, hdisk₂⟩
  unfold get
  rw [outcome_bind_of_ok hexists]
  simp only [if_true]
  rw [outcome_bind_of_ok (outcome_disk w₁), hdisk₁, habsent]
  simp only [Bool.false_eq_true, if_false]
  rw [outcome_bind_of_ok hopen, outcome_bind_of_error hrefused]

end Transfer

end NamenodeShell
