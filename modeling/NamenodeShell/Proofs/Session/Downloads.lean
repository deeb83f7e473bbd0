import NamenodeShell.Proofs.Classification
import NamenodeShell.Proofs.Disk.Vacancy
import NamenodeShell.Proofs.Session.Boundary
import NamenodeShell.Proofs.Transfer.Download

/-!
# Downloads that break off

What is left of a download, and what is said of it, once its source has been opened and its
destination could be created (`Kept`). The file holds all that came, in order, and no more, whether
the stream came to its end or broke off; the stream is closed. A download that came to its end gives
the size of what came. One that broke off fails by what broke it, and a session that asked for it
shows one line, a report under the name of the command.
-/
set_option autoImplicit false

namespace NamenodeShell

open Shell

namespace Session

variable {s : Session} {w w' : Surroundings} {f : Failure}

/-- **A line asks for a download** of a source into a directory. -/
structure AsksFor (s : Session) (line : String) (c : Client) (source dir : String) : Prop where
  client : s.client = c
  localDir : s.localDir = dir
  names : ∃ name, Command.ofLine line = ⟨Verb.get.word, [name]⟩ ∧ Path.isBare name = true ∧
    s.remote.child name = .ok source

/-- A line that asks for a download that fails reports the failure, and shows nothing else. -/
theorem execute_get_failed {line source dir : String} {c : Client}
    (hline : AsksFor s line c source dir)
    (hget : outcome (Transfer.get c source dir) w = (.error f, w')) (hf : f ≠ .interrupted) :
    ∃ shown, outcome (s.execute line) w =
        (.ok (s, true), { w' with log := w'.log ++ [.shown (.allOver .red shown)] }) ∧
      Shows .get f shown ∧ (label .get f ++ ": ").toList <+: shown := by
  obtain ⟨rfl, rfl, name, hcommand, hname, hchild⟩ := hline
  refine execute_reported_front (v := .get) (congrArg Command.name hcommand) ?_ hf
  rw [hcommand]
  have hsession : outcome (s.get name) w = (.error f, w') := by
    unfold get
    rw [bareName_of_isBare hname, lift_ok_bind, hchild, lift_ok_bind]
    exact outcome_bind_of_error hget
  exact outcome_bind_of_error hsession

end Session

namespace Transfer

variable {c : Client} {source dest dir : String} {w w' : Surroundings} {place : Place}
variable {r : Response}

/-- What a download that has read its source leaves shows nothing. -/
theorem tells_created (c : Client) (source : String) (w : Surroundings) (r : Response)
    (place : Place) : w.Tells (created c source w r place) [] :=
  ((Surroundings.Tells.exchanged w _).trans (.exchanged _ _)).trans ⟨[_], rfl, rfl⟩

/-- The disk as others have left it is that on which the destination is created. -/
theorem leftBy_created (c : Client) (source : String) (w : Surroundings) (r : Response)
    (place : Place) : w.leftBy (created c source w r place) = (opened c source w).disk := by
  have hpassed := (passed_created c source w ((opened c source w).disk.set place
    (.file (r.body.stream (some Client.bufferSize)).1.flatten)) (asked c source w).log.length)
  rw [(spared_opened c source w).disk_eq, Surroundings.leftBy, Surroundings.leftBy,
    (passed_opened c source w).exchanges_eq]
  exact congrArg (fun xs => w.disk.after (w.service.take (List.length xs))) hpassed.exchanges_eq

/-- A stream that comes to its end gives a transfer, -/
theorem delivered_of_end {stream : List Bytes × Option Break} (h : stream.2 = none) :
    delivered c source dest stream = .ok {
      source, dest, direction := .get, size := stream.1.flatten.length } := by
  obtain ⟨parts, ending⟩ := stream
  cases h
  rfl

/-- and one that breaks off the trouble that broke it. -/
theorem delivered_of_break {stream : List Bytes × Option Break} {b : Break}
    (h : stream.2 = some b) :
    delivered c source dest stream = .error (c.faultFailure b.fault) := by
  obtain ⟨parts, ending⟩ := stream
  cases h
  rfl

/-- **What came of a download is kept**, and what became of it is told, by the pieces of its stream
and how they ended. -/
structure Kept (c : Client) (source dir : String) (w w' : Surroundings)
    (result : Except Failure Transfer) (parts : List Bytes) (ending : Option Break) : Prop where
  /-- The file at the destination holds the pieces one after the other, -/
  holds : ∃ place, w'.disk.look (Path.localChild dir (Path.base source)) =
    .ok (place, .file parts.flatten)
  /-- and nothing else has been changed on the disk but by others. -/
  creates : (w.leftBy w').create (Path.localChild dir (Path.base source)) parts.flatten =
    .ok w'.disk
  /-- The stream is closed. -/
  closes : w.Closes w' (c.request .openFile source)
  /-- A download that comes to its end gives the size of what came. -/
  completes : ending = none → result = .ok {
    source, dest := Path.localChild dir (Path.base source), direction := .get,
    size := parts.flatten.length }
  /-- One that breaks off fails, by the trouble that broke it. -/
  breaks : ∀ b, ending = some b → result = .error (c.faultFailure b.fault) ∧
    (c.faultFailure b.fault).IsSorted False False
      (b.trouble.ofConnection = true ∨ b.trouble.ofTime = true)
  /-- A session that has asked for it goes on as it was, and shows one line, which begins with the
  name of the command and reports the failure. -/
  reports : ∀ b (s : Session) line, ending = some b → s.AsksFor line c source dir →
    ∃ shown w'', outcome (s.execute line) w = (.ok (s, true), w'') ∧
      w.shown w'' = [.allOver .red shown] ∧ "get: ".toList <+: shown ∧
      Session.Shows .get (c.faultFailure b.fault) shown

/-- **A download keeps what came of it.** -/
theorem get_keeps {d : Disk}
    (hopen : ⟨c.request .openFile source, .response r⟩ ∈
      w.exchanges (outcome (get c source dir) w).2)
    (hr : r.isRefusal = false)
    (hcreate : (w.leftBy (outcome (get c source dir) w).2).create
      (Path.localChild dir (Path.base source)) [] = .ok d) :
    Kept c source dir w (outcome (get c source dir) w).2 (outcome (get c source dir) w).1
      (r.body.stream (some Client.bufferSize)).1 (r.body.stream (some Client.bufferSize)).2 := by
  obtain ⟨place, hvacant, hget⟩ := get_of_create hopen hr hcreate
  have hcloses := ((downloads_get c source dir w).closes_iff hopen hr).mpr
    (by rw [hget, leftBy_created]; exact ⟨place, hvacant⟩)
  rw [hget] at hcloses ⊢
  exact {
    holds := ⟨place, hvacant.look_set _⟩
    creates := by
      rw [leftBy_created]
      exact Disk.create_eq_ok_iff.mpr ⟨place, hvacant, rfl⟩
    closes := hcloses
    completes := delivered_of_end
    breaks := fun b hb => ⟨delivered_of_break hb, Client.isSorted_faultFailure c b.trouble⟩
    reports := by
      intro b s line hb hline
      rw [delivered_of_break hb] at hget
      -- Trouble with a stream is no interruption, so the session reports it.
      have hf : c.faultFailure b.fault ≠ .interrupted := Client.faultFailure_ne_interrupted c _
      obtain ⟨shown, hexecute, hshows, hfront⟩ := Session.execute_get_failed hline hget hf
      refine ⟨shown, _, hexecute, ?_, ?_, hshows⟩
      · exact ((tells_created c source w r place).trans (.say _ _)).shown_eq
      · rwa [Session.label, if_pos (.inl (c.isOwn_faultFailure b.fault))] at hfront }

/-- A stream of which three pieces come, one of them empty, before nothing comes any more. -/
def sampleStalled : Response where
  status := 200
  headers := []
  body := .pieces [[104], [], [105]] (some .stalled)

/-- A service that shows a file and opens it, and a directory for it. -/
def stalledSurroundings : Surroundings where
  service := [⟨.response sampleStatus, none⟩, ⟨.response sampleStalled, none⟩]
  disk := { tree := [(["home"], .directory)] }

/-- **A download that stalls** keeps the two bytes that came, fails as a service that cannot be
reached, and is reported under `get`. -/
theorem get_keeps_stalled :
    (∃ place, (outcome (get sampleClient "/user/alice/f" "/home") stalledSurroundings).2.disk.look
        "/home/f" = .ok (place, .file [104, 105])) ∧
      (outcome (get sampleClient "/user/alice/f" "/home") stalledSurroundings).1 =
        .error (.unreachable "nn" 9870) ∧
      ∃ shown w', outcome (Session.sample.execute "get \"f\"") stalledSurroundings =
          (.ok (Session.sample, true), w') ∧
        stalledSurroundings.shown w' = [.allOver .red shown] ∧ "get: ".toList <+: shown := by
  have hdest : Path.localChild "/home" (Path.base "/user/alice/f") = "/home/f" := by
    decide +kernel
  have hchild : Path.remoteChild "/user/alice" "f" = "/user/alice/f" := by
    decide +kernel
  have hpresence : (sampleClient.presence (.response sampleStatus)).toOption = some true := by
    decide +kernel
  have habsent : stalledSurroundings.disk.isPresent
      (Path.localChild "/home" (Path.base "/user/alice/f")) = false := by
    decide +kernel
  have hvacant : Disk.Vacant stalledSurroundings.disk
      (Path.localChild "/home" (Path.base "/user/alice/f")) ["home", "f"] :=
    ⟨by decide +kernel, ["home"], "f", false, by decide +kernel, rfl⟩
  have hexchanges := (downloads_get sampleClient "/user/alice/f" "/home"
    stalledSurroundings).exchanges_eq (Client.isFound_of_presence hpresence) habsent
  have hopen : ⟨sampleClient.request .openFile "/user/alice/f", .response sampleStalled⟩ ∈
      stalledSurroundings.exchanges
        (outcome (get sampleClient "/user/alice/f" "/home") stalledSurroundings).2 := by
    rw [hexchanges]
    exact List.mem_cons_of_mem _ List.mem_cons_self
  have hkept := get_keeps hopen rfl (by
    rw [Surroundings.leftBy, hexchanges]
    exact Disk.create_eq_ok_iff.mpr ⟨_, hvacant, rfl⟩)
  obtain ⟨place, hlook⟩ := hkept.holds
  rw [hdest] at hlook
  obtain ⟨shown, w', hexecute, hshown, hfront, -⟩ :=
    hkept.reports .stalled Session.sample "get \"f\"" rfl
      ⟨rfl, rfl, "f", by decide +kernel, by decide +kernel, congrArg Except.ok hchild⟩
  exact ⟨⟨place, hlook⟩, (hkept.breaks .stalled rfl).1, shown, w', hexecute, hshown, hfront⟩

end Transfer

end NamenodeShell
