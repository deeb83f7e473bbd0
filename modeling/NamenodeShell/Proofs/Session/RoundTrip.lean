import NamenodeShell.Proofs.Markup.Escape
import NamenodeShell.Proofs.Session.Commands
import NamenodeShell.Proofs.Transfer.Moves

/-!
# There and back

What a file is after it has been uploaded and downloaded again: what it was, byte for byte
(`put_get_identity`). The upload sends the content in pieces, and however the service cuts what it
was sent when it is asked for it, the download makes the same content of it. Both report the size.

The download needs a directory that is there, has no entry of the name yet, and is near enough to
the root for the path of the name in it to be one the system takes. Without the last a download
fails after all went well with the service (`get_far_from_root`).
-/
set_option autoImplicit false

namespace NamenodeShell

open Shell

namespace Session

variable {s : Session} {w w' : Surroundings}

/-! ## Reports -/

/-- **What a transfer reports**: one line, the end of which is the number of bytes. -/
def Reports (w w' : Surroundings) (verb source dest : String) (size : Nat) : Prop :=
  ∃ cs, Markup.render (Markup.escape s!"{verb} {source} -> {dest} ({size} bytes)") =
      .ok (.ofChars (cs ++ s!" ({size} bytes)".toList)) ∧
    w.Tells w' [.ofChars (cs ++ s!" ({size} bytes)".toList)]

/-- The size in a report takes no part in any tag. -/
theorem isPlain_size (size : Nat) : Markup.IsPlain s!" ({size} bytes)".toList ∧
    s!" ({size} bytes)".toList.getLast? = some ')' := by
  have hsize : s!" ({size} bytes)".toList =
      " (".toList ++ Nat.toDigits 10 size ++ " bytes)".toList := by
    rw [String.toList_append, String.toList_append, Nat.toString_eq_ofList_toDigits,
      String.toList_ofList]
    rfl
  have hopen : Markup.IsPlain " (".toList := by
    simp [Markup.IsPlain]
  have hclose : Markup.IsPlain " bytes)".toList := by
    simp [Markup.IsPlain]
  have hdigits : Markup.IsPlain (Nat.toDigits 10 size) := by
    intro c hc
    have hc := Nat.isDigit_of_mem_toDigits (by decide) (by decide) hc
    constructor <;> (rintro rfl; exact absurd hc (by decide))
  rw [hsize]
  constructor
  · exact (hopen.append hdigits).append hclose
  · rw [List.getLast?_append]
    rfl

/-- **A transfer is reported**, whatever characters its paths have. -/
theorem outcome_report (verb : String) (t : Transfer) (w : Surroundings) :
    ∃ w', outcome (report verb t) w = (.ok (), w') ∧
      Reports w w' verb t.source t.dest t.size ∧ w.Passed w' [] ∧ w'.disk = w.disk := by
  obtain ⟨hplain, hlast⟩ := isPlain_size t.size
  have hne : s!" ({t.size} bytes)".toList ≠ [] := by
    intro hnil
    rw [hnil] at hlast
    cases hlast
  have hsplit : s!"{verb} {t.source} -> {t.dest} ({t.size} bytes)" =
      s!"{verb} {t.source} -> {t.dest}" ++ s!" ({t.size} bytes)" := by
    simp only [String.append_assoc]
  obtain ⟨cs, hcs⟩ := Markup.render_escape_append (s := s!"{verb} {t.source} -> {t.dest}")
    hplain hne (by rw [hlast]; decide)
  rw [← hsplit] at hcs
  let text := Markup.Styled.ofChars (cs ++ s!" ({t.size} bytes)".toList)
  refine ⟨{ w with log := w.log ++ [.shown text] }, ?_, ⟨cs, hcs, [_], rfl, rfl⟩,
    .of_log rfl w, rfl⟩
  unfold report Shell.tell
  rw [outcome_say, hcs]

/-! ## The two lines -/

/-- A line whose command gives a session gives it. -/
theorem execute_of_run {line : String} {v : Verb} {args : List String} {a : Session × Bool}
    (hline : Command.ofLine line = ⟨v.word, args⟩) (h : outcome (s.run v args) w = (.ok a, w')) :
    outcome (s.execute line) w = (.ok a, w') := by
  have hname : (Command.ofLine line).name = v.word := by
    rw [hline]
  rw [execute_eq hname, hline, outcome_tryCatch, h]

/-- **What a command does with a transfer**: it carries it out and reports it. -/
theorem outcome_transfer {act : Shell Transfer} (verb : String) {t : Transfer}
    {requests : List Request} {w₁ : Surroundings} (hact : outcome act w = (.ok t, w₁))
    (hpassed : ∃ xs, w.Passed w₁ xs ∧ xs.map (·.request) = requests) (htells : w.Tells w₁ []) :
    ∃ w', outcome (act >>= report verb) w = (.ok (), w') ∧ w.requests w' = requests ∧
      Reports w w' verb t.source t.dest t.size ∧ w'.disk = w₁.disk := by
  obtain ⟨w', hreport, ⟨cs, hcs, hshown⟩, hsilent, hdisk⟩ := outcome_report verb t w₁
  obtain ⟨xs, hxs, rfl⟩ := hpassed
  refine ⟨w', by rw [outcome_bind_of_ok hact, hreport], ?_, ⟨cs, hcs, htells.trans hshown⟩, hdisk⟩
  rw [Surroundings.requests, (hxs.trans hsilent).exchanges_eq, List.append_nil]

/-- **A `put` that the service takes** sends the content of the file and reports its size. -/
theorem put_sends {cwd name line : String} {source : Place} {content : Bytes} {target : Json}
    (hremote : s.remote = .path cwd) (hname : Path.isBare name = true)
    (hfile : w.disk.look (Path.localChild s.localDir name) = .ok (source, .file content))
    (hservice : Transfer.TakesUpload w.service target)
    (hline : Command.ofLine line = ⟨"put", [name]⟩) :
    ∃ w', outcome (s.execute line) w = (.ok (s, true), w') ∧
      w.requests w' =
        [s.client.request .status (Path.remoteChild cwd name),
          s.client.request .create (Path.remoteChild cwd name) [("overwrite", "false")],
          .upload .put target (.parts (Bytes.chunks Client.bufferSize content))
            s.client.timeout] ∧
      Reports w w' "Uploaded" (Path.localChild s.localDir name) (Path.remoteChild cwd name)
        content.length ∧
      w'.disk = w.disk := by
  obtain ⟨w₁, hput, hpassed, htells, hdisk⟩ := Transfer.put_of_taken s.client _ cwd
    hfile hservice
  rw [Path.base_localChild (Path.isBare_iff.mp hname).slash_free] at hput hpassed
  obtain ⟨w', hreport, hrequests, hreports, hdisk'⟩ :=
    outcome_transfer "Uploaded" hput hpassed htells
  refine ⟨w', execute_of_run (v := .put) hline (outcome_unchanged ?_), hrequests, hreports,
    hdisk'.trans hdisk⟩
  unfold put
  rw [bareName_of_isBare hname, lift_ok_bind]
  simp only [hremote]
  exact hreport

/-- **A `get` that the service gives** creates a file of what came and reports its size. -/
theorem get_creates {cwd name line : String} {place : Place} {parts : List Bytes}
    (hremote : s.remote = .path cwd) (hcwd : Path.isRooted cwd.toList = true)
    (hname : Path.isBare name = true) (hdir : w.disk.look s.localDir = .ok (place, .directory))
    (hstep : Disk.IsStep name) (htaken : Disk.IsTaken (Path.localChild s.localDir name))
    (hnone : w.disk.nodeAt? (place ++ [name]) = none)
    (hservice : Transfer.GivesDownload w.service parts)
    (hline : Command.ofLine line = ⟨"get", [name]⟩) :
    ∃ w', outcome (s.execute line) w = (.ok (s, true), w') ∧
      w.requests w' =
        [s.client.request .status (Path.remoteChild cwd name),
          s.client.request .openFile (Path.remoteChild cwd name)] ∧
      Reports w w' "Downloaded" (Path.remoteChild cwd name) (Path.localChild s.localDir name)
        parts.flatten.length ∧
      w'.disk = w.disk.set (place ++ [name]) (.file parts.flatten) := by
  obtain ⟨-, hbase, -⟩ := Path.remoteChild_bare hcwd hname
  have hget := @Transfer.get_of_given w s.client (Path.remoteChild cwd name) s.localDir place parts
  rw [hbase] at hget
  obtain ⟨w₁, hget, hpassed, htells, hdisk⟩ :=
    hget (Path.isBare_iff.mp hname) hdir hstep htaken hnone hservice
  obtain ⟨w', hreport, hrequests, hreports, hdisk'⟩ :=
    outcome_transfer "Downloaded" hget hpassed htells
  refine ⟨w', execute_of_run (v := .get) hline (outcome_unchanged ?_), hrequests, hreports,
    hdisk'.trans hdisk⟩
  unfold get
  rw [bareName_of_isBare hname, lift_ok_bind, hremote]
  exact hreport

/-! ## There and back -/

/-- **What has been put is what one gets.** A `put` that the service takes sends the content of the
file. However what was sent is cut into pieces, a `get` of them in a directory without an entry of
the name, whose path there is not too long, creates a file of the same content there. Both report
the size of the content. -/
theorem put_get_identity {cwd name putLine getLine : String} {source : Place} {content : Bytes}
    {target : Json} (hremote : s.remote = .path cwd) (hcwd : Path.isRooted cwd.toList = true)
    (hname : Path.isBare name = true)
    (hfile : w.disk.look (Path.localChild s.localDir name) = .ok (source, .file content))
    (hservice : Transfer.TakesUpload w.service target)
    (hput : Command.ofLine putLine = ⟨"put", [name]⟩)
    (hget : Command.ofLine getLine = ⟨"get", [name]⟩) :
    ∃ w' sent, outcome (s.execute putLine) w = (.ok (s, true), w') ∧
      w.requests w' =
        [s.client.request .status (Path.remoteChild cwd name),
          s.client.request .create (Path.remoteChild cwd name) [("overwrite", "false")],
          .upload .put target (.parts sent) s.client.timeout] ∧
      sent.flatten = content ∧
      Reports w w' "Uploaded" (Path.localChild s.localDir name) (Path.remoteChild cwd name)
        content.length ∧
      ∀ (dir : String) (place : Place) (parts : List Bytes) (v : Surroundings),
        parts.flatten = sent.flatten → v.disk.look dir = .ok (place, .directory) →
        v.disk.nodeAt? (place ++ [name]) = none →
        (Path.localChild dir name).utf8ByteSize ≤ Disk.maxPath →
        Transfer.GivesDownload v.service parts →
        ∃ v', outcome ({ s with localDir := dir }.execute getLine) v =
            (.ok ({ s with localDir := dir }, true), v') ∧
          v'.disk.look (Path.localChild dir name) = .ok (place ++ [name], .file content) ∧
          v'.disk.nodeAt? (place ++ [name]) = some (.file content) ∧
          (∀ other, other ≠ place ++ [name] → v'.disk.nodeAt? other = v.disk.nodeAt? other) ∧
          Reports v v' "Downloaded" (Path.remoteChild cwd name) (Path.localChild dir name)
            content.length := by
  obtain ⟨w', hexecute, hrequests, hreports, -⟩ := put_sends hremote hname hfile hservice hput
  refine ⟨w', _, hexecute, hrequests, Bytes.flatten_chunks _ content, hreports, ?_⟩
  -- The name could be put, so it can be a name on the local side too; only its path there may be
  -- too long, which is excluded.
  intro dir place parts v hparts hdir hnone hshort hgives
  have hIsName := Path.isBare_iff.mp hname
  obtain ⟨hstep, hnul⟩ := Disk.isStep_of_find hIsName (Disk.look_eq_ok_iff.mp hfile)
  have hdirTaken := (Disk.find_eq_ok_iff.mp (Disk.look_eq_ok_iff.mp hdir)).1
  have htaken := Disk.isTaken_localChild hdirTaken hIsName hnul hshort
  have hne : place ++ [name] ≠ [] := List.append_ne_nil_of_right_ne_nil _ (List.cons_ne_nil _ _)
  obtain ⟨v', hexecute', -, hreports', hdisk⟩ := get_creates (s := { s with localDir := dir })
    hremote hcwd hname hdir hstep htaken hnone hgives hget
  rw [hparts, Bytes.flatten_chunks] at hreports' hdisk
  refine ⟨v', hexecute', ?_, ?_, ?_, hreports'⟩
  · rw [hdisk]
    exact Disk.look_created hdir hIsName hstep htaken hnone content
  · rw [hdisk]
    exact Disk.nodeAt?_set_self _ hne _
  · intro other hother
    rw [hdisk]
    exact Disk.nodeAt?_set_of_ne _ hother _

/-- A disk with one file, and an empty directory. -/
def sampleDisk : Disk where
  tree := [(["home"], .directory), (["home", "n"], .file [104, 105]), (["out"], .directory)]

/-- The answers of a service that takes an upload. -/
def sampleTaking : List Answer :=
  [⟨.response { status := 404, headers := [], body := .whole [] }, none⟩,
    ⟨.response { status := 307, headers := [("Location", "d")], body := .whole [] }, none⟩,
    ⟨.response { status := 201, headers := [], body := .whole [] }, none⟩]

/-- The answers of a service that gives a download in pieces. -/
def sampleGiving (parts : List Bytes) : List Answer :=
  [⟨.response {
      status := 200, headers := []
      body := .whole (Bytes.ofText "\x7b\"FileStatus\":1\x7d") }, none⟩,
    ⟨.response { status := 200, headers := [], body := .pieces parts none }, none⟩]

/-- The sample service takes an upload, -/
theorem takesUpload_sample : Transfer.TakesUpload sampleTaking (.text "d") := by
  have hheader : (Response.header?
      { status := 307, headers := [("Location", "d")], body := .whole [] } "Location").filter
        (· ≠ "") = some "d" := by
    decide +kernel
  refine ⟨_, _, _, [], rfl, ⟨_, rfl, rfl, ?_⟩, ⟨rfl, ?_⟩, rfl⟩
  · decide +kernel
  · rw [Client.location, hheader]

/-- and gives a download, in whatever pieces. -/
theorem givesDownload_sample (parts : List Bytes) :
    Transfer.GivesDownload (sampleGiving parts) parts :=
  ⟨_, _, [], rfl, Client.isFound_of_presence (c := sample.client) (by decide +kernel), rfl, rfl⟩

/-- **Put and got again**: two bytes are put in one piece and come back in three, of which one is
empty. -/
theorem put_get_identity_sample :
    ∃ w v, outcome (sample.execute "put \"n\"") { service := sampleTaking, disk := sampleDisk } =
        (.ok (sample, true), w) ∧
      outcome ({ sample with localDir := "/out" }.execute "get \"n\"")
          { service := sampleGiving [[104], [], [105]], disk := sampleDisk } =
        (.ok ({ sample with localDir := "/out" }, true), v) ∧
      v.disk.look "/out/n" = .ok (["out", "n"], .file [104, 105]) := by
  have hname : Path.isBare "n" = true := by
    decide +kernel
  have hfile : sampleDisk.look (Path.localChild sample.localDir "n") =
      .ok (["home", "n"], .file [104, 105]) := by
    decide +kernel
  have hput : Command.ofLine "put \"n\"" = ⟨"put", ["n"]⟩ := by
    decide +kernel
  have hget : Command.ofLine "get \"n\"" = ⟨"get", ["n"]⟩ := by
    decide +kernel
  have hpath : Path.localChild "/out" "n" = "/out/n" := by
    decide +kernel
  have hdir : sampleDisk.look "/out" = .ok (["out"], .directory) := by
    decide +kernel
  obtain ⟨w, sent, hsends, -, hsent, -, hgets⟩ := put_get_identity (s := sample)
    (w := { service := sampleTaking, disk := sampleDisk }) rfl rfl hname hfile takesUpload_sample
    hput hget
  obtain ⟨v, hcreates, hlook, -⟩ := hgets "/out" ["out"] [[104], [], [105]]
    { service := sampleGiving [[104], [], [105]], disk := sampleDisk } hsent.symm hdir rfl
    (by rw [hpath]; decide +kernel) (givesDownload_sample _)
  rw [hpath] at hlook
  exact ⟨w, v, hsends, hcreates, hlook⟩

/-! ## Too far from the root -/

/-- What is made of a failure leaves the disk as it is. -/
theorem disk_recover (s : Session) (v : Verb) (f : Failure) (w : Surroundings) :
    (outcome (s.recover v f) w).2.disk = w.disk := by
  unfold recover
  split
  next => rfl
  next =>
    unfold unchanged
    rw [outcome_bind, outcome_say]
    cases Markup.render (failureLine v f) <;> rfl

/-- **A `get` creates nothing where the path of the name is too long**, though the service gives the
file and the directory is there. -/
theorem get_far {cwd name line : String} {parts : List Bytes} (hremote : s.remote = .path cwd)
    (hcwd : Path.isRooted cwd.toList = true) (hname : Path.isBare name = true)
    (hfar : Disk.maxPath < (Path.localChild s.localDir name).utf8ByteSize)
    (hservice : Transfer.GivesDownload w.service parts)
    (hline : Command.ofLine line = ⟨"get", [name]⟩) :
    (outcome (s.execute line) w).2.disk = w.disk := by
  obtain ⟨-, hbase, -⟩ := Path.remoteChild_bare hcwd hname
  obtain ⟨f, w₁, hget, hdisk⟩ := Transfer.get_of_far s.client (Path.remoteChild cwd name) s.localDir
    (by rw [hbase]; exact hfar) hservice
  have hrun : outcome (s.run .get [name]) w = (.error f, w₁) := by
    -- The download fails where the file is to be created, before anything is stored.
    refine outcome_bind_of_error ?_
    unfold Session.get
    rw [bareName_of_isBare hname, lift_ok_bind, hremote]
    change outcome (Transfer.get s.client (Path.remoteChild cwd name) s.localDir >>= _) w = _
    exact outcome_bind_of_error hget
  have hverb : (Command.ofLine line).name = Verb.get.word := by
    rw [hline]
    rfl
  rw [execute_eq hverb, hline, outcome_tryCatch, hrun]
  exact (disk_recover s .get f w₁).trans hdisk

/-- **A directory can be too far for what has been put**: all goes well with the service, the
directory is there and has no entry of the name, and yet no file is created. -/
theorem get_far_from_root :
    sampleDisk.look (Path.localChild sample.localDir "n") = .ok (["home", "n"], .file [104, 105]) ∧
      Transfer.TakesUpload sampleTaking (.text "d") ∧
      Command.ofLine "put \"n\"" = ⟨"put", ["n"]⟩ ∧ Command.ofLine "get \"n\"" = ⟨"get", ["n"]⟩ ∧
      sampleDisk.look (Disk.slashes Disk.maxPath) = .ok ([], .directory) ∧
      sampleDisk.nodeAt? ["n"] = none ∧
      Transfer.GivesDownload (sampleGiving [[104, 105]]) [[104, 105]] ∧
      (outcome ({ sample with localDir := Disk.slashes Disk.maxPath }.execute "get \"n\"")
        { service := sampleGiving [[104, 105]], disk := sampleDisk }).2.disk.nodeAt? ["n"] =
          none := by
  have hname : Path.isBare "n" = true := by
    decide +kernel
  have hget : Command.ofLine "get \"n\"" = ⟨"get", ["n"]⟩ := by
    decide +kernel
  have hfar : Disk.maxPath < (Path.localChild (Disk.slashes Disk.maxPath) "n").utf8ByteSize := by
    have hsize := Disk.size_localChild (Disk.slashes Disk.maxPath) (Path.isBare_iff.mp hname)
    rw [Disk.utf8ByteSize_slashes] at hsize
    exact hsize
  refine ⟨by decide +kernel, takesUpload_sample, by decide +kernel, hget,
    Disk.look_slashes sampleDisk (by decide) (Nat.le_refl _), rfl, givesDownload_sample _, ?_⟩
  rw [get_far (s := { sample with localDir := Disk.slashes Disk.maxPath }) rfl rfl hname hfar
    (givesDownload_sample [[104, 105]]) hget]
  rfl

end Session

end NamenodeShell
