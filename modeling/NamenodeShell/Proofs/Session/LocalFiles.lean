import NamenodeShell.Proofs.Session.Routine
import NamenodeShell.Proofs.Transfer.Download

/-!
# What lines do to the local disk

A line leaves the disk as others have left it, who may create files before any answer comes; or it
is a `get`, and one file has been added (`local_files_kept`). `Added` says what all has to be so
then. The file is in a place where there was nothing when the service had opened the remote one, so
whatever anybody has created by then is not touched, be it a dangling link.

That the disk is spared is a routine law, so it is obeyed by all lines but those that come to a
download. Of the four ways a download ends three spare the disk, and the fourth is what `Added`
tells.
-/
set_option autoImplicit false

namespace NamenodeShell

open Shell

namespace Session

variable {s : Session} {w w' : Surroundings}

/-- **A line has added a file**, and done nothing else to the disk. -/
structure Added (s : Session) (line : String) (w w' : Surroundings) (name : String)
    (parent : Place) (r : Response) : Prop where
  /-- The line is a `get` of the name of the file, a bare one. -/
  line : Command.ofLine line = ⟨"get", [name]⟩
  bare : Path.isBare name = true
  /-- The service has shown the remote file and opened it, and that is all it was asked. -/
  exchanges : ∃ cwd found, s.remote = .path cwd ∧ found.IsFound ∧ r.isRefusal = false ∧
    w.exchanges w' = [⟨s.client.request .status (Path.remoteChild cwd name), found⟩,
      ⟨s.client.request .openFile (Path.remoteChild cwd name), .response r⟩]
  /-- The file is in the local directory, and nothing of its name was there by then. -/
  place : (w.leftBy w').LeadsTo s.localDir parent
  absent : (w.leftBy w').nodeAt? (parent ++ [name]) = none
  disk : w'.disk = { w.leftBy w' with
    tree := (w.leftBy w').tree ++
      [(parent ++ [name], .file (r.body.stream (some Client.bufferSize)).1.flatten)] }

/-- A `get` that comes to its transfer spares the disk or adds a file to it. -/
theorem spared_or_added {cwd name line : String} {w₁ : Surroundings}
    (hline : Command.ofLine line = ⟨"get", [name]⟩) (hbare : Path.isBare name = true)
    (hremote : s.remote = .path cwd)
    (h : Transfer.Downloads s.client (Path.remoteChild cwd name) (Path.localChild s.localDir name)
      w w₁) (hquiet : w₁.Quiet w') :
    w'.disk = w.leftBy w' ∨ ∃ parent r, Added s line w w' name parent r := by
  have hspared : w.Spared w₁ → w'.disk = w.leftBy w' := by
    intro hspared
    obtain ⟨xs, hxs, -⟩ := id hspared
    rw [hquiet.2, (hquiet.exchanges_eq hxs).2, hspared.disk_eq]
  cases h with
  | unopened => exact Or.inl (hspared (Surroundings.Spared.exchanged w _))
  | refused => exact Or.inl (hspared (Transfer.spared_opened _ _ w))
  | uncreated => exact Or.inl (hspared (Transfer.spared_opened _ _ w))
  | @created r place hfound hreply hr hdest =>
    obtain ⟨parent, hparent, rfl, hnone⟩ := hdest.of_localChild (Path.isBare_iff.mp hbare)
    obtain ⟨hxs, hleft⟩ := hquiet.exchanges_eq (Transfer.passed_created _ _ w _ _)
    have hdisk : w.leftBy w' = (Transfer.opened s.client (Path.remoteChild cwd name) w).disk := by
      rw [(Transfer.spared_opened _ _ w).disk_eq, hleft, Surroundings.leftBy,
        (Transfer.passed_created _ _ w _ _).exchanges_eq, Surroundings.leftBy,
        (Transfer.passed_opened _ _ w).exchanges_eq]
    refine Or.inr ⟨parent, r, hline, hbare,
      ⟨cwd, w.reply, hremote, hfound, hr, by rw [hxs, hreply]⟩, ?_, ?_, ?_⟩
    · rw [hdisk]
      exact hparent
    · rw [hdisk]
      exact hnone
    · rw [hquiet.2, hdisk]
      exact Disk.set_of_absent hnone _

/-- **Local files are kept.** Whatever others create while it waits for its answers, a line leaves
the disk as they have left it, or is a `get` that has added one file in a place where there was
nothing. -/
theorem local_files_kept (s : Session) (w : Surroundings) (line : String) :
    (outcome (s.execute line) w).2.disk = w.leftBy (outcome (s.execute line) w).2 ∨
      ∃ name parent r, Added s line w (outcome (s.execute line) w).2 name parent r := by
  rcases s.obeys_execute_or_get (T := Surroundings.Spared) line with
    hspared | ⟨name, cwd, hline, hbare, hremote⟩
  · exact Or.inl (hspared w).disk_eq
  · have hdownload := Transfer.downloads_get s.client (Path.remoteChild cwd name) s.localDir w
    rw [Path.base_remoteChild cwd hbare] at hdownload
    exact (spared_or_added hline hbare hremote hdownload
      (s.after_get hline hremote hbare w)).imp_right fun hadded => ⟨name, hadded⟩

end Session

end NamenodeShell
