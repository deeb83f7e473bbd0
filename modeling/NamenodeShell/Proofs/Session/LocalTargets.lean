import NamenodeShell.Proofs.Disk.Lexical
import NamenodeShell.Proofs.Session.Directories

/-!
# Where local targets lead

A local target is tried as it is typed, and what comes out is the normal form of what was tried, put
under the working directory. So the directory that was tried and the path that comes out are two
things. They agree unless two dots take back a symbolic link (`local_eq_ok`): a walk goes up from
where the link leads, the normal form goes up from where the link is. Where it happens, the path
may name no directory at all (`local_takes_link_back`).

A path with no root is tried as short as it is and comes out longer. Only there the length of what
comes out has to be asked for; a rooted path does not grow.
-/
set_option autoImplicit false

namespace NamenodeShell

namespace Disk

variable {d : Disk} {place : Place} {path : String}

/-! ## The working directory -/

/-- **The working directory is settled** when its own names lead to it from the root, through no
link. -/
structure IsSettled (d : Disk) : Prop where
  names : ∀ n ∈ d.cwd, Path.IsName n.toList
  nul_free : '\x00' ∉ d.cwdPath.toList
  walks : Walks d true 0 [] d.cwd (.at d.cwd .directory)

/-- The path of the working directory is its names, each behind a slash. -/
theorem toList_cwdPath (d : Disk) :
    d.cwdPath.toList = List.replicate 1 '/' ++ Path.glue (d.cwd.map String.toList) := by
  rw [cwdPath, String.toList_append, String.toList_intercalate]
  rfl

/-- It begins at the root, -/
theorem isRooted_cwdPath (d : Disk) : Path.isRooted d.cwdPath.toList = true := by
  rw [toList_cwdPath]
  rfl

/-- and so it is not empty. -/
theorem cwdPath_ne (d : Disk) : d.cwdPath ≠ "" := by
  intro h
  have hrooted := d.isRooted_cwdPath
  rw [h] at hrooted
  cases hrooted

namespace IsSettled

/-- The names of a settled working directory are names of entries, none of them empty or a dot. -/
theorem isName_of_mem (h : d.IsSettled) : ∀ n ∈ d.cwd.map String.toList, Path.IsName n := by
  intro n hn
  obtain ⟨name, hname, rfl⟩ := List.mem_map.mp hn
  exact h.names name hname

/-- The path of the working directory leads to it. -/
theorem walks_cwdPath (h : d.IsSettled) :
    Walks d true 0 [] (namesOf d.cwdPath) (.at d.cwd .directory) := by
  obtain ⟨n, hpieces⟩ := Path.pieces_slashes_glue 1 h.isName_of_mem
  have hself : (d.cwd.map String.toList).map String.ofList = d.cwd := by
    rw [List.map_map]
    exact List.map_id'' (fun _ => String.ofList_toList) d.cwd
  rw [namesOf, toList_cwdPath, hpieces, List.map_append, List.map_replicate, hself]
  exact h.walks.slashes_append n

end IsSettled

/-- **A path made rooted leads where it leads.** -/
theorem walks_join_cwdPath (hd : d.IsSettled) (h : d.look path = .ok (place, .directory)) :
    Walks d true maxLinks [] (namesOf (Path.join d.cwdPath path)) (.at place .directory) ∧
      '\x00' ∉ (Path.join d.cwdPath path).toList := by
  obtain ⟨htaken, hwalk⟩ := find_eq_ok_iff.mp (look_eq_ok_iff.mp h)
  rw [start] at hwalk
  cases hrooted : Path.isRooted path.toList with
  | true =>
    have hjoin : Path.join d.cwdPath path = path := by
      rw [Path.join, Path.joinChars, if_pos hrooted, String.ofList_toList]
    rw [if_pos hrooted] at hwalk
    rw [hjoin]
    exact ⟨hwalk, htaken.nul_free⟩
  | false =>
    rw [if_neg (by rw [hrooted]; exact Bool.false_ne_true)] at hwalk
    -- A path without a root is walked from the working directory, which its own path leads to by no
    -- link, so that all the links there may be are left for the rest.
    have hwhole := hd.walks_cwdPath.join d.cwdPath_ne hrooted hwalk
    rw [Nat.zero_add] at hwhole
    refine ⟨hwhole, ?_⟩
    rw [Path.join, String.toList_ofList]
    intro hnul
    rcases (Path.mem_joinChars _ hrooted).1 hnul with hnul | hnul | hnul
    · exact hd.nul_free hnul
    · exact absurd hnul (by decide)
    · exact htaken.nul_free hnul

/-- **The absolute path of a directory leads to it**, unless a link is taken back on the way, or the
path had no root and has become too long. -/
theorem look_absolute (hd : d.IsSettled) (h : d.look path = .ok (place, .directory))
    (hback : d.TakesNoLinkBack (Path.join d.cwdPath path))
    (hshort : Path.isRooted path.toList = true ∨
      (Path.absolute d.cwdPath path).utf8ByteSize ≤ maxPath) :
    d.look (Path.absolute d.cwdPath path) = .ok (place, .directory) := by
  obtain ⟨hwalk, hnul⟩ := walks_join_cwdPath hd h
  have hjoin : Path.isRooted (Path.join d.cwdPath path).toList = true := by
    rw [Path.join, String.toList_ofList]
    exact Path.isRooted_joinChars d.isRooted_cwdPath _
  refine look_normalize hjoin hback hnul hwalk ?_
  -- A rooted path does not grow when it is made normal; one without a root is asked for its length.
  rcases hshort with hrooted | hshort
  · refine (Path.utf8ByteSize_normalize_le hjoin).trans ?_
    rw [Path.join, Path.joinChars, if_pos hrooted, String.ofList_toList]
    exact (find_eq_ok_iff.mp (look_eq_ok_iff.mp h)).1.short
  · exact hshort

/-- A directory is at some place. -/
theorem look_of_isDirectory (h : d.isDirectory path = true) :
    ∃ place, d.look path = .ok (place, .directory) := by
  unfold isDirectory at h
  split at h
  next place hlook => exact ⟨place, hlook⟩
  next => cases h

end Disk

namespace Navigation

variable {d : Disk} {current target path : String}

/-- **A local target that leads somewhere leads to an absolute normal path**: that of the first
candidate that is a directory. The path names the same directory, unless the candidate takes a link
back, or has no root and becomes too long by getting one. -/
theorem local_eq_ok (hd : d.IsSettled) (ht : target ≠ "")
    (h : Navigation.local d current target = .ok path) :
    Path.IsAbsoluteNormal path ∧ ∃ candidate place,
      (candidates current target).find? d.isDirectory = some candidate ∧
      path = Path.absolute d.cwdPath candidate ∧
      d.look candidate = .ok (place, .directory) ∧
      (d.TakesNoLinkBack (Path.join d.cwdPath candidate) →
        Path.isRooted candidate.toList = true ∨ path.utf8ByteSize ≤ Disk.maxPath →
        d.isDirectory path = true ∧ d.look path = .ok (place, .directory)) := by
  unfold Navigation.local at h
  rw [if_neg ht] at h
  split at h
  next candidate hfind =>
    obtain rfl := Except.ok.inj h
    obtain ⟨place, hlook⟩ := Disk.look_of_isDirectory (List.find?_some hfind)
    refine ⟨?_, candidate, place, hfind, rfl, hlook, ?_⟩
    · refine Path.isAbsoluteNormal_normalize ?_
      rw [Path.join, String.toList_ofList]
      exact Path.isRooted_joinChars d.isRooted_cwdPath _
    · intro hback hshort
      have habsolute := Disk.look_absolute hd hlook hback hshort
      exact ⟨by rw [Disk.isDirectory, habsolute], habsolute⟩
  next => cases h

/-- A link from one directory to the inside of another. -/
def sampleDisk : Disk where
  tree := [(["home"], .directory), (["home", "link"], .link "../a/b"), (["a"], .directory),
    (["a", "b"], .directory), (["a", "c"], .directory)]
  cwd := ["home"]

/-- The sample disk is in a directory that no link leads to. -/
theorem isSettled_sampleDisk : sampleDisk.IsSettled where
  names := by
    intro n hn
    obtain rfl := List.mem_singleton.mp hn
    exact Path.isBare_iff.mp (by decide)
  nul_free := by decide +kernel
  walks := .enter ⟨by decide, by decide, by decide, by decide⟩ (by decide) .nil

/-- The first candidate that is a directory is where a target leads. -/
theorem local_of_find {candidate : String} (ht : target ≠ "")
    (h : (candidates current target).find? d.isDirectory = some candidate) :
    Navigation.local d current target = .ok (Path.absolute d.cwdPath candidate) := by
  unfold Navigation.local
  rw [if_neg ht, h]

/-- A path through a link, with dots in it that take back no link, leads to the normal path of the
link. -/
theorem local_eq_ok_sample :
    Navigation.local sampleDisk "/home" "../home/./link" = .ok "/home/link" ∧
      sampleDisk.look "/home/link" = .ok (["a", "b"], .directory) := by
  have hcandidate : (candidates "/home" "../home/./link").find? sampleDisk.isDirectory =
      some "/home/../home/./link" := by
    decide +kernel
  have hlocal : Navigation.local sampleDisk "/home" "../home/./link" = .ok "/home/link" :=
    (local_of_find (by decide) hcandidate).trans (congrArg Except.ok (by decide +kernel))
  obtain ⟨-, candidate, place, hfind, -, hlook, hsame⟩ :=
    local_eq_ok isSettled_sampleDisk (by decide) hlocal
  obtain rfl := Option.some.inj (hfind.symm.trans hcandidate)
  have hplace : sampleDisk.look "/home/../home/./link" = .ok (["a", "b"], .directory) := by
    decide +kernel
  obtain rfl := (Prod.mk.inj (Except.ok.inj (hlook.symm.trans hplace))).1
  exact ⟨hlocal, (hsame (by decide +kernel) (Or.inl (by decide +kernel))).2⟩

/-- **A link that is taken back**: the candidate is a directory, and the path that comes out for it
is none. -/
theorem local_takes_link_back :
    sampleDisk.IsSettled ∧ Path.isRooted "/home".toList = true ∧
      Navigation.local sampleDisk "/home" "link/../c" = .ok "/home/c" ∧
      sampleDisk.look "/home/link/../c" = .ok (["a", "c"], .directory) ∧
      sampleDisk.isDirectory "/home/c" = false := by
  have hcandidate : (candidates "/home" "link/../c").find? sampleDisk.isDirectory =
      some "/home/link/../c" := by
    decide +kernel
  refine ⟨isSettled_sampleDisk, by decide, ?_, by decide +kernel, by decide +kernel⟩
  exact (local_of_find (by decide) hcandidate).trans (congrArg Except.ok (by decide +kernel))

end Navigation

end NamenodeShell
