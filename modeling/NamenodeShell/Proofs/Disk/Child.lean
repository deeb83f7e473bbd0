import NamenodeShell.Proofs.Disk.Walk

/-!
# Entries of a directory

What the path of a bare name in a directory leads to. When the directory is there and the system
takes the path, that is the entry of the name, or nothing where there is none
(`find_localChild`). So a file can be created there, and is found there afterwards with the content
it was given (`create_localChild`, `look_created`); all other places stay as they were.

A creation succeeds exactly at a path that is vacant, whose last name has no entry of any kind
(`create_eq_ok_iff`). Where the path is that of a bare name in a directory, the place is the one of
the name in the place the directory leads to (`Vacant.of_localChild`).

A path has to be short enough to be taken. It is not enough for that that the directory is there and
the name could be one of its entries: the two may make a path that is too long.
-/
set_option autoImplicit false

namespace NamenodeShell

namespace Path

/-- A name that has no root stays behind the directory. -/
theorem isRooted_joinChars_name {dir name : List Char} (hdir : dir ≠ [])
    (hname : isRooted name = false) : isRooted (joinChars dir name) = isRooted dir := by
  unfold joinChars
  rw [if_neg (by rw [hname]; exact Bool.false_ne_true)]
  cases dir with
  | nil => exact absurd rfl hdir
  | cons c cs => split <;> rfl

/-- A name put under no directory is left as it is. -/
theorem localChild_nil {name : String} (hname : IsName name.toList) :
    localChild "" name = name := by
  rw [localChild, join, joinChars, if_neg (by rw [hname.not_isRooted]; exact Bool.false_ne_true)]
  exact String.ofList_toList

/-- The characters of a name put under a directory. -/
theorem mem_joinChars (dir : List Char) {name : List Char} (hname : isRooted name = false)
    {c : Char} :
    (c ∈ joinChars dir name → c ∈ dir ∨ c = '/' ∨ c ∈ name) ∧
      (c ∈ name → c ∈ joinChars dir name) := by
  unfold joinChars
  rw [if_neg (by rw [hname]; exact Bool.false_ne_true)]
  split
  next =>
    refine ⟨?_, List.mem_append_right dir⟩
    intro h
    exact (List.mem_append.mp h).imp_right Or.inr
  next =>
    constructor
    · intro h
      exact (List.mem_append.mp h).imp_right List.mem_cons.mp
    · intro h
      exact List.mem_append_right dir (List.mem_cons_of_mem _ h)

/-- The characters of the directory stay in the path, so that what a system refuses in the one it
refuses in the other. -/
theorem mem_joinChars_of_mem_dir {dir name : List Char} (hname : isRooted name = false) {c : Char}
    (h : c ∈ dir) : c ∈ joinChars dir name := by
  unfold joinChars
  rw [if_neg (by rw [hname]; exact Bool.false_ne_true)]
  split
  next => exact List.mem_append_left _ h
  next => exact List.mem_append_left _ h

end Path

namespace Disk

/-! ## Paths the system takes -/

/-- **A path the system takes**, wherever it may lead. -/
structure IsTaken (path : String) : Prop where
  nul_free : '\x00' ∉ path.toList
  ne_nil : path ≠ ""
  short : path.utf8ByteSize ≤ maxPath

variable {d : Disk} {through : Bool} {place : Place} {dir name path : String} {node : Node}
  {found : Found}

/-- **A path leads somewhere** when it is taken and the walk over its names ends there. -/
theorem find_eq_ok_iff : d.find through path = .ok found ↔
    IsTaken path ∧ Walks d through maxLinks (start path d.cwd) (namesOf path) found := by
  unfold find findNames
  constructor
  · intro h
    split at h
    next => cases h
    next hnul =>
      split at h
      next => cases h
      next hne =>
        split at h
        next => cases h
        next hlong =>
          exact ⟨⟨by simpa using hnul, hne, Nat.not_lt.mp hlong⟩, walk_eq_ok_iff.mp h⟩
  · rintro ⟨htaken, h⟩
    rw [if_neg (by simpa using htaken.nul_free), if_neg htaken.ne_nil,
      if_neg (Nat.not_lt.mpr htaken.short)]
    exact walk_eq_ok_iff.mpr h

/-- To look is to find with all links passed, where something is there. -/
theorem look_eq_ok_iff :
    d.look path = .ok (place, node) ↔ d.find true path = .ok (.at place node) := by
  unfold look
  constructor
  · intro h
    cases hfind : d.find true path with
    | error cause => rw [hfind] at h; cases h
    | ok found =>
      rw [hfind] at h
      cases found with
      | «at» place' node' => cases h; rfl
      | absent parent name slash => cases h
  · intro h
    rw [h]
    rfl

/-- What is found at the end of a path, a directory apart, is what is at the place. -/
theorem nodeAt?_of_look (h : d.look path = .ok (place, node)) (hnode : node ≠ .directory) :
    d.nodeAt? place = some node :=
  (find_eq_ok_iff.mp (look_eq_ok_iff.mp h)).2.nodeAt? hnode

/-- **A path that is too long leads nowhere**, whatever is on the disk, and nothing can be created
under it. -/
theorem refuses_far (d : Disk) (hfar : maxPath < path.utf8ByteSize) :
    ∃ cause, (∀ through, d.find through path = .error cause) ∧
      ∀ content, d.create path content = .error cause := by
  obtain ⟨cause, hcause⟩ :
      ∃ cause, ∀ through names, d.findNames through path names = .error cause := by
    -- A NUL is seen before the length is, so that the cause depends on the path; on the disk it
    -- does not.
    unfold findNames
    split
    next => exact ⟨.nul, fun _ _ => rfl⟩
    next =>
      split
      next hempty =>
        rw [hempty] at hfar
        exact absurd hfar (by decide)
      next => exact ⟨.nameTooLong, fun _ _ => rfl⟩
  refine ⟨cause, fun through => hcause through _, ?_⟩
  intro content
  unfold create find
  split
  next above _ => rw [hcause true above]; rfl
  next => rw [hcause false]; rfl

/-! ## The path of a name -/

/-- The path of a name is at least as long as the directory and the name. -/
theorem size_localChild (dir : String) (hname : Path.IsName name.toList) :
    dir.utf8ByteSize + name.utf8ByteSize ≤ (Path.localChild dir name).utf8ByteSize := by
  unfold Path.localChild Path.join Path.joinChars
  rw [if_neg (by rw [hname.not_isRooted]; exact Bool.false_ne_true)]
  split
  next =>
    rw [String.ofList_append, String.utf8ByteSize_append, String.ofList_toList,
      String.ofList_toList]
  next =>
    rw [String.ofList_append, String.utf8ByteSize_append, String.ofList_toList, String.ofList_cons,
      String.utf8ByteSize_append, String.ofList_toList]
    omega

/-- The names of a path put under a directory: those of the directory, but for an empty one at their
end, and those of the path. -/
theorem namesOf_join (hdir : dir ≠ "") (hpath : Path.isRooted path.toList = false) :
    ∃ names, namesOf (Path.join dir path) = names ++ namesOf path ∧
      (namesOf dir = names ∨ namesOf dir = names ++ [""]) := by
  have hne : dir.toList ≠ [] := fun h => hdir (String.toList_inj.mp h)
  obtain ⟨front, hjoin, hfront⟩ := Path.pieces_joinChars hne hpath
  refine ⟨front.map .ofList, ?_, ?_⟩
  · rw [namesOf, Path.join, String.toList_ofList, hjoin, List.map_append, namesOf]
  · refine hfront.imp ?_ ?_ <;> intro hfront <;> rw [namesOf, hfront]
    rw [List.map_append]
    rfl

/-- A path under a directory begins where the directory does. -/
theorem start_join (hdir : dir ≠ "") (hpath : Path.isRooted path.toList = false) (here : Place) :
    start (Path.join dir path) here = start dir here := by
  have hne : dir.toList ≠ [] := fun h => hdir (String.toList_inj.mp h)
  rw [start, Path.join, String.toList_ofList, Path.isRooted_joinChars_name hne hpath, start]

/-- **A path put under a directory leads where it leads from there**, and the links on the two ways
add up. -/
theorem Walks.join {used left : Nat} {here : Place} (hdir : dir ≠ "")
    (hpath : Path.isRooted path.toList = false)
    (h : Walks d true used here (namesOf dir) (.at place .directory))
    (hmore : Walks d through left place (namesOf path) found) :
    Walks d through (used + left) here (namesOf (Path.join dir path)) found := by
  have hne : namesOf path ≠ [] := by
    rw [namesOf, Path.pieces, Text.piecesBetween_eq_splitOn]
    exact fun hnil => List.splitOn_ne_nil _ _ (List.map_eq_nil_iff.mp hnil)
  obtain ⟨names, hjoin, hnames | hnames⟩ := namesOf_join hdir hpath
  · rw [hnames] at h
    rw [hjoin]
    exact h.append_links hne hmore
  · -- a slash at the end of the directory adds nothing to the walk
    rw [hnames] at h
    obtain ⟨place', used', left', hused, hfront, hlast⟩ :=
      h.split_links (Or.inl ⟨place, .directory, rfl⟩) (List.cons_ne_nil _ _)
    obtain rfl : place = place' := hlast.eq_of_slash
    rw [hjoin]
    exact (hfront.append_links hne hmore).more_links (by omega)

/-- A name is the only one of its path. -/
theorem namesOf_name (hname : Path.IsName name.toList) : namesOf name = [name] := by
  rw [namesOf, Path.pieces_of_slash_free hname.slash_free, List.map_singleton, String.ofList_toList]

/-- The last of the names of the path of a name. -/
theorem namesOf_localChild (dir : String) (hname : Path.IsName name.toList) :
    ∃ names, namesOf (Path.localChild dir name) = names ++ [name] := by
  by_cases hdir : dir = ""
  · subst hdir
    exact ⟨[], by rw [Path.localChild_nil hname, namesOf_name hname, List.nil_append]⟩
  · obtain ⟨names, hjoin, -⟩ := namesOf_join hdir hname.not_isRooted
    exact ⟨names, by rw [Path.localChild, hjoin, namesOf_name hname]⟩

/-- **The system takes the path of a name** when it takes the directory, there is no NUL in the name
and the two together are not too long. -/
theorem isTaken_localChild (hdir : IsTaken dir) (hname : Path.IsName name.toList)
    (hnul : '\x00' ∉ name.toList)
    (hshort : (Path.localChild dir name).utf8ByteSize ≤ maxPath) :
    IsTaken (Path.localChild dir name) := by
  have hchars : (Path.localChild dir name).toList = Path.joinChars dir.toList name.toList :=
    String.toList_ofList
  refine ⟨?_, ?_, hshort⟩
  · intro h
    rw [hchars] at h
    rcases (Path.mem_joinChars dir.toList hname.not_isRooted).1 h with h | h | h
    · exact hdir.nul_free h
    · exact absurd h (by decide)
    · exact hnul h
  · intro h
    rw [h] at hchars
    obtain ⟨c, cs, hcs⟩ := List.exists_cons_of_ne_nil hname.ne_nil
    have hmem := (Path.mem_joinChars dir.toList hname.not_isRooted).2
      (hcs ▸ List.mem_cons_self : c ∈ name.toList)
    rw [← hchars] at hmem
    exact absurd hmem List.not_mem_nil

/-- A name whose path leads somewhere can be gone by, and does not end a path. -/
theorem isStep_of_find (hname : Path.IsName name.toList)
    (h : d.find through (Path.localChild dir name) = .ok found) :
    IsStep name ∧ '\x00' ∉ name.toList := by
  obtain ⟨htaken, hwalk⟩ := find_eq_ok_iff.mp h
  obtain ⟨names, hnames⟩ := namesOf_localChild dir hname
  rw [hnames] at hwalk
  refine ⟨hwalk.isStep hname.ne_texts, ?_⟩
  intro hnul
  apply htaken.nul_free
  rw [Path.localChild, Path.join, String.toList_ofList]
  exact (Path.mem_joinChars dir.toList hname.not_isRooted).2 hnul

/-- **The path of a name in a directory leads to its entry there.** -/
theorem find_localChild (hdir : d.look dir = .ok (place, .directory))
    (hname : Path.IsName name.toList) (htaken : IsTaken (Path.localChild dir name))
    (h : ∀ links, Walks d through links place [name] found) :
    d.find through (Path.localChild dir name) = .ok found := by
  obtain ⟨htaken', hwalk⟩ := find_eq_ok_iff.mp (look_eq_ok_iff.mp hdir)
  refine find_eq_ok_iff.mpr ⟨htaken, ?_⟩
  rw [Path.localChild, start_join htaken'.ne_nil hname.not_isRooted]
  rw [← namesOf_name hname] at h
  exact hwalk.join htaken'.ne_nil hname.not_isRooted (h 0)

/-! ## Files put in a directory -/

/-- Changing the entries of one place leaves what is found at the others. -/
theorem lookup_map_of_ne {other : Place} (h : other ≠ place) (tree : List (Place × Node)) :
    (tree.map fun (p, n) => if p == place then (p, node) else (p, n)).lookup other =
      tree.lookup other := by
  induction tree with
  | nil => rfl
  | cons entry tree ih =>
    obtain ⟨p, n⟩ := entry
    rw [List.map_cons]
    by_cases hp : p = place
    · have hother : (other == p) = false := by
        rw [hp]
        exact beq_eq_false_iff_ne.mpr h
      simp only [hp, beq_self_eq_true, if_true] at hother ⊢
      simp only [List.lookup_cons, hother, ih]
    · dsimp only
      rw [if_neg (by simpa using hp), List.lookup_cons, List.lookup_cons, ih]

/-- An entry that is there is found as what it has been changed to. -/
theorem lookup_map_self {tree : List (Place × Node)} (h : (tree.lookup place).isSome = true) :
    (tree.map fun (p, n) => if p == place then (p, node) else (p, n)).lookup place =
      some node := by
  induction tree with
  | nil => cases h
  | cons entry tree ih =>
    obtain ⟨p, n⟩ := entry
    rw [List.map_cons]
    by_cases hp : p = place
    · simp only [hp, beq_self_eq_true, if_true, List.lookup_cons]
    · have hplace : (place == p) = false := beq_eq_false_iff_ne.mpr fun h => hp h.symm
      rw [List.lookup_cons, hplace] at h
      dsimp only
      rw [if_neg (by simpa using hp), List.lookup_cons, hplace]
      exact ih h

/-- An entry added at the end is found at no other place. -/
theorem lookup_append_other {other : Place} (h : other ≠ place) (tree : List (Place × Node)) :
    (tree ++ [(place, node)]).lookup other = tree.lookup other := by
  rw [List.lookup_append, List.lookup_cons, beq_eq_false_iff_ne.mpr h]
  exact Option.or_none

/-- What has been put at a place is there. -/
theorem nodeAt?_set_self (d : Disk) (hne : place ≠ []) (node : Node) :
    (d.set place node).nodeAt? place = some node := by
  unfold set
  rw [Disk.nodeAt?, if_neg hne]
  split
  next hsome => exact lookup_map_self hsome
  next hsome =>
    rw [Bool.not_eq_true, Option.isSome_eq_false_iff, Option.isNone_iff_eq_none] at hsome
    simp only [List.lookup_append, hsome, List.lookup_cons, beq_self_eq_true, Option.none_or]

/-- All other places stay as they are. -/
theorem nodeAt?_set_of_ne (d : Disk) {other : Place} (h : other ≠ place) (node : Node) :
    (d.set place node).nodeAt? other = d.nodeAt? other := by
  unfold set Disk.nodeAt?
  split
  next => rfl
  next =>
    split
    next => exact lookup_map_of_ne h d.tree
    next => exact lookup_append_other h d.tree

/-- What is put on a disk does not move where relative paths begin. -/
theorem cwd_set (d : Disk) (place : Place) (node : Node) : (d.set place node).cwd = d.cwd := by
  unfold set
  split <;> rfl

/-- What is put where nothing was takes nothing away. -/
theorem look_set {other : Place} {node' : Node} (hnone : d.nodeAt? other = none)
    (h : d.look path = .ok (place, node)) :
    (d.set other node').look path = .ok (place, node) := by
  obtain ⟨htaken, hwalk⟩ := find_eq_ok_iff.mp (look_eq_ok_iff.mp h)
  refine look_eq_ok_iff.mpr (find_eq_ok_iff.mpr ⟨htaken, ?_⟩)
  rw [cwd_set]
  apply hwalk.mono
  intro p n hp
  rw [nodeAt?_set_of_ne d _ node', hp]
  rintro rfl
  rw [hnone] at hp
  cases hp

/-- Nothing is found on the path of a name that has no entry. -/
theorem find_absent (hdir : d.look dir = .ok (place, .directory))
    (hname : Path.IsName name.toList) (hstep : IsStep name)
    (htaken : IsTaken (Path.localChild dir name)) (hnone : d.nodeAt? (place ++ [name]) = none) :
    d.find through (Path.localChild dir name) = .ok (.absent place name false) :=
  find_localChild hdir hname htaken fun _ => .absent hstep hnone rfl

/-- **A path is vacant** when it ends in a name, and a place for an entry of that name is there and
holds nothing. -/
def Vacant (d : Disk) (path : String) (place : Place) : Prop :=
  aboveSlashed? path = none ∧ ∃ parent name slash,
    d.find false path = .ok (.absent parent name slash) ∧ place = parent ++ [name]

/-- **A file is created just where a path is vacant**, whatever its content. -/
theorem create_eq_ok_iff {d' : Disk} {content : Bytes} : d.create path content = .ok d' ↔
    ∃ place, d.Vacant path place ∧ d' = d.set place (.file content) := by
  unfold create Vacant
  constructor
  · intro h
    split at h
    -- A path that ends in a slash names a directory or nothing, so no file can be created at it.
    next above _ =>
      cases hfind : d.findNames true path above with
      | error cause => rw [hfind] at h; cases h
      | ok found =>
        rw [hfind] at h
        cases found with
        | «at» place node => cases node <;> cases h
        | absent parent name slash => cases h
    next habove =>
      cases hfind : d.find false path with
      | error cause => rw [hfind] at h; cases h
      | ok found =>
        rw [hfind] at h
        cases found with
        | «at» place node => cases h
        | absent parent name slash =>
          cases h
          exact ⟨_, ⟨habove, parent, name, slash, rfl, rfl⟩, rfl⟩
  · rintro ⟨place, ⟨habove, parent, name, slash, hfind, rfl⟩, rfl⟩
    rw [habove]
    simp only [hfind]
    rfl

/-- The path of a name that has no entry is vacant. -/
theorem vacant_localChild (hdir : d.look dir = .ok (place, .directory))
    (hname : Path.IsName name.toList) (hstep : IsStep name)
    (htaken : IsTaken (Path.localChild dir name)) (hnone : d.nodeAt? (place ++ [name]) = none) :
    d.Vacant (Path.localChild dir name) (place ++ [name]) := by
  obtain ⟨names, hnames⟩ := namesOf_localChild dir hname
  refine ⟨?_, place, name, false, find_absent hdir hname hstep htaken hnone, rfl⟩
  unfold aboveSlashed?
  rw [hnames, List.reverse_append, List.reverse_singleton, List.singleton_append]
  split
  next heq => exact absurd (List.cons.inj heq).1 hstep.ne_nil
  next => rfl

/-- **A file is created on the path of a name that has no entry.** -/
theorem create_localChild (hdir : d.look dir = .ok (place, .directory))
    (hname : Path.IsName name.toList) (hstep : IsStep name)
    (htaken : IsTaken (Path.localChild dir name)) (hnone : d.nodeAt? (place ++ [name]) = none)
    (content : Bytes) :
    d.create (Path.localChild dir name) content =
      .ok (d.set (place ++ [name]) (.file content)) :=
  create_eq_ok_iff.mpr ⟨_, vacant_localChild hdir hname hstep htaken hnone, rfl⟩

/-- **Where the names in a directory are**; no path at all stands for the working directory. -/
def LeadsTo (d : Disk) (dir : String) (place : Place) : Prop :=
  if dir = "" then place = d.cwd else d.look dir = .ok (place, .directory)

/-- A name at which a walk finds nothing is where the walk has come to. -/
theorem Walks.eq_of_absent {links : Nat} {here parent : Place} {last : String} {slash : Bool}
    (hname : Path.IsName name.toList)
    (h : Walks d false links here [name] (.absent parent last slash)) :
    parent = here ∧ last = name ∧ d.nodeAt? (here ++ [name]) = none := by
  cases h with
  | stay hblank _ => exact (hblank.elim hname.ne_texts.1 hname.ne_texts.2.1).elim
  | up _ => exact absurd rfl hname.ne_texts.2.2
  | enter _ _ h => cases h
  | follow _ _ hrest _ => exact (hrest.elim (fun h => h rfl) (fun h => by cases h)).elim
  | absent _ hnode _ => exact ⟨rfl, rfl, hnode⟩

/-- **The path of a name is vacant only where the directory has no entry of the name**, of whatever
kind. -/
theorem Vacant.of_localChild (hname : Path.IsName name.toList)
    (h : d.Vacant (Path.localChild dir name) place) :
    ∃ parent, d.LeadsTo dir parent ∧ place = parent ++ [name] ∧ d.nodeAt? place = none := by
  obtain ⟨-, parent, last, slash, hfind, rfl⟩ := h
  obtain ⟨htaken, hwalk⟩ := find_eq_ok_iff.mp hfind
  refine ⟨parent, ?_⟩
  unfold LeadsTo
  split
  -- No directory is named: the walk begins in the working directory and takes one step.
  next hdir =>
    subst hdir
    have hstart : start name d.cwd = d.cwd := by
      rw [start, if_neg (by rw [hname.not_isRooted]; exact Bool.false_ne_true)]
    rw [Path.localChild_nil hname, namesOf_name hname, hstart] at hwalk
    obtain ⟨rfl, rfl, hnone⟩ := hwalk.eq_of_absent hname
    exact ⟨rfl, rfl, hnone⟩
  next hdir =>
    obtain ⟨names, hjoin, hnames⟩ := namesOf_join hdir hname.not_isRooted
    rw [Path.localChild, hjoin, namesOf_name hname, start_join hdir hname.not_isRooted] at hwalk
    have hblank : List.all [name] (· == "") = false := by
      simpa using hname.ne_texts.1
    obtain ⟨here, used, left, hlinks, hfront, hlast⟩ :=
      hwalk.split_links (Or.inr hblank) (List.cons_ne_nil _ _)
    obtain ⟨rfl, rfl, hnone⟩ := hlast.eq_of_absent hname
    refine ⟨look_eq_ok_iff.mpr (find_eq_ok_iff.mpr ⟨⟨?_, hdir, ?_⟩, ?_⟩), rfl, hnone⟩
    · intro hnul
      apply htaken.nul_free
      rw [Path.localChild, Path.join, String.toList_ofList]
      exact Path.mem_joinChars_of_mem_dir hname.not_isRooted hnul
    · exact (Nat.le_of_add_right_le (size_localChild dir hname)).trans htaken.short
    -- A slash behind the directory is dropped where the two are joined, and adds nothing to the
    -- walk.
    · have hfront := hfront.more_links (Nat.le_of_add_right_le hlinks.le)
      rcases hnames with hnames | hnames
      · rw [hnames]
        exact hfront
      · rw [hnames]
        exact hfront.append (List.cons_ne_nil _ _) fun _ => .stay (Or.inl rfl) .nil

/-- What is put where nothing was is one entry more. -/
theorem set_of_absent (h : d.nodeAt? place = none) (node : Node) :
    d.set place node = { d with tree := d.tree ++ [(place, node)] } := by
  unfold Disk.nodeAt? at h
  split at h
  next => cases h
  next => rw [set, h]; rfl

/-- **The file is found there afterwards**, with its content. -/
theorem look_created (hdir : d.look dir = .ok (place, .directory))
    (hname : Path.IsName name.toList) (hstep : IsStep name)
    (htaken : IsTaken (Path.localChild dir name)) (hnone : d.nodeAt? (place ++ [name]) = none)
    (content : Bytes) :
    (d.set (place ++ [name]) (.file content)).look (Path.localChild dir name) =
      .ok (place ++ [name], .file content) := by
  have hne : place ++ [name] ≠ [] := List.append_ne_nil_of_right_ne_nil _ (List.cons_ne_nil _ _)
  apply look_eq_ok_iff.mpr
  -- The way to the directory is the one it was, since the new entry was nothing on any walk.
  apply find_localChild (look_set hnone hdir) hname htaken
  intro links
  refine .stop hstep (nodeAt?_set_self d hne _) ?_ ?_
  · intro h
    cases h
  · intro target h
    cases h

/-! ## Slashes -/

/-- A path of nothing but slashes. -/
def slashes (n : Nat) : String := .ofList (List.replicate n '/')

/-- A path of slashes is as long as it has slashes, so that there is one of every length. -/
theorem utf8ByteSize_slashes (n : Nat) : (slashes n).utf8ByteSize = n := by
  induction n with
  | zero => rfl
  | succ n ih =>
    rw [slashes, List.replicate_succ, String.ofList_cons, String.utf8ByteSize_append, ← slashes, ih,
      String.utf8ByteSize_singleton, Nat.add_comm]
    rfl

/-- Between slashes there are only empty names. -/
theorem namesOf_slashes (n : Nat) : namesOf (slashes n) = List.replicate (n + 1) "" := by
  have hpieces : Path.pieces (List.replicate n '/') = List.replicate (n + 1) [] := by
    induction n with
    | zero => rfl
    | succ n ih =>
      rw [List.replicate_succ, ← List.nil_append ('/' :: List.replicate n '/'),
        Path.pieces_append_slash, ih]
      rfl
  rw [namesOf, slashes, String.toList_ofList, hpieces, List.map_replicate]

/-- A path of nothing but slashes is the root, as long as it is taken. -/
theorem look_slashes (d : Disk) {n : Nat} (hpos : 0 < n) (hn : n ≤ maxPath) :
    d.look (slashes n) = .ok ([], .directory) := by
  obtain ⟨n, rfl⟩ := Nat.exists_eq_succ_of_ne_zero (Nat.ne_of_gt hpos)
  have hstart : start (slashes (n + 1)) d.cwd = [] := by
    rw [start, slashes, String.toList_ofList]
    exact if_pos rfl
  refine look_eq_ok_iff.mpr (find_eq_ok_iff.mpr ⟨⟨?_, ?_, ?_⟩, ?_⟩)
  · rw [slashes, String.toList_ofList]
    intro h
    exact absurd (List.eq_of_mem_replicate h) (by decide)
  · intro h
    have hsize := utf8ByteSize_slashes (n + 1)
    rw [h] at hsize
    exact absurd hsize (Nat.succ_ne_zero n).symm
  · rw [utf8ByteSize_slashes]
    exact hn
  · rw [hstart, namesOf_slashes]
    rw [← List.append_nil (List.replicate _ "")]
    exact Walks.nil.slashes_append _

end Disk

end NamenodeShell
