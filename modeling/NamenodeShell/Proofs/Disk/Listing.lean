import Mathlib.Data.List.Forall2
import Mathlib.Data.List.Nodup
import Mathlib.Data.List.Perm.Basic
import NamenodeShell.Disk.Listing
import NamenodeShell.Proofs.Disk.Child

/-!
# Directories listed

A directory is listed completely or not at all (`listed_completely`). The kind of an entry is that
of what its name leads to from the directory it is in, through any number of links (`Leads`). The
listing does not go from there: it looks at the path of the name from the start again, where the
links on the way to the directory count too, and there is a most of them. That both come to the same
has two halves. What is found is found by every walk that may pass more links (`leads_of_look`), and
what a walk fails of for want of an entry it fails of with more links too (`walk_error_mono`), so
that a name whose path is seen to lead to nothing leads to nothing at all (`not_leads_of_look`).

All other ways in which a link may not be followed stop the listing (`Stops`), and it depends on one
link whether the rest of the directory is seen.
-/
set_option autoImplicit false

namespace NamenodeShell

/-! ## Computations one by one -/

section

variable {α β ε : Type} {f : α → Except ε β} {as : List α}

/-- **One by one** succeeds where every single one does, and gives what these give. -/
theorem mapM_eq_ok_iff {bs : List β} :
    as.mapM f = .ok bs ↔ List.Forall₂ (fun a b => f a = .ok b) as bs := by
  induction as generalizing bs with
  | nil => cases bs <;> simp [pure, Except.pure]
  | cons a as ih =>
    rw [List.mapM_cons]
    cases ha : f a with
    | error e => cases bs <;> simp [bind, Except.bind, ha]
    | ok b =>
      cases hrest : as.mapM f with
      | error e => cases bs <;> simp [bind, Except.bind, ← ih, hrest]
      | ok bs' => cases bs <;> simp [bind, Except.bind, pure, Except.pure, ← ih, hrest, ha]

/-- Where one by one fails, one of them does. -/
theorem exists_of_mapM_eq_error {e : ε} (h : as.mapM f = .error e) : ∃ a ∈ as, f a = .error e := by
  induction as with
  | nil => cases h
  | cons a as ih =>
    rw [List.mapM_cons] at h
    cases ha : f a with
    | error e' =>
      rw [ha] at h
      cases h
      exact ⟨a, List.mem_cons_self, ha⟩
    | ok b =>
      rw [ha] at h
      cases hrest : as.mapM f with
      | error e' =>
        have heq : e' = e := by
          change (as.mapM f >>= _) = _ at h
          rw [hrest] at h
          exact Except.error.inj h
        obtain ⟨a', ha', hfails⟩ := ih (heq ▸ hrest)
        exact ⟨a', List.mem_cons_of_mem _ ha', hfails⟩
      | ok bs =>
        change (as.mapM f >>= _) = _ at h
        rw [hrest] at h
        cases h

/-- What is on the right has a partner on the left. -/
theorem exists_of_mem_right {R : α → β → Prop} {bs : List β} {b : β} (h : List.Forall₂ R as bs)
    (hb : b ∈ bs) : ∃ a ∈ as, R a b := by
  induction h with
  | nil => cases hb
  | cons hR _ ih =>
    obtain rfl | hb := List.mem_cons.mp hb
    · exact ⟨_, List.mem_cons_self, hR⟩
    · obtain ⟨a, ha, hR'⟩ := ih hb
      exact ⟨a, List.mem_cons_of_mem _ ha, hR'⟩

end

namespace Disk

variable {d : Disk} {place : Place} {name path : String} {node : Node}

/-! ## What a tree holds -/

/-- **A disk is a tree** when no place is listed twice, and the names on the way to a place are
names of entries. -/
structure IsTree (d : Disk) : Prop where
  distinct : (d.tree.map Prod.fst).Nodup
  named : ∀ entry ∈ d.tree, ∀ name ∈ entry.1, Path.IsName name.toList
  short : ∀ entry ∈ d.tree, ∀ name ∈ entry.1, name.utf8ByteSize ≤ maxName

/-- In a list without repeated places what is found at a place is what is listed for it. -/
theorem lookup_eq_some_iff_mem {tree : List (Place × Node)} (h : (tree.map Prod.fst).Nodup) :
    tree.lookup place = some node ↔ (place, node) ∈ tree := by
  induction tree with
  | nil => simp
  | cons entry tree ih =>
    obtain ⟨p, n⟩ := entry
    obtain ⟨hp, htree⟩ := List.nodup_cons.mp h
    rw [List.lookup_cons, List.mem_cons]
    by_cases heq : place = p
    · subst heq
      have hnot : (place, node) ∉ tree := fun hmem => hp (List.mem_map.mpr ⟨_, hmem, rfl⟩)
      simp [hnot, eq_comm]
    · simp only [beq_eq_false_iff_ne.mpr heq, ih htree, Prod.mk.injEq, heq, false_and, false_or]

/-- What is at a place other than the root is what the tree lists for it. -/
theorem IsTree.nodeAt?_iff (hd : d.IsTree) :
    d.nodeAt? (place ++ [name]) = some node ↔ (place ++ [name], node) ∈ d.tree := by
  rw [Disk.nodeAt?, if_neg (List.append_ne_nil_of_right_ne_nil _ (List.cons_ne_nil _ _)),
    lookup_eq_some_iff_mem hd.distinct]

/-- The entries of a directory are the places one name below it. -/
theorem mem_children : (name, node) ∈ d.children place ↔ (place ++ [name], node) ∈ d.tree := by
  unfold children
  rw [List.mem_filterMap]
  constructor
  · rintro ⟨⟨p, n⟩, hmem, h⟩
    dsimp only at h
    split at h
    next last hlast =>
      split at h
      next hfront =>
        cases h
        rw [← hfront, List.dropLast_append_getLast? _ hlast]
        exact hmem
      next => cases h
    next => cases h
  · intro hmem
    refine ⟨_, hmem, ?_⟩
    simp

/-- The names in a directory are the last ones of some of the places. -/
theorem places_of_children (d : Disk) (place : Place) :
    ((d.children place).map fun entry => place ++ [entry.1]).Sublist (d.tree.map Prod.fst) := by
  unfold children
  induction d.tree with
  | nil => exact .slnil
  | cons entry tree ih =>
    obtain ⟨p, n⟩ := entry
    rw [List.map_cons, List.filterMap_cons]
    dsimp only
    split
    next => exact ih.cons _
    next last h =>
      split at h
      next name hlast =>
        split at h
        next hfront =>
          cases h
          rw [List.map_cons]
          dsimp only
          rw [← hfront, List.dropLast_append_getLast? _ hlast, hfront]
          exact ih.cons_cons _
        next => cases h
      next => cases h

/-- A directory has no name twice, since the tree has no place twice. -/
theorem IsTree.nodup_children (hd : d.IsTree) (place : Place) :
    ((d.children place).map Prod.fst).Nodup := by
  have hplaces : (((d.children place).map Prod.fst).map fun name => place ++ [name]).Nodup := by
    rw [List.map_map]
    exact (places_of_children d place).nodup hd.distinct
  exact List.Nodup.of_map _ hplaces

/-! ## What a name leads to -/

/-- **What a name in a directory leads to** with all links followed, however many they are. -/
def Leads (d : Disk) (place : Place) (name : String) (node : Node) : Prop :=
  ∃ links end_, Walks d true links place [name] (.at end_ node)

/-- A walk ends in one place, however many links it may pass. -/
theorem Walks.unique {through : Bool} {links links' : Nat} {here : Place} {names : List String}
    {found found' : Found} (h : Walks d through links here names found)
    (h' : Walks d through links' here names found') : found = found' := by
  -- both walks are taken with the larger number of links, where there is one function that gives
  -- both
  have hwalk := walk_of_walks (h.more_links (Nat.le_max_left links links'))
  have hwalk' := walk_of_walks (h'.more_links (Nat.le_max_right links links'))
  exact Except.ok.inj (hwalk.symm.trans hwalk')

/-- A name leads to one thing. -/
theorem Leads.unique {node' : Node} (h : d.Leads place name node) (h' : d.Leads place name node') :
    node = node' := by
  obtain ⟨links, p, h⟩ := h
  obtain ⟨links', p', h'⟩ := h'
  exact (Found.at.inj (h.unique h')).2

/-- A name that is no link leads to what is there. -/
theorem leads_of_nodeAt? (hname : IsStep name) (hnode : d.nodeAt? (place ++ [name]) = some node)
    (hlink : ∀ target, node ≠ .link target) : d.Leads place name node := by
  by_cases hdirectory : node = .directory
  · subst hdirectory
    exact ⟨0, _, .enter hname hnode .nil⟩
  · exact ⟨0, _, .stop hname hnode hdirectory fun target h => absurd h (hlink target)⟩

/-- What a walk fails of before it comes to a link it fails of whatever would be done at the link.
The induction is on the names, along the cases in which the walk itself looks at each of them. -/
theorem walkWith_error_mono {through : Bool} {cause : Cause}
    {next next' : Place → String → List String → Except Cause Found}
    (hnext : ∀ here target rest,
      next here target rest = .error cause → next' here target rest = .error cause)
    {here : Place} {names : List String}
    (h : d.walkWith through next here names = .error cause) :
    d.walkWith through next' here names = .error cause := by
  induction names generalizing here with
  | nil => cases h
  | cons name rest ih =>
    unfold walkWith at h ⊢
    split
    next hstay =>
      rw [if_pos hstay] at h
      exact ih h
    next hstay =>
    rw [if_neg hstay] at h
    split
    next hup =>
      rw [if_pos hup] at h
      exact ih h
    next hup =>
    rw [if_neg hup] at h
    split
    next hlong =>
      rw [if_pos hlong] at h
      exact h
    next hlong =>
    rw [if_neg hlong] at h
    cases hnode : d.nodeAt? (here ++ [name]) with
    | none =>
      rw [hnode] at h
      exact h
    | some node =>
      rw [hnode] at h
      cases node with
      | directory => exact ih h
      | link target =>
        dsimp only at h ⊢
        split
        next hend =>
          rw [if_pos hend] at h
          exact h
        next hend =>
          rw [if_neg hend] at h
          exact hnext _ _ _ h
      | file content => exact h
      | device => exact h

/-- What a walk fails of is not cured by more links, unless it is that there were too many. -/
theorem walk_error_mono {through : Bool} {links links' : Nat} {here : Place} {names : List String}
    {cause : Cause} (hcause : cause ≠ .tooManyLinks)
    (h : d.walk through links here names = .error cause) (hlinks : links ≤ links') :
    d.walk through links' here names = .error cause := by
  induction links generalizing links' here names with
  | zero =>
    rw [walk_eq] at h ⊢
    refine walkWith_error_mono (fun here target rest hnext => ?_) h
    exact absurd (Except.error.inj hnext).symm hcause
  | succ links ih =>
    -- a link has been passed by both walks, and the one still has no fewer left than the other
    obtain ⟨links', rfl⟩ := Nat.exists_eq_succ_of_ne_zero (Nat.ne_of_gt (Nat.zero_lt_of_lt hlinks))
    rw [walk_eq] at h ⊢
    exact walkWith_error_mono
      (fun here target rest hnext => ih hnext (Nat.le_of_succ_le_succ hlinks)) h

/-! ## What the path of a name leads to -/

/-- The way to a directory, taken as far as the name put behind it. -/
theorem walks_names_of_look (hdir : d.look path = .ok (place, .directory))
    (hname : Path.IsName name.toList) :
    ∃ names, namesOf (Path.join path name) = names ++ [name] ∧
      Walks d true maxLinks (start (Path.join path name) d.cwd) names (.at place .directory) := by
  obtain ⟨htaken, hwalk⟩ := find_eq_ok_iff.mp (look_eq_ok_iff.mp hdir)
  obtain ⟨names, hjoin, hnames⟩ := namesOf_join htaken.ne_nil hname.not_isRooted
  refine ⟨names, by rw [hjoin, namesOf_name hname], ?_⟩
  rw [start_join htaken.ne_nil hname.not_isRooted]
  obtain hnames | hnames := hnames
  · rwa [hnames] at hwalk
  · -- a slash at the end of the path adds nothing to the walk
    rw [hnames] at hwalk
    obtain ⟨place', used, left, hused, hfront, hlast⟩ :=
      hwalk.split_links (Or.inl ⟨place, .directory, rfl⟩) (List.cons_ne_nil _ _)
    obtain rfl : place = place' := hlast.eq_of_slash
    exact hfront.more_links (Nat.le_of_add_right_le hused.le)

/-- What the path of a name is seen to lead to is what the name leads to. -/
theorem leads_of_look {end_ : Place} (hdir : d.look path = .ok (place, .directory))
    (hname : Path.IsName name.toList) (h : d.look (Path.join path name) = .ok (end_, node)) :
    d.Leads place name node := by
  obtain ⟨names, hnames, hfront⟩ := walks_names_of_look hdir hname
  obtain ⟨-, hwalk⟩ := find_eq_ok_iff.mp (look_eq_ok_iff.mp h)
  rw [hnames] at hwalk
  obtain ⟨place', used, left, -, hfront', hlast⟩ :=
    hwalk.split_links (Or.inl ⟨end_, node, rfl⟩) (List.cons_ne_nil _ _)
  obtain rfl : place = place' := (Found.at.inj (hfront.unique hfront')).1
  exact ⟨left, end_, hlast⟩

/-- A path that ends in a name leads to nothing only if its walk does, or fails for that reason. -/
theorem walk_of_look_notFound {names : List String} (hname : Path.IsName name.toList)
    (hnames : namesOf path = names ++ [name]) (h : d.look path = .error .notFound) :
    d.walk true maxLinks (start path d.cwd) (namesOf path) = .error .notFound ∨
      ∃ parent last slash, d.walk true maxLinks (start path d.cwd) (namesOf path) =
        .ok (.absent parent last slash) := by
  have hne : path ≠ "" := by
    rintro rfl
    have hlast := congrArg List.getLast? hnames
    rw [List.getLast?_concat] at hlast
    exact hname.ne_texts.1 (Option.some.inj hlast).symm
  cases hfind : d.find true path with
  | error cause =>
    have hcause : cause = .notFound := by
      rw [look, hfind] at h
      exact Except.error.inj h
    subst hcause
    unfold find findNames at hfind
    split at hfind
    next => cases hfind
    split at hfind
    next => cases hfind
    exact .inl hfind
  | ok found =>
    cases found with
    | «at» end_ node =>
      rw [look_eq_ok_iff.mpr hfind] at h
      cases h
    | absent parent last slash =>
      exact .inr ⟨parent, last, slash, walk_of_walks (find_eq_ok_iff.mp hfind).2⟩

/-- **A name whose path is seen to lead to nothing leads to nothing**, with however many links. -/
theorem not_leads_of_look (hdir : d.look path = .ok (place, .directory))
    (hname : Path.IsName name.toList) (h : d.look (Path.join path name) = .error .notFound)
    (node : Node) : ¬ d.Leads place name node := by
  rintro ⟨left, end_, hlast⟩
  obtain ⟨names, hnames, hfront⟩ := walks_names_of_look hdir hname
  -- if the name led to something, the whole path would, through more links than a walk may pass
  have hwhole := walk_of_walks (hfront.append_links (List.cons_ne_nil _ _) hlast)
  rw [← hnames] at hwhole
  obtain hfails | ⟨parent, last, slash, habsent⟩ := walk_of_look_notFound hname hnames h
  · have hcause : Cause.notFound ≠ .tooManyLinks := nofun
    have hfails' := walk_error_mono hcause hfails (Nat.le_add_right maxLinks left)
    cases hfails'.symm.trans hwhole
  · cases (walks_of_walk _ _ _ _ habsent).unique (walks_of_walk _ _ _ _ hwhole)

/-! ## The kind of an entry -/

/-- **The kind of a name is seen rightly**: it is that of the directory or the file that the name
leads to with all links followed, and else it is neither. -/
structure EntryIs (d : Disk) (place : Place) (name : String) (kind : Kind) : Prop where
  directory : kind = .directory ↔ d.Leads place name .directory
  file : kind = .file ↔ ∃ content, d.Leads place name (.file content)
  not_symlink : kind ≠ .symlink

/-- A name that leads to something is of the kind of that. -/
theorem entryIs_kindOf (h : d.Leads place name node) : d.EntryIs place name (kindOf node) where
  directory := by
    refine ⟨fun hkind => ?_, fun h' => ?_⟩
    · cases node <;> first | exact h | cases hkind
    · rw [h.unique h']
      rfl
  file := by
    refine ⟨fun hkind => ?_, fun ⟨content, h'⟩ => ?_⟩
    · cases node <;> first | exact ⟨_, h⟩ | cases hkind
    · rw [h.unique h']
      rfl
  not_symlink := by cases node <;> nofun

/-- What a name that leads to nothing is. -/
theorem entryIs_other (h : ∀ node, ¬ d.Leads place name node) : d.EntryIs place name .other where
  directory := ⟨nofun, fun h' => absurd h' (h _)⟩
  file := ⟨nofun, fun ⟨_, h'⟩ => absurd h' (h _)⟩
  not_symlink := nofun

/-- **The kind that an entry is given is seen rightly.** -/
theorem entryIs_of_entryKind {kind : Kind} (hdir : d.look path = .ok (place, .directory))
    (hname : Path.IsName name.toList) (hstep : IsStep name)
    (hnode : d.nodeAt? (place ++ [name]) = some node)
    (h : d.entryKind (Path.join path name) node = .ok kind) : d.EntryIs place name kind := by
  cases node with
  | link target =>
    unfold entryKind at h
    dsimp only at h
    split at h
    next end_ node hlook =>
      cases h
      exact entryIs_kindOf (leads_of_look hdir hname hlook)
    next hlook =>
      cases h
      exact entryIs_other (not_leads_of_look hdir hname hlook)
    next => cases h
  | directory | file | device =>
    cases h
    exact entryIs_kindOf (leads_of_nodeAt? hstep hnode nofun)

/-! ## The listing -/

/-- **A link of a directory that stops its listing**: it cannot be followed, and not because there
is nothing that it leads to. -/
structure Stops (d : Disk) (path : String) (place : Place) (name : String) (cause : Cause) :
    Prop where
  link : ∃ target, d.nodeAt? (place ++ [name]) = some (.link target)
  refused : d.look (Path.join path name) = .error cause
  other : cause ≠ .notFound

/-- Only links are looked at again, so only they can be refused a kind. -/
theorem entryKind_eq_error_iff {cause : Cause} (hnode : d.nodeAt? (place ++ [name]) = some node) :
    d.entryKind (Path.join path name) node = .error cause ↔ d.Stops path place name cause := by
  constructor
  · intro h
    cases node with
    | link target =>
      unfold entryKind at h
      dsimp only at h
      split at h
      next => cases h
      next => cases h
      next other hother hlook =>
        cases h
        exact ⟨⟨target, hnode⟩, hlook, fun hcause => hother hcause⟩
    | directory | file | device => cases h
  · rintro ⟨⟨target, hlink⟩, hrefused, hother⟩
    cases hnode.symm.trans hlink
    unfold entryKind
    rw [hrefused]
    cases cause <;> first | rfl | exact absurd rfl hother

/-- **All that a directory holds**: one entry for each of its names and no others, and every kind
seen rightly. -/
structure IsListing (d : Disk) (place : Place) (entries : List Entry) : Prop where
  distinct : (entries.map Entry.name).Nodup
  names : ∀ name, name ∈ entries.map Entry.name ↔ (d.nodeAt? (place ++ [name])).isSome
  kinds : ∀ e ∈ entries, d.EntryIs place e.name e.kind

/-- What is listed for a name and what is there. -/
def entryFor (d : Disk) (path : String) (entry : String × Node) :
    Except (Cause × String) Entry :=
  match d.entryKind (Path.join path entry.1) entry.2 with
  | .ok kind => .ok { name := entry.1, kind }
  | .error cause => .error (cause, Path.join path entry.1)

/-- A listing goes through the entries one by one. -/
theorem list_eq (hdir : d.look path = .ok (place, .directory)) :
    d.list path = (d.children place).mapM (d.entryFor path) := by
  rw [list, hdir]
  rfl

/-- An entry has its name and the kind that it is given, -/
theorem entryFor_eq_ok_iff {entry : String × Node} {e : Entry} :
    d.entryFor path entry = .ok e ↔
      e.name = entry.1 ∧ d.entryKind (Path.join path entry.1) entry.2 = .ok e.kind := by
  unfold entryFor
  cases d.entryKind (Path.join path entry.1) entry.2 with
  | error cause => simp
  | ok kind =>
    obtain ⟨name, kind'⟩ := e
    simp [eq_comm]

/-- and a refusal is about the path of the name. -/
theorem entryFor_eq_error_iff {entry : String × Node} {cause : Cause} {about : String} :
    d.entryFor path entry = .error (cause, about) ↔
      about = Path.join path entry.1 ∧
        d.entryKind (Path.join path entry.1) entry.2 = .error cause := by
  unfold entryFor
  cases d.entryKind (Path.join path entry.1) entry.2 with
  | error cause' => simp [eq_comm, and_comm]
  | ok kind => simp

/-- What a tree has in a directory, and what a step takes there. -/
theorem IsTree.child (hd : d.IsTree) (h : (name, node) ∈ d.children place) :
    d.nodeAt? (place ++ [name]) = some node ∧ Path.IsName name.toList ∧ IsStep name := by
  have hmem := mem_children.mp h
  have hname := hd.named _ hmem name (List.mem_append_right _ (List.mem_singleton_self name))
  have hshort := hd.short _ hmem name (List.mem_append_right _ (List.mem_singleton_self name))
  obtain ⟨hnil, hdot, hdots⟩ := hname.ne_texts
  exact ⟨hd.nodeAt?_iff.mpr hmem, hname, hnil, hdot, hdots, hshort⟩

/-- **What is listed of a tree is all that the directory holds.** -/
theorem isListing_of_list (hd : d.IsTree) (hdir : d.look path = .ok (place, .directory))
    {entries : List Entry} (h : d.list path = .ok entries) : d.IsListing place entries := by
  rw [list_eq hdir, mapM_eq_ok_iff] at h
  have hnames : (d.children place).map Prod.fst = entries.map Entry.name := by
    rw [← List.forall₂_eq_eq_eq, List.forall₂_map_left_iff, List.forall₂_map_right_iff]
    exact h.imp fun _ _ hentry => (entryFor_eq_ok_iff.mp hentry).1.symm
  constructor
  case distinct =>
    rw [← hnames]
    exact hd.nodup_children place
  case names =>
    intro name
    rw [← hnames, List.mem_map, Option.isSome_iff_exists]
    constructor
    · rintro ⟨⟨name, node⟩, hmem, rfl⟩
      exact ⟨node, (hd.child hmem).1⟩
    · rintro ⟨node, hnode⟩
      exact ⟨_, mem_children.mpr (hd.nodeAt?_iff.mp hnode), rfl⟩
  case kinds =>
    intro e he
    obtain ⟨⟨name, node⟩, hmem, hentry⟩ := exists_of_mem_right h he
    obtain ⟨hnode, hname, hstep⟩ := hd.child hmem
    obtain ⟨hsame, hkind⟩ := entryFor_eq_ok_iff.mp hentry
    rw [hsame]
    exact entryIs_of_entryKind hdir hname hstep hnode hkind

/-- What a listing is stopped by is a link of the directory. -/
theorem stops_of_list (hd : d.IsTree) (hdir : d.look path = .ok (place, .directory)) {cause : Cause}
    {about : String} (h : d.list path = .error (cause, about)) :
    ∃ name, d.Stops path place name cause ∧ about = Path.join path name := by
  rw [list_eq hdir] at h
  obtain ⟨⟨name, node⟩, hmem, hentry⟩ := exists_of_mapM_eq_error h
  obtain ⟨habout, hkind⟩ := entryFor_eq_error_iff.mp hentry
  exact ⟨name, (entryKind_eq_error_iff (hd.child hmem).1).mp hkind, habout⟩

/-- A link that stops a listing does. -/
theorem not_list_of_stops {cause : Cause} {entries : List Entry} (hd : d.IsTree)
    (hdir : d.look path = .ok (place, .directory)) (hstops : d.Stops path place name cause) :
    d.list path ≠ .ok entries := by
  intro h
  obtain ⟨target, hnode⟩ := hstops.link
  have hmem : (name, .link target) ∈ d.children place :=
    mem_children.mpr (hd.nodeAt?_iff.mp hnode)
  rw [list_eq hdir, mapM_eq_ok_iff] at h
  obtain ⟨e, -, hentry⟩ := exists_of_mem_right h.flip hmem
  have hkind := (entryFor_eq_ok_iff.mp hentry).2
  cases ((entryKind_eq_error_iff hnode).mpr hstops).symm.trans hkind

/-- **A directory is listed completely or not at all.** What is listed is all that it holds, with
every kind seen rightly. It is listed unless there is a link in it that cannot be followed and yet
does not lead to nothing, and then the refusal is about such a link. -/
theorem listed_completely (d : Disk) (path : String) (place : Place) (hd : d.IsTree)
    (hdir : d.look path = .ok (place, .directory)) :
    (∀ entries, d.list path = .ok entries → d.IsListing place entries) ∧
    ((∃ entries, d.list path = .ok entries) ↔ ∀ name cause, ¬ d.Stops path place name cause) ∧
    ∀ cause about, d.list path = .error (cause, about) →
      ∃ name, d.Stops path place name cause ∧ about = Path.join path name := by
  refine ⟨fun entries => isListing_of_list hd hdir, ⟨?_, ?_⟩, fun cause about =>
    stops_of_list hd hdir⟩
  · rintro ⟨entries, h⟩ name cause hstops
    exact not_list_of_stops hd hdir hstops h
  · intro hnone
    cases hlist : d.list path with
    | ok entries => exact ⟨entries, rfl⟩
    | error refusal =>
      obtain ⟨name, hstops, -⟩ := stops_of_list hd hdir hlist
      exact absurd hstops (hnone name _)

/-- A directory with a file, two links that lead to a directory one through the other, and a link
that leads to nothing. -/
def sampleDisk : Disk where
  tree := [(["d"], .directory), (["d", "a"], .file []), (["d", "b"], .link "c"),
    (["d", "c"], .link "/d"), (["d", "e"], .link "nowhere")]

/-- A tree is seen to be one by looking at its places and names. -/
theorem IsTree.of_names (hdistinct : (d.tree.map Prod.fst).Nodup)
    (hnames : ∀ entry ∈ d.tree, ∀ name ∈ entry.1,
      Path.isBare name = true ∧ name.utf8ByteSize ≤ maxName) : d.IsTree where
  distinct := hdistinct
  named entry he name hname := Path.isBare_iff.mp (hnames entry he name hname).1
  short entry he name hname := (hnames entry he name hname).2

theorem sample_listed : sampleDisk.IsTree ∧ sampleDisk.look "/d" = .ok (["d"], .directory) ∧
    sampleDisk.IsListing ["d"]
      [⟨"a", .file⟩, ⟨"b", .directory⟩, ⟨"c", .directory⟩, ⟨"e", .other⟩] := by
  have hd : sampleDisk.IsTree := .of_names (by decide) (by decide +kernel)
  have hdir : sampleDisk.look "/d" = .ok (["d"], .directory) := by rfl
  exact ⟨hd, hdir, (listed_completely sampleDisk "/d" ["d"] hd hdir).1 _ (by rfl)⟩

/-- A directory with a file and a link that leads to itself. -/
def loopingDisk : Disk where
  tree := [(["d"], .directory), (["d", "a"], .file []), (["d", "loop"], .link "loop")]

/-- **A link in a loop takes the listing of its directory with it**, and the file in it too. -/
theorem list_stopped_by_loop : loopingDisk.IsTree ∧
    loopingDisk.look "/d" = .ok (["d"], .directory) ∧
    loopingDisk.list "/d" = .error (.tooManyLinks, "/d/loop") := by
  refine ⟨.of_names (by decide) (by decide +kernel), by rfl, by rfl⟩

/-! ## The order of a listing -/

/-- **A disk reordered**: the same places hold the same things, and are listed in another order. -/
structure Reordered (d d' : Disk) : Prop where
  distinct : (d.tree.map Prod.fst).Nodup
  tree : d.tree.Perm d'.tree
  cwd : d.cwd = d'.cwd

namespace Reordered

variable {d' : Disk}

theorem symm (h : d.Reordered d') : d'.Reordered d where
  distinct := (h.tree.map _).nodup_iff.mp h.distinct
  tree := h.tree.symm
  cwd := h.cwd.symm

/-- The same is at every place. -/
theorem nodeAt? (h : d.Reordered d') : d.nodeAt? = d'.nodeAt? := by
  funext place
  unfold Disk.nodeAt?
  refine congrArg _ (Option.ext fun node => ?_)
  rw [lookup_eq_some_iff_mem h.distinct, lookup_eq_some_iff_mem h.symm.distinct, h.tree.mem_iff]

/-- So every walk goes the same way, -/
theorem walkWith (h : d.Reordered d') (through : Bool)
    (next : Place → String → List String → Except Cause Found) (here : Place)
    (names : List String) :
    d.walkWith through next here names = d'.walkWith through next here names := by
  induction names generalizing here with
  | nil => rfl
  | cons name rest ih => simp only [Disk.walkWith, h.nodeAt?, ih]

/-- through however many links. -/
theorem walk (h : d.Reordered d') (through : Bool) (links : Nat) (here : Place)
    (names : List String) :
    d.walk through links here names = d'.walk through links here names := by
  induction links generalizing here names with
  | zero => exact h.walkWith through _ here names
  | succ links ih =>
    simp only [Disk.walk, ih]
    exact h.walkWith through _ here names

/-- What a path leads to is the same. -/
theorem look (h : d.Reordered d') (path : String) : d.look path = d'.look path := by
  simp only [Disk.look, find, findNames, h.walk, h.cwd]

/-- And every entry is given the same kind. -/
theorem entryFor (h : d.Reordered d') (path : String) : d.entryFor path = d'.entryFor path := by
  funext entry
  obtain ⟨name, node⟩ := entry
  have hkind :
      d.entryKind (Path.join path name) node = d'.entryKind (Path.join path name) node := by
    cases node with
    | link target => simp only [entryKind, h.look]
    | directory | file | device => rfl
  unfold Disk.entryFor
  rw [hkind]

/-- **A directory that can be listed is listed with the same entries**, in another order. -/
theorem list (h : d.Reordered d') {path : String} {entries : List Entry}
    (hlist : d.list path = .ok entries) :
    ∃ entries', d'.list path = .ok entries' ∧ entries.Perm entries' := by
  have hdirectory : ∃ place, d.look path = .ok (place, .directory) := by
    unfold Disk.list at hlist
    split at hlist
    next => cases hlist
    next place hlook => exact ⟨place, hlook⟩
    next => cases hlist
  obtain ⟨place, hdir⟩ := hdirectory
  have hchildren : (d'.children place).Perm (d.children place) := (h.tree.filterMap _).symm
  rw [list_eq hdir, mapM_eq_ok_iff] at hlist
  -- the entries are carried along with the names that they are listed for
  obtain ⟨entries', hall, hperm⟩ := List.perm_comp_forall₂ hchildren hlist
  refine ⟨entries', ?_, hperm.symm⟩
  rw [list_eq (h.look path ▸ hdir), ← h.entryFor, mapM_eq_ok_iff]
  exact hall

end Reordered

end Disk

end NamenodeShell
