import Mathlib.Data.List.TakeWhile
import NamenodeShell.Path

/-!
# Normal paths

A name is what a path can hold between two slashes and mean an entry by: not nothing, not a dot
entry, no slash in it. A path is normal when it is a slash and names with a slash between each two.

From a rooted directory `remoteChild` always gives a normal path (`isNormal_remoteChild`): the fold
that works the pieces of a path off keeps names only (`isName_of_mem_components`), and what is left
of the slashes in front is one. For a bare name the path is the directory's own normal path with
the name behind it (`remoteChild_bare`), so `base` and `parent` take it apart again.
-/
set_option autoImplicit false

namespace NamenodeShell

/-- The pieces between separators are those that the library's split gives. -/
theorem Text.piecesBetween_eq_splitOn (sep : Char) (cs : List Char) :
    piecesBetween sep cs = cs.splitOn sep := by
  induction cs with
  | nil => rfl
  | cons c rest ih =>
    rw [List.splitOn_cons_eq_if_modifyHead, piecesBetween, ih]
    by_cases h : c = sep
    · rw [if_pos h, if_pos (beq_iff_eq.mpr h)]
    · rw [if_neg h, if_neg (fun hc => h (beq_iff_eq.mp hc))]
      cases hrest : rest.splitOn sep with
      | nil => exact absurd hrest (List.splitOn_ne_nil sep rest)
      | cons piece pieces => rfl

namespace Path

/-! ## Pieces -/

/-- A slash ends one piece and begins the next. -/
theorem pieces_append_slash (p q : List Char) : pieces (p ++ '/' :: q) = pieces p ++ pieces q := by
  simp only [pieces, Text.piecesBetween_eq_splitOn, List.splitOn_append_cons_self]

theorem pieces_of_slash_free {p : List Char} (h : '/' ∉ p) : pieces p = [p] := by
  rw [pieces, Text.piecesBetween_eq_splitOn, List.splitOn_eq_singleton h]

/-- No piece has a slash in it. -/
theorem slash_free_of_mem_pieces {p n : List Char} (h : n ∈ pieces p) : '/' ∉ n := by
  induction p generalizing n with
  | nil =>
    rw [pieces, Text.piecesBetween, List.mem_singleton] at h
    subst h
    exact List.not_mem_nil
  | cons c rest ih =>
    rw [pieces, Text.piecesBetween] at h
    by_cases hc : c = '/'
    · rw [if_pos hc] at h
      rcases List.mem_cons.mp h with rfl | h
      · exact List.not_mem_nil
      · exact ih h
    · rw [if_neg hc] at h
      unfold pieces at ih
      cases hrest : Text.piecesBetween '/' rest with
      | nil =>
        rw [hrest] at h
        rw [List.mem_singleton.mp h]
        intro hm
        exact hc (List.mem_singleton.mp hm).symm
      | cons piece pieces =>
        rw [hrest] at h ih
        rcases List.mem_cons.mp h with rfl | h
        · intro hm
          rcases List.mem_cons.mp hm with hm | hm
          · exact hc hm.symm
          · exact ih List.mem_cons_self hm
        · exact ih (List.mem_cons_of_mem _ h)

/-! ## Names -/

/-- **A name**: what stands for an entry between two slashes. -/
structure IsName (n : List Char) : Prop where
  ne_nil : n ≠ []
  ne_dot : n ≠ ['.']
  ne_dots : n ≠ ['.', '.']
  slash_free : '/' ∉ n

/-- A text that is a name is none of the texts that mean nothing or a dot entry. -/
theorem IsName.ne_texts {name : String} (h : IsName name.toList) :
    name ≠ "" ∧ name ≠ "." ∧ name ≠ ".." := by
  have hne : ∀ other : String, name.toList ≠ other.toList → name ≠ other :=
    fun other hother heq => hother (congrArg String.toList heq)
  exact ⟨hne _ h.ne_nil, hne _ h.ne_dot, hne _ h.ne_dots⟩

/-- A bare name is a name. -/
theorem isBare_iff {name : String} : isBare name = true ↔ IsName name.toList := by
  have hlit : ∀ s : String, name ≠ s ↔ name.toList ≠ s.toList := fun s => by
    rw [Ne, Ne, String.toList_inj]
  simp only [isBare, Bool.and_eq_true, bne_iff_ne, Bool.not_eq_true', hlit]
  constructor
  · rintro ⟨⟨⟨hnil, hdot⟩, hdots⟩, hslash⟩
    exact ⟨hnil, hdot, hdots, fun hm => by simp [hm] at hslash⟩
  · intro h
    exact ⟨⟨⟨h.ne_nil, h.ne_dot⟩, h.ne_dots⟩, by simpa using h.slash_free⟩

/-- A name is kept, whatever was kept before it. -/
theorem keep_name {n : List Char} (h : IsName n) (root : Bool) (kept : List (List Char)) :
    keep root kept n = n :: kept := by
  unfold keep
  rw [if_neg (not_or.mpr ⟨h.ne_nil, h.ne_dot⟩), if_pos h.ne_dots]

@[simp]
theorem keep_nil (root : Bool) (kept : List (List Char)) : keep root kept [] = kept := by
  unfold keep
  rw [if_pos (Or.inl rfl)]

@[simp]
theorem keep_dot (root : Bool) (kept : List (List Char)) : keep root kept ['.'] = kept := by
  unfold keep
  rw [if_pos (Or.inr rfl)]

/-- From the root only names are kept. -/
theorem isName_of_mem_keep {kept : List (List Char)} {piece : List Char} (hpiece : '/' ∉ piece)
    (hkept : ∀ n ∈ kept, IsName n) : ∀ n ∈ keep true kept piece, IsName n := by
  intro n hn
  unfold keep at hn
  split at hn
  next => exact hkept n hn
  next hsilent =>
    split at hn
    next hdots =>
      rcases List.mem_cons.mp hn with rfl | hn
      · rw [not_or] at hsilent
        exact ⟨hsilent.1, hsilent.2, hdots, hpiece⟩
      · exact hkept n hn
    next =>
      cases kept with
      | nil => cases hn
      | cons top rest =>
        -- two dots are only kept above the start of a path without a root, so here they take a name
        -- away
        have htop : top ≠ ['.', '.'] := (hkept top List.mem_cons_self).ne_dots
        change n ∈ (if top = ['.', '.'] then piece :: top :: rest else rest) at hn
        rw [if_neg htop] at hn
        exact hkept n (List.mem_cons_of_mem _ hn)

/-- The names to which the pieces of a path come, innermost first. -/
def kept (p : List Char) : List (List Char) :=
  (pieces p).foldl (keep true) []

/-- By induction on the pieces: from the root nothing but names is ever kept, so two dots always
have a name to take away, or nothing. -/
theorem isName_of_mem_foldl {pieces kept : List (List Char)} (hpieces : ∀ n ∈ pieces, '/' ∉ n)
    (hkept : ∀ n ∈ kept, IsName n) : ∀ n ∈ pieces.foldl (keep true) kept, IsName n := by
  induction pieces generalizing kept with
  | nil => exact hkept
  | cons piece pieces ih =>
    rw [List.forall_mem_cons] at hpieces
    exact ih hpieces.2 (isName_of_mem_keep hpieces.1 hkept)

/-- **The names of the entries on the way from the root to where a path leads.** -/
def components (p : List Char) : List (List Char) :=
  (kept p).reverse

/-- **The components of a path are names**, whatever the path is. -/
theorem isName_of_mem_components {p n : List Char} (h : n ∈ components p) : IsName n :=
  isName_of_mem_foldl (fun _ => slash_free_of_mem_pieces) (fun _ hn => by cases hn) n
    (List.mem_reverse.mp h)

/-! ## Paths from the root -/

/-- The path of names from the root. -/
def rooted (names : List (List Char)) : List Char :=
  '/' :: glue names

/-- **A normal path**: one slash in front, and names with one slash between each two. -/
def IsNormal (p : String) : Prop :=
  ∃ names, (∀ n ∈ names, IsName n) ∧ p.toList = rooted names

/-- A name at the end comes behind a slash, unless it is the only one. -/
theorem glue_append_singleton {names : List (List Char)} (h : names ≠ []) (n : List Char) :
    glue (names ++ [n]) = glue names ++ '/' :: n := by
  induction names with
  | nil => exact absurd rfl h
  | cons m rest ih =>
    cases rest with
    | nil => simp only [glue, List.cons_append, List.nil_append, List.intercalate_cons_cons,
        List.intercalate_singleton, List.append_assoc]
    | cons m' rest =>
      have ih := ih (List.cons_ne_nil m' rest)
      simp only [glue, List.cons_append, List.intercalate_cons_cons] at ih ⊢
      rw [ih]
      simp only [List.append_assoc, List.cons_append]

/-- The path of names does not begin with a slash of its own. -/
theorem head?_glue_ne {names : List (List Char)} (h : ∀ n ∈ names, IsName n) :
    (glue names).head? ≠ some '/' := by
  cases names with
  | nil =>
    intro hn
    cases hn
  | cons n rest =>
    have hn := h n List.mem_cons_self
    cases n with
    | nil => exact absurd rfl hn.ne_nil
    | cons c cs =>
      have hc : c ≠ '/' := fun hc => hn.slash_free (hc ▸ List.mem_cons_self)
      cases rest with
      | nil => simpa [glue] using hc
      | cons m rest => simpa [glue, List.intercalate_cons_cons] using hc

/-- So no slash is lost where those in front are dropped. -/
theorem dropWhile_glue {names : List (List Char)} (h : ∀ n ∈ names, IsName n) :
    (glue names).dropWhile (· = '/') = glue names := by
  have hhead := head?_glue_ne h
  cases hg : glue names with
  | nil => rfl
  | cons c cs =>
    rw [hg, List.head?_cons] at hhead
    rw [List.dropWhile_cons_of_neg]
    intro hc
    exact hhead (congrArg some (of_decide_eq_true hc))

/-- A rooted path keeps a slash in front, or the two that POSIX leaves to the system to give a
meaning. -/
theorem rootSlashes_of_isRooted {p : List Char} (h : isRooted p = true) :
    rootSlashes p = 1 ∨ rootSlashes p = 2 := by
  have hpos : (p.takeWhile (· = '/')).length ≠ 0 := by
    cases p with
    | nil => cases h
    | cons c cs =>
      have hc : c = '/' := by simpa [isRooted] using h
      rw [hc, List.takeWhile_cons_of_pos (by decide)]
      exact Nat.succ_ne_zero _
  unfold rootSlashes
  split
  next hzero => exact absurd hzero hpos
  next => exact Or.inr rfl
  next => exact Or.inl rfl

/-- The normal form of a rooted path: its names behind the slashes that it keeps. -/
theorem normalizeChars_of_isRooted {p : List Char} (h : isRooted p = true) :
    normalizeChars p = List.replicate (rootSlashes p) '/' ++ glue (components p) := by
  have hroot : (rootSlashes p != 0) = true := by
    rcases rootSlashes_of_isRooted h with h1 | h2
    · rw [h1]; rfl
    · rw [h2]; rfl
  unfold normalizeChars
  simp only [hroot]
  rcases rootSlashes_of_isRooted h with h1 | h2
  · rw [h1]; rfl
  · rw [h2]; rfl

/-- What is put under a rooted directory is rooted. -/
theorem isRooted_joinChars {dir : List Char} (h : isRooted dir = true) (p : List Char) :
    isRooted (joinChars dir p) = true := by
  unfold joinChars
  split
  next hp => exact hp
  next =>
    cases dir with
    | nil => cases h
    | cons c cs => split <;> exact h

/-- **From a rooted directory the path of a name is the one of its components.** -/
theorem remoteChildChars_of_isRooted {cwd : List Char} (h : isRooted cwd = true)
    (name : List Char) :
    remoteChildChars cwd name = rooted (components (joinChars cwd name)) := by
  have hjoin := isRooted_joinChars h name
  have hnames : ∀ n ∈ components (joinChars cwd name), IsName n :=
    fun _ => isName_of_mem_components
  unfold remoteChildChars
  simp only [normalizeChars_of_isRooted hjoin]
  rcases rootSlashes_of_isRooted hjoin with hone | htwo
  · -- one slash is left, and no second one comes from the names
    rw [hone, List.replicate_one, List.singleton_append, if_neg]
    · rfl
    · have hhead := head?_glue_ne hnames
      intro hprefix
      cases hg : glue (components (joinChars cwd name)) with
      | nil => rw [hg] at hprefix; cases hprefix
      | cons c cs =>
        rw [hg] at hprefix hhead
        simp only [List.isPrefixOf, beq_self_eq_true, Bool.true_and, Bool.and_true] at hprefix
        exact hhead (congrArg some (beq_iff_eq.mp hprefix).symm)
  · rw [htwo]
    simp only [List.replicate, List.cons_append, List.nil_append, List.isPrefixOf,
      beq_self_eq_true, Bool.and_self, if_true]
    rw [List.dropWhile_cons_of_pos (by decide), List.dropWhile_cons_of_pos (by decide),
      dropWhile_glue hnames]
    rfl

/-- **From a rooted directory every path is normal.** -/
theorem isNormal_remoteChild {cwd : String} (h : isRooted cwd.toList = true) (name : String) :
    IsNormal (remoteChild cwd name) :=
  ⟨_, fun _ => isName_of_mem_components, by
    rw [remoteChild, String.toList_ofList, remoteChildChars_of_isRooted h]⟩

/-- A normal path begins at the root. -/
theorem IsNormal.isRooted {p : String} (h : IsNormal p) : Path.isRooted p.toList = true := by
  obtain ⟨names, -, hp⟩ := h
  rw [hp]
  rfl

/-! ## Bare names -/

/-- The pieces of a path put under a directory: those of the directory, but for an empty one at
their end, and those of the path. -/
theorem pieces_joinChars {dir p : List Char} (hdir : dir ≠ []) (hp : isRooted p = false) :
    ∃ front, pieces (joinChars dir p) = front ++ pieces p ∧
      (pieces dir = front ∨ pieces dir = front ++ [[]]) := by
  unfold joinChars
  rw [if_neg (by rw [hp]; exact Bool.false_ne_true)]
  split
  next hend =>
    have hlast : dir.getLast? = some '/' := by simpa [List.isEmpty_eq_false_iff.mpr hdir] using hend
    -- the directory ends in a slash, behind which it has one empty piece more
    obtain ⟨front, rfl⟩ := List.getLast?_eq_some_iff.mp hlast
    refine ⟨pieces front, ?_, Or.inr (pieces_append_slash front [])⟩
    rw [List.append_assoc, List.singleton_append, pieces_append_slash]
  next => exact ⟨pieces dir, pieces_append_slash dir p, Or.inl rfl⟩

/-- Going on from a directory works the pieces of the rest off on top of those of the directory. -/
theorem kept_joinChars {dir p : List Char} (hdir : dir ≠ []) (hp : isRooted p = false) :
    kept (joinChars dir p) = (pieces p).foldl (keep true) (kept dir) := by
  obtain ⟨front, hjoin, hfront | hfront⟩ := pieces_joinChars hdir hp
  · rw [kept, kept, hjoin, hfront, List.foldl_append]
  · rw [kept, kept, hjoin, hfront, List.foldl_append, List.foldl_append]
    rfl

/-- A name has no slash in front, so joining never lets it replace the directory. -/
theorem IsName.not_isRooted {n : List Char} (h : IsName n) : Path.isRooted n = false := by
  cases n with
  | nil => rfl
  | cons c cs =>
    have hc : c ≠ '/' := fun hc => h.slash_free (hc ▸ List.mem_cons_self)
    simpa [Path.isRooted] using hc

theorem ne_nil_of_isRooted {p : List Char} (h : isRooted p = true) : p ≠ [] := by
  rintro rfl
  cases h

/-- A name put under a directory is one component more. -/
theorem components_joinChars_name {dir n : List Char} (hdir : dir ≠ []) (h : IsName n) :
    components (joinChars dir n) = components dir ++ [n] := by
  rw [components, components, kept_joinChars hdir h.not_isRooted,
    pieces_of_slash_free h.slash_free, List.foldl_cons, List.foldl_nil, keep_name h,
    List.reverse_cons]

/-- A dot put under a directory is none. -/
theorem components_joinChars_dot {dir : List Char} (hdir : dir ≠ []) :
    components (joinChars dir ['.']) = components dir := by
  have hdot : pieces ['.'] = [['.']] := rfl
  rw [components, components, kept_joinChars hdir rfl, hdot, List.foldl_cons, List.foldl_nil,
    keep_dot]

theorem ne_slash_of_mem_reverse {n : List Char} (h : '/' ∉ n) :
    ∀ c ∈ n.reverse, decide (c ≠ '/') = true :=
  fun _ hc => decide_eq_true fun hslash => h (hslash ▸ List.mem_reverse.mp hc)

/-- What has no slash is its own last name. -/
theorem baseChars_of_slash_free {n : List Char} (h : '/' ∉ n) : baseChars n = n := by
  rw [baseChars, List.takeWhile_eq_self_iff.mpr (ne_slash_of_mem_reverse h), List.reverse_reverse]

/-- What follows the last slash, when nothing behind it is one. -/
theorem baseChars_append_slash (front : List Char) {n : List Char} (h : '/' ∉ n) :
    baseChars (front ++ '/' :: n) = n := by
  unfold baseChars
  rw [List.reverse_append, List.reverse_cons, List.append_assoc,
    List.takeWhile_append_of_pos (ne_slash_of_mem_reverse h), List.singleton_append,
    List.takeWhile_cons_of_neg (by decide), List.append_nil, List.reverse_reverse]

/-- The last name of a path of names. -/
theorem rooted_append_singleton (names : List (List Char)) (n : List Char) :
    ∃ front, rooted (names ++ [n]) = front ++ '/' :: n ∧
      (names = [] ∧ front = [] ∨ names ≠ [] ∧ front = rooted names) := by
  by_cases h : names = []
  · subst h
    refine ⟨[], ?_, Or.inl ⟨rfl, rfl⟩⟩
    simp only [rooted, glue, List.nil_append, List.intercalate_singleton]
  · exact ⟨rooted names, by rw [rooted, glue_append_singleton h]; rfl, Or.inr ⟨h, rfl⟩⟩

/-- The last of the names is what follows the last slash, -/
theorem baseChars_rooted (names : List (List Char)) {n : List Char} (h : '/' ∉ n) :
    baseChars (rooted (names ++ [n])) = n := by
  obtain ⟨front, hfront, -⟩ := rooted_append_singleton names n
  rw [hfront, baseChars_append_slash front h]

/-- No slash stands at the end of a path of names. -/
theorem getLast?_rooted {names : List (List Char)} (hne : names ≠ [])
    (h : ∀ n ∈ names, IsName n) : ∃ front c, rooted names = front ++ [c] ∧ c ≠ '/' := by
  obtain ⟨init, n, rfl⟩ : ∃ init n, names = init ++ [n] :=
    ⟨names.dropLast, names.getLast hne, (List.dropLast_concat_getLast hne).symm⟩
  have hn := h n (List.mem_append_right _ (List.mem_singleton_self n))
  obtain ⟨front, hfront, -⟩ := rooted_append_singleton init n
  have hsplit := List.dropLast_concat_getLast hn.ne_nil
  refine ⟨front ++ '/' :: n.dropLast, n.getLast hn.ne_nil, ?_, ?_⟩
  · rw [hfront, List.append_assoc, List.cons_append, hsplit]
  · intro hc
    exact hn.slash_free (hc ▸ List.getLast_mem hn.ne_nil)

/-- and the path of the others is what precedes it. The root keeps its slash. -/
theorem parentChars_rooted {names : List (List Char)} {n : List Char}
    (hnames : ∀ m ∈ names, IsName m) (h : '/' ∉ n) :
    parentChars (rooted (names ++ [n])) = rooted names := by
  obtain ⟨front, hfront, hcases⟩ := rooted_append_singleton names n
  have hhead : ((front ++ '/' :: n).reverse.dropWhile (· ≠ '/')).reverse = front ++ ['/'] := by
    rw [List.reverse_append, List.reverse_cons, List.append_assoc,
      List.dropWhile_append_of_pos (ne_slash_of_mem_reverse h), List.singleton_append,
      List.dropWhile_cons_of_neg (by decide), List.reverse_cons, List.reverse_reverse]
  unfold parentChars
  rw [hfront]
  simp only [hhead]
  rcases hcases with ⟨rfl, rfl⟩ | ⟨hne, rfl⟩
  · rfl
  · obtain ⟨front, c, hlast, hc⟩ := getLast?_rooted hne hnames
    rw [hlast, if_neg]
    · rw [List.reverse_append, List.reverse_singleton, List.singleton_append,
        List.dropWhile_cons_of_pos (by decide), List.reverse_append, List.reverse_singleton,
        List.singleton_append, List.dropWhile_cons_of_neg (by simpa using hc), List.reverse_cons,
        List.reverse_reverse]
    · simp [hc]

/-- **The path of a bare name**: it is normal, its last name is the bare one, and what is above it
is the directory in normal form. -/
theorem remoteChild_bare {cwd name : String} (hcwd : isRooted cwd.toList = true)
    (h : isBare name = true) :
    IsNormal (remoteChild cwd name) ∧ base (remoteChild cwd name) = name ∧
      parent (remoteChild cwd name) = remoteChild cwd "." := by
  have hname := isBare_iff.mp h
  have hne := ne_nil_of_isRooted hcwd
  have hchild : remoteChildChars cwd.toList name.toList =
      rooted (components cwd.toList ++ [name.toList]) := by
    rw [remoteChildChars_of_isRooted hcwd, components_joinChars_name hne hname]
  have hdot : remoteChildChars cwd.toList ['.'] = rooted (components cwd.toList) := by
    rw [remoteChildChars_of_isRooted hcwd, components_joinChars_dot hne]
  refine ⟨isNormal_remoteChild hcwd name, ?_, ?_⟩
  · rw [base, remoteChild, String.toList_ofList, hchild,
      baseChars_rooted _ hname.slash_free, String.ofList_toList]
  · rw [parent, remoteChild, String.toList_ofList, hchild,
      parentChars_rooted (fun _ => isName_of_mem_components) hname.slash_free]
    exact congrArg String.ofList hdot.symm

/-- What precedes a slash does not matter to what follows the last one. -/
theorem baseChars_append (front rest : List Char) :
    baseChars (front ++ '/' :: rest) = baseChars rest := by
  by_cases h : '/' ∈ rest
  -- read from the end, the first slash is met in the rest
  · have hshort : (rest.reverse.takeWhile (· ≠ '/')).length ≠ rest.reverse.length := by
      intro hlength
      have hall := List.takeWhile_eq_self_iff.mp
        ((List.takeWhile_prefix (· ≠ '/')).eq_of_length hlength)
      exact absurd (hall '/' (List.mem_reverse.mpr h)) (by decide)
    rw [baseChars, List.reverse_append, List.reverse_cons, List.append_assoc, List.takeWhile_append,
      if_neg hshort, baseChars]
  · rw [baseChars_append_slash front h, baseChars_of_slash_free h]

/-- Nor do the slashes in front. -/
theorem baseChars_slashes_append (n : Nat) (rest : List Char) :
    baseChars (List.replicate n '/' ++ rest) = baseChars rest := by
  induction n with
  | zero => rfl
  | succ n ih =>
    rw [List.replicate_succ, List.cons_append, ← List.nil_append ('/' :: _), baseChars_append, ih]

/-- The last name of names that are glued, rooted or not. -/
theorem baseChars_glue (names : List (List Char)) {n : List Char} (h : '/' ∉ n) :
    baseChars (glue (names ++ [n])) = n := by
  by_cases hnames : names = []
  · subst hnames
    rw [List.nil_append, glue, List.intercalate_singleton, baseChars_of_slash_free h]
  · rw [glue_append_singleton hnames, baseChars_append_slash _ h]

/-- A bare name put under any path is the last name of the normal form. -/
theorem baseChars_normalizeChars (dir : List Char) {n : List Char} (h : IsName n) :
    baseChars (normalizeChars (joinChars dir n)) = n := by
  obtain ⟨front, hfront⟩ : ∃ front, pieces (joinChars dir n) = front ++ [n] := by
    have hn := pieces_of_slash_free h.slash_free
    -- without a directory the name is the whole path, with one it is the last piece
    by_cases hdir : dir = []
    · refine ⟨[], ?_⟩
      rw [hdir, joinChars, if_neg (by rw [h.not_isRooted]; exact Bool.false_ne_true)]
      exact hn
    · obtain ⟨front, hfront, -⟩ := pieces_joinChars hdir h.not_isRooted
      exact ⟨front, by rw [hfront, hn]⟩
  unfold normalizeChars
  simp only [hfront, List.foldl_append, List.foldl_cons, List.foldl_nil, keep_name h,
    List.reverse_cons]
  split
  next hnil =>
    -- the name is kept, so the normal form is not empty
    have hbase := congrArg baseChars hnil
    rw [baseChars_slashes_append, baseChars_glue _ h.slash_free] at hbase
    exact absurd hbase h.ne_nil
  next => rw [baseChars_slashes_append, baseChars_glue _ h.slash_free]

/-- **The remote path of a bare name ends in the name**, whatever the directory is. -/
theorem base_remoteChild (cwd : String) {name : String} (h : isBare name = true) :
    base (remoteChild cwd name) = name := by
  have hname := isBare_iff.mp h
  have hbase : baseChars (remoteChildChars cwd.toList name.toList) = name.toList := by
    unfold remoteChildChars
    simp only
    split
    next hslashes =>
      -- the slashes in front are one or more, before and after
      have hsplit := List.takeWhile_append_dropWhile (p := (· = '/'))
        (l := normalizeChars (joinChars cwd.toList name.toList))
      have hfront : (normalizeChars (joinChars cwd.toList name.toList)).takeWhile (· = '/') =
          List.replicate ((normalizeChars (joinChars cwd.toList name.toList)).takeWhile
            (· = '/')).length '/' :=
        List.eq_replicate_iff.mpr ⟨rfl, fun c hc =>
          of_decide_eq_true (List.mem_takeWhile_imp (p := (· = '/')) hc)⟩
      rw [hfront] at hsplit
      rw [← List.nil_append ('/' :: _), baseChars_append, ← baseChars_slashes_append _
        (List.dropWhile _ _), hsplit, baseChars_normalizeChars _ hname]
    next => exact baseChars_normalizeChars _ hname
  rw [base, remoteChild, String.toList_ofList, hbase, String.ofList_toList]

/-- A bare name put under any directory is still the last name. -/
theorem base_localChild {dir name : String} (h : '/' ∉ name.toList) :
    base (localChild dir name) = name := by
  have hfree : isRooted name.toList = false := by
    cases hn : name.toList with
    | nil => rfl
    | cons c cs =>
      have hc : c ≠ '/' := fun hc => h (hn ▸ hc ▸ List.mem_cons_self)
      simpa [isRooted] using hc
  have hbase : baseChars (joinChars dir.toList name.toList) = name.toList := by
    unfold joinChars
    rw [if_neg (by rw [hfree]; exact Bool.false_ne_true)]
    split
    next hend =>
      rcases Bool.or_eq_true_iff.mp hend with hnil | hlast
      · rw [List.isEmpty_iff.mp hnil, List.nil_append, baseChars_of_slash_free h]
      · obtain ⟨front, hfront⟩ := List.getLast?_eq_some_iff.mp (beq_iff_eq.mp hlast)
        rw [hfront, List.append_assoc, List.singleton_append, baseChars_append_slash front h]
    next => exact baseChars_append_slash _ h
  rw [base, localChild, join, String.toList_ofList, hbase, String.ofList_toList]

end Path

end NamenodeShell
