import Mathlib.Data.List.Induction
import Mathlib.Data.String.Basic
import NamenodeShell.Proofs.Disk.Child

/-!
# Dots worked off and dots walked

The normal form of a path works its dots off without asking any disk; a walk goes up from wherever
it has come. The two lead to the same directory as long as no two dots take back the name of a
symbolic link (`look_normalize`). `Path.worked` is what the pieces of a path come to, and what
carries the proof is that along all beginnings of the path the walk over what is left of it is where
the walk over the path itself is, and has passed no more links (`walks_worked`).

A link that is taken back can put any two directories in each other's place, so nothing is said of
paths that do so.
-/
set_option autoImplicit false

namespace NamenodeShell

open scoped List

namespace Path

/-! ## What pieces come to -/

/-- **What pieces from the root come to** once the dots among them are worked off. -/
def worked (pieces : List (List Char)) : List (List Char) :=
  (pieces.foldl (keep true) []).reverse

/-- The components of a path are what its pieces come to. -/
theorem components_eq (p : List Char) : components p = worked (pieces p) := rfl

/-- What is left are names: from the root no dots stay. -/
theorem isName_of_mem_worked {pieces : List (List Char)} (hpieces : ∀ n ∈ pieces, '/' ∉ n) :
    ∀ n ∈ worked pieces, IsName n :=
  fun n hn => isName_of_mem_foldl hpieces (fun _ h => absurd h List.not_mem_nil) n
    (List.mem_reverse.mp hn)

/-- A piece more is worked into what the others have come to. -/
theorem worked_append (front : List (List Char)) (piece : List Char) :
    worked (front ++ [piece]) = (keep true (front.foldl (keep true) []) piece).reverse := by
  rw [worked, List.foldl_append, List.foldl_cons, List.foldl_nil]

/-- Nothing between two slashes changes nothing, nor does a dot. -/
theorem worked_append_silent {piece : List Char} (h : piece = [] ∨ piece = ['.'])
    (front : List (List Char)) : worked (front ++ [piece]) = worked front := by
  rw [worked_append]
  rcases h with rfl | rfl
  · rw [keep_nil, worked]
  · rw [keep_dot, worked]

/-- A name is added. -/
theorem worked_append_name {n : List Char} (h : IsName n) (front : List (List Char)) :
    worked (front ++ [n]) = worked front ++ [n] := by
  rw [worked_append, keep_name h, List.reverse_cons, worked]

/-- Two dots take the last name away. -/
theorem worked_append_dots {front : List (List Char)} (hfront : ∀ n ∈ front, '/' ∉ n) :
    worked (front ++ [['.', '.']]) = (worked front).dropLast := by
  have hnames : ∀ n ∈ front.foldl (keep true) [], IsName n :=
    isName_of_mem_foldl hfront fun _ h => absurd h List.not_mem_nil
  rw [worked_append, worked, List.dropLast_reverse]
  cases hkept : front.foldl (keep true) [] with
  | nil => rfl
  | cons top rest =>
    -- what has been kept from the root are names, so there is one to take away
    have htop : top ≠ ['.', '.'] := (hnames top (by rw [hkept]; exact List.mem_cons_self)).ne_dots
    congr 1
    change (if top = ['.', '.'] then ['.', '.'] :: top :: rest else rest) = rest
    rw [if_neg htop]

/-! ## The normal form of a rooted path -/

/-- **An absolute path in normal form**: names with one slash between each two, behind one slash or
the two that a path may keep. -/
def IsAbsoluteNormal (p : String) : Prop :=
  ∃ slashes names, (slashes = 1 ∨ slashes = 2) ∧ (∀ n ∈ names, IsName n) ∧
    p.toList = List.replicate slashes '/' ++ glue names

/-- The normal form of a rooted path is one. -/
theorem isAbsoluteNormal_normalize {p : String} (h : isRooted p.toList = true) :
    IsAbsoluteNormal (normalize p) :=
  ⟨rootSlashes p.toList, components p.toList, rootSlashes_of_isRooted h,
    fun _ => isName_of_mem_components, by
    rw [normalize, String.toList_ofList, normalizeChars_of_isRooted h]⟩

theorem IsAbsoluteNormal.isRooted {p : String} (h : IsAbsoluteNormal p) :
    Path.isRooted p.toList = true := by
  obtain ⟨slashes, names, rfl | rfl, -, hp⟩ := h <;> rw [hp] <;> rfl

/-- Names glued together fall into the same names again. -/
theorem pieces_glue {names : List (List Char)} (hne : names ≠ []) (h : ∀ n ∈ names, IsName n) :
    pieces (glue names) = names := by
  rw [pieces, Text.piecesBetween_eq_splitOn, glue]
  exact List.splitOn_intercalate '/' (fun n hn => (h n hn).slash_free) hne

/-- Every slash in front is one empty piece more. -/
theorem pieces_slashes_append (n : Nat) (p : List Char) :
    pieces (List.replicate n '/' ++ p) = List.replicate n [] ++ pieces p := by
  induction n with
  | zero => rfl
  | succ n ih =>
    rw [List.replicate_succ, List.cons_append, ← List.nil_append ('/' :: _), pieces_append_slash,
      ih]
    rfl

/-- The pieces of a path of names behind slashes are the names behind empty ones. -/
theorem pieces_slashes_glue (slashes : Nat) {names : List (List Char)}
    (h : ∀ n ∈ names, IsName n) :
    ∃ n, pieces (List.replicate slashes '/' ++ glue names) = List.replicate n [] ++ names := by
  rw [pieces_slashes_append]
  by_cases hnil : names = []
  · subst hnil
    exact ⟨slashes + 1, by rw [List.replicate_succ', List.append_nil]; rfl⟩
  · exact ⟨slashes, by rw [pieces_glue hnil h]⟩

/-- The pieces of the normal form are its names behind empty ones. -/
theorem pieces_normalize {p : String} (h : isRooted p.toList = true) :
    ∃ n, pieces (normalize p).toList = List.replicate n [] ++ components p.toList := by
  rw [normalize, String.toList_ofList, normalizeChars_of_isRooted h]
  exact pieces_slashes_glue _ fun _ => isName_of_mem_components

/-! ## What the normal form leaves out -/

/-- Working a piece in adds at most that piece. -/
theorem keep_sublist (kept : List (List Char)) (piece : List Char) :
    keep true kept piece <+ piece :: kept := by
  unfold keep
  split
  next => exact List.sublist_cons_self piece kept
  next =>
    split
    next => exact List.Sublist.refl _
    next =>
      split
      next => exact List.nil_sublist _
      next top rest =>
        split
        next => exact List.Sublist.refl _
        next => exact ((List.sublist_cons_self top rest).trans (List.sublist_cons_self _ _))

/-- What pieces come to are some of them, in the same order. -/
theorem worked_sublist (pieces : List (List Char)) : worked pieces <+ pieces := by
  have hfold : ∀ kept : List (List Char),
      pieces.foldl (keep true) kept <+ pieces.reverse ++ kept := by
    induction pieces with
    | nil => exact fun kept => List.Sublist.refl kept
    | cons piece pieces ih =>
      intro kept
      rw [List.foldl_cons, List.reverse_cons, List.append_assoc, List.singleton_append]
      exact (ih _).trans ((keep_sublist kept piece).append_left _)
  have hreverse := (hfold []).reverse
  rwa [List.append_nil, List.reverse_reverse] at hreverse

/-- Empty pieces in front come to nothing. -/
theorem worked_slashes_append (n : Nat) (pieces : List (List Char)) :
    worked (List.replicate n [] ++ pieces) = worked pieces := by
  induction n with
  | zero => rfl
  | succ n ih =>
    rw [← ih, worked, List.replicate_succ, List.cons_append, List.foldl_cons, keep_nil, worked]

theorem glue_cons {rest : List (List Char)} (h : rest ≠ []) (n : List Char) :
    glue (n :: rest) = n ++ '/' :: glue rest := by
  obtain ⟨m, rest, rfl⟩ := List.exists_cons_of_ne_nil h
  rw [glue, List.intercalate_cons_cons, List.append_assoc, List.singleton_append, glue]

/-- Names that are left out are left out of the path, each with a slash. -/
theorem glue_sublist {names more : List (List Char)} (h : names <+ more) :
    glue names <+ glue more := by
  induction h with
  | slnil => exact List.Sublist.refl _
  | @cons names more n _ ih =>
    by_cases hmore : more = []
    · subst hmore
      exact ih.trans (List.nil_sublist _)
    · rw [glue_cons hmore]
      exact ih.trans ((List.sublist_cons_self _ _).trans (List.sublist_append_right n _))
  | @cons_cons names more n hsub ih =>
    by_cases hnames : names = []
    · subst hnames
      rw [glue, List.intercalate_singleton]
      by_cases hmore : more = []
      · subst hmore
        rw [glue, List.intercalate_singleton]
      · rw [glue_cons hmore]
        exact List.sublist_append_left n _
    · have hmore : more ≠ [] := by
        rintro rfl
        exact hnames (List.sublist_nil.mp hsub)
      rw [glue_cons hnames, glue_cons hmore]
      exact (ih.cons_cons '/').append_left n

/-- The pieces of a path put together again are the path. -/
theorem glue_pieces (p : List Char) : glue (pieces p) = p := by
  rw [glue, pieces, Text.piecesBetween_eq_splitOn, List.intercalate_splitOn]

/-- The slashes that a normal form keeps are there. -/
theorem exists_eq_slashes_append (p : List Char) :
    ∃ rest, p = List.replicate (rootSlashes p) '/' ++ rest := by
  have hle : rootSlashes p ≤ (p.takeWhile (· = '/')).length := by
    unfold rootSlashes
    split
    next h => exact h.ge
    next h => exact h.ge
    next hzero _ => exact Nat.pos_of_ne_zero hzero
  have hall : ∀ c ∈ (p.takeWhile (· = '/')).take (rootSlashes p), c = '/' := fun c hc =>
    of_decide_eq_true (List.mem_takeWhile_imp (p := (· = '/')) (List.mem_of_mem_take hc))
  have hfront : (p.takeWhile (· = '/')).take (rootSlashes p) =
      List.replicate (rootSlashes p) '/' :=
    List.eq_replicate_iff.mpr ⟨List.length_take_of_le hle, hall⟩
  refine ⟨(p.takeWhile (· = '/')).drop (rootSlashes p) ++ p.dropWhile (· = '/'), ?_⟩
  rw [← hfront, ← List.append_assoc, List.take_append_drop, List.takeWhile_append_dropWhile]

/-- **The normal form of a rooted path leaves characters out** and adds none. -/
theorem normalizeChars_sublist {p : List Char} (h : isRooted p = true) : normalizeChars p <+ p := by
  obtain ⟨rest, hrest⟩ := exists_eq_slashes_append p
  have hnames : components p <+ pieces rest := by
    rw [components_eq, hrest, pieces_slashes_append, worked_slashes_append]
    exact worked_sublist _
  have hglue : glue (components p) <+ rest := by
    rw [← glue_pieces rest]
    exact glue_sublist hnames
  have hsub := hglue.append_left (List.replicate (rootSlashes p) '/')
  rwa [← hrest, ← normalizeChars_of_isRooted h] at hsub

/-- So there is no character in the normal form that was not in the path; a NUL does not come about.
-/
theorem mem_of_mem_normalize {p : String} {c : Char} (h : isRooted p.toList = true)
    (hc : c ∈ (normalize p).toList) : c ∈ p.toList := by
  rw [normalize, String.toList_ofList] at hc
  exact (normalizeChars_sublist h).subset hc

/-- The normal form of a rooted path is no longer than the path. -/
theorem utf8ByteSize_normalize_le {p : String} (h : isRooted p.toList = true) :
    (normalize p).utf8ByteSize ≤ p.utf8ByteSize := by
  have hle := String.utf8Len_le_of_sublist (normalizeChars_sublist h)
  rwa [← String.utf8ByteSize_ofList, ← String.utf8ByteSize_ofList, String.ofList_toList] at hle

end Path

namespace Disk

variable {d : Disk} {place : Place} {path : String}

/-! ## Links that are taken back -/

/-- Whether names lead from the root to a symbolic link. -/
def isLinkAt (d : Disk) (names : List String) : Bool :=
  match d.walk false maxLinks [] names with
  | .ok (.at _ (.link _)) => true
  | _ => false

/-- **A path takes no link back** when, wherever it says to go up, the name that goes away by that
is not one of a symbolic link. -/
def TakesNoLinkBack (d : Disk) (path : String) : Prop :=
  ∀ i < (Path.pieces path.toList).length, (Path.pieces path.toList)[i]? = some ['.', '.'] →
    d.isLinkAt ((Path.worked ((Path.pieces path.toList).take i)).map .ofList) = false

instance (d : Disk) (path : String) : Decidable (d.TakesNoLinkBack path) :=
  inferInstanceAs (Decidable (∀ i < _, _ → _))

/-- Wherever a path goes up, what it takes back is no link. -/
theorem TakesNoLinkBack.before {front back : List (List Char)} (h : d.TakesNoLinkBack path)
    (hpath : Path.pieces path.toList = front ++ ['.', '.'] :: back) :
    d.isLinkAt ((Path.worked front).map .ofList) = false := by
  have hlink := h front.length
  rw [hpath, List.getElem?_append_right (Nat.le_refl _), Nat.sub_self, List.take_left] at hlink
  exact hlink (by simp) rfl

/-- The directory above a name that is no link is where the names before it lead. -/
theorem walks_dropLast {names : List (List Char)} {links : Nat} (hlinks : links ≤ maxLinks)
    (hnames : ∀ n ∈ names, Path.IsName n)
    (hlink : d.isLinkAt (names.map .ofList) = false)
    (h : Walks d true links [] (names.map .ofList) (.at place .directory)) :
    Walks d true links [] (names.dropLast.map .ofList) (.at place.dropLast .directory) := by
  rcases List.eq_nil_or_concat names with rfl | ⟨front, n, rfl⟩
  · cases h
    exact .nil
  · rw [List.concat_eq_append] at hnames hlink h ⊢
    rw [List.map_append, List.map_singleton] at hlink h
    obtain ⟨above, used, left, hsum, hfront, hlast⟩ :=
      h.split_links (Or.inl ⟨place, .directory, rfl⟩) (List.cons_ne_nil _ _)
    have hn : Path.IsName (String.ofList n).toList := by
      rw [String.toList_ofList]
      exact hnames n (List.mem_append_right _ (List.mem_singleton_self n))
    have hplace : place = above ++ [.ofList n] := by
      -- the last name is entered and not followed: a link there would be one that is taken back
      refine hlast.eq_of_enter hn.ne_texts fun target hnode => ?_
      have hstep := h.isStep hn.ne_texts
      have hwalk : Walks d false maxLinks [] (front.map .ofList ++ [.ofList n])
          (.at (above ++ [.ofList n]) (.link target)) := by
        refine (hfront.more_links (by omega)).append (List.cons_ne_nil _ _) fun _ => ?_
        exact .stop hstep hnode (fun h => by cases h) fun _ _ => rfl
      rw [isLinkAt, walk_of_walks hwalk] at hlink
      cases hlink
    rw [hplace, List.dropLast_concat, List.dropLast_concat]
    exact hfront.more_links (by omega)

/-- **What is left of a path leads where the path itself leads**, through no more links, unless the
path takes a link back. -/
theorem walks_worked {pieces : List (List Char)} {links : Nat} (hlinks : links ≤ maxLinks)
    (hfree : ∀ n ∈ pieces, '/' ∉ n)
    (hback : ∀ front back, pieces = front ++ ['.', '.'] :: back →
      d.isLinkAt ((Path.worked front).map .ofList) = false)
    (h : Walks d true links [] (pieces.map .ofList) (.at place .directory)) :
    Walks d true links [] ((Path.worked pieces).map .ofList) (.at place .directory) := by
  induction pieces using List.reverseRecOn generalizing links place with
  | nil => exact h
  | append_singleton front piece ih =>
    rw [List.map_append, List.map_singleton] at h
    obtain ⟨here, used, left, hsum, hfront, hlast⟩ :=
      h.split_links (Or.inl ⟨place, .directory, rfl⟩) (List.cons_ne_nil _ _)
    have hfreeFront : ∀ n ∈ front, '/' ∉ n := fun n hn => hfree n (List.mem_append_left _ hn)
    have hused : used ≤ maxLinks := by omega
    have hworked := ih hused hfreeFront
      (fun init rest hinit => hback init (rest ++ [piece]) (by rw [hinit]; simp)) hfront
    -- the last piece stays, goes up or goes down; only going up needs that no link is taken back
    by_cases hsilent : piece = [] ∨ piece = ['.']
    · obtain rfl : place = here := by
        refine hlast.eq_of_stay (hsilent.imp ?_ ?_) <;> rintro rfl <;> rfl
      rw [Path.worked_append_silent hsilent]
      exact hworked.more_links (by omega)
    by_cases hdots : piece = ['.', '.']
    · subst hdots
      obtain rfl : place = here.dropLast := hlast.eq_of_up
      rw [Path.worked_append_dots hfreeFront]
      exact (walks_dropLast (by omega) (Path.isName_of_mem_worked hfreeFront)
        (hback front [] rfl) hworked).more_links (by omega)
    · rw [not_or] at hsilent
      have hname : Path.IsName piece := ⟨hsilent.1, hsilent.2, hdots,
        hfree piece (List.mem_append_right _ (List.mem_singleton_self piece))⟩
      rw [Path.worked_append_name hname, List.map_append, List.map_singleton, ← hsum]
      exact hworked.append_links (List.cons_ne_nil _ _) hlast

/-- **The normal form of a path leads where the path leads**, unless the path takes a link back or
its normal form is too long. -/
theorem look_normalize (hrooted : Path.isRooted path.toList = true)
    (hback : d.TakesNoLinkBack path) (hnul : '\x00' ∉ path.toList)
    (h : Walks d true maxLinks [] (namesOf path) (.at place .directory))
    (hshort : (Path.normalize path).utf8ByteSize ≤ maxPath) :
    d.look (Path.normalize path) = .ok (place, .directory) := by
  obtain ⟨n, hpieces⟩ := Path.pieces_normalize hrooted
  have hnormal := (Path.isAbsoluteNormal_normalize hrooted).isRooted
  refine look_eq_ok_iff.mpr (find_eq_ok_iff.mpr ⟨⟨?_, ?_, hshort⟩, ?_⟩)
  · intro hmem
    exact hnul (Path.mem_of_mem_normalize hrooted hmem)
  · intro hnil
    rw [hnil] at hnormal
    cases hnormal
  · rw [start, if_pos hnormal, namesOf, hpieces, List.map_append, List.map_replicate]
    exact (walks_worked (Nat.le_refl _) (fun _ => Path.slash_free_of_mem_pieces)
      (fun _ _ => hback.before) h).slashes_append n

end Disk

end NamenodeShell
