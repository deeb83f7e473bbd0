import NamenodeShell.Proofs.Normal

/-!
# Paths as stacks of components

A path can be read as a list of orders to a stack, from slash to slash: nothing and a dot do
nothing, two dots take the top away if there is one, and any other component is put on the stack
(`push`). What is typed in a directory resolves to the stack that is left in the end
(`remoteChild_resolves`).

The code gets there by three detours: a slash between directory and name is left out where there is
one already, the fold keeps its pieces in reverse and has rules for paths without a root, and two
slashes in front stay two until the end. None of them shows from a rooted directory: the one fold
mirrors the other as long as no two dots are kept (`reverse_keep`), and none ever are.

The stack is also why a way can be gone step by step. What is behind a slash works on the stack that
what is in front of it has left (`stackOf_append_slash`), and a resolved path leaves its own names
(`stackOf_rooted`); so to resolve a path and go on from there is to resolve both at once
(`remoteChild_remoteChild`).
-/
set_option autoImplicit false

namespace NamenodeShell.Path

/-! ## The stack -/

/-- **A component worked off on a stack**, whose top is its last entry. -/
def push (stack : List (List Char)) (component : List Char) : List (List Char) :=
  if component = [] ∨ component = ['.'] then stack
  else if component = ['.', '.'] then stack.dropLast
  else stack ++ [component]

/-- **The stack that a text leaves**, its components worked off from left to right. -/
def stackOf (p : List Char) : List (List Char) :=
  (p.splitOn '/').foldl push []

/-- A name typed in a directory, with all that is in front of it: nothing if it begins with a slash,
the directory and a slash if it does not. -/
def inFull (cwd name : String) : List Char :=
  if name.toList.head? = some '/' then name.toList else cwd.toList ++ '/' :: name.toList

/-- What is behind a slash works on the stack that is left by what is in front of it. -/
theorem stackOf_append_slash (p q : List Char) :
    stackOf (p ++ '/' :: q) = (q.splitOn '/').foldl push (stackOf p) := by
  rw [stackOf, List.splitOn_append_cons_self, List.foldl_append]
  rfl

/-- A name is put on the stack, -/
theorem push_name {n : List Char} (h : IsName n) (stack : List (List Char)) :
    push stack n = stack ++ [n] := by
  rw [push, if_neg (not_or.mpr ⟨h.ne_nil, h.ne_dot⟩), if_neg h.ne_dots]

/-- and so are many, one after the other. -/
theorem foldl_push_names {names : List (List Char)} (h : ∀ n ∈ names, IsName n)
    (stack : List (List Char)) : names.foldl push stack = stack ++ names := by
  induction names generalizing stack with
  | nil => exact (List.append_nil stack).symm
  | cons n names ih =>
    rw [List.forall_mem_cons] at h
    rw [List.foldl_cons, push_name h.1, ih h.2, List.append_assoc, List.singleton_append]

/-- **A path of names leaves these names.** -/
theorem stackOf_rooted {names : List (List Char)} (h : ∀ n ∈ names, IsName n) :
    stackOf (rooted names) = names := by
  have hbehind : stackOf (rooted names) = ((glue names).splitOn '/').foldl push [] :=
    stackOf_append_slash [] (glue names)
  rw [hbehind]
  by_cases hnames : names = []
  · rw [hnames]
    rfl
  · rw [glue, List.splitOn_intercalate '/' (fun n hn => (h n hn).slash_free) hnames,
      foldl_push_names h, List.nil_append]

/-! ## What the code keeps -/

/-- **One step of the code is one of the stack**, the other way round, while no two dots are
kept. -/
theorem reverse_keep {kept : List (List Char)} (hkept : ∀ n ∈ kept, IsName n)
    (piece : List Char) : (keep true kept piece).reverse = push kept.reverse piece := by
  unfold keep push
  split
  next => rfl
  next =>
    by_cases hdots : piece = ['.', '.']
    · rw [if_neg (not_not.mpr hdots), if_pos hdots, List.dropLast_reverse]
      -- At the root there is nothing to take away, and the code keeps no dots there either.
      cases kept with
      | nil => rfl
      | cons top rest =>
        simp only [if_neg (hkept top List.mem_cons_self).ne_dots, List.tail_cons]
    · rw [if_pos hdots, if_neg hdots, List.reverse_cons]

/-- What the code keeps of many components is their stack, the other way round. -/
theorem reverse_foldl_keep {pieces kept : List (List Char)} (hpieces : ∀ n ∈ pieces, '/' ∉ n)
    (hkept : ∀ n ∈ kept, IsName n) :
    (pieces.foldl (keep true) kept).reverse = pieces.foldl push kept.reverse := by
  induction pieces generalizing kept with
  | nil => rfl
  | cons piece pieces ih =>
    rw [List.forall_mem_cons] at hpieces
    rw [List.foldl_cons, List.foldl_cons, ← reverse_keep hkept,
      ih hpieces.2 (isName_of_mem_keep hpieces.1 hkept)]

/-- **The components of a path are its stack.** -/
theorem components_eq_stackOf (p : List Char) : components p = stackOf p := by
  have hfold : ((pieces p).foldl (keep true) []).reverse = (pieces p).foldl push [] :=
    reverse_foldl_keep (fun _ => slash_free_of_mem_pieces) fun _ hn => nomatch hn
  rw [components, kept, hfold, pieces, Text.piecesBetween_eq_splitOn, stackOf]

/-- Only names are ever on a stack: dots and nothing are worked off. -/
theorem isName_of_mem_stackOf {p n : List Char} (h : n ∈ stackOf p) : IsName n :=
  isName_of_mem_components (components_eq_stackOf p ▸ h)

/-- A name with a slash in front does not depend on the directory, -/
theorem inFull_of_isRooted (cwd : String) {name : String} (h : isRooted name.toList = true) :
    inFull cwd name = name.toList :=
  if_pos (beq_iff_eq.mp h)

/-- and any other has the directory in front of it. -/
theorem inFull_of_not_isRooted (cwd : String) {name : String}
    (h : isRooted name.toList = false) : inFull cwd name = cwd.toList ++ '/' :: name.toList :=
  if_neg fun hhead => Bool.false_ne_true (h.symm.trans (beq_iff_eq.mpr hhead))

/-- A slash more or less between a directory and a name does not matter. -/
theorem stackOf_joinChars {cwd : String} (h : cwd.toList ≠ []) (name : String) :
    stackOf (joinChars cwd.toList name.toList) = stackOf (inFull cwd name) := by
  cases hname : isRooted name.toList with
  | true => rw [inFull_of_isRooted cwd hname, joinChars, if_pos hname]
  | false =>
    rw [inFull_of_not_isRooted cwd hname, ← components_eq_stackOf, ← components_eq_stackOf,
      components, components, kept_joinChars h hname, kept, kept, pieces_append_slash,
      List.foldl_append]

/-- **From a rooted directory a name leads to the names on its stack.** -/
theorem toList_remoteChild {cwd : String} (h : isRooted cwd.toList = true) (name : String) :
    (remoteChild cwd name).toList = rooted (stackOf (inFull cwd name)) := by
  rw [remoteChild, String.toList_ofList, remoteChildChars_of_isRooted h, components_eq_stackOf,
    stackOf_joinChars (ne_nil_of_isRooted h)]

/-! ## Clean paths -/

/-- **A clean path**: exactly one slash in front, behind it no component that is nothing or a dot
entry, and no slash at the end unless it is the root. -/
structure IsClean (p : String) : Prop where
  leading : ∃ rest, p.toList = '/' :: rest ∧ rest.head? ≠ some '/'
  components : ∀ rest, p.toList = '/' :: rest → rest ≠ [] →
    ∀ n ∈ rest.splitOn '/', n ≠ [] ∧ n ≠ ['.'] ∧ n ≠ ['.', '.']
  trailing : p ≠ "/" → p.toList.getLast? ≠ some '/'

/-- Clean paths are the normal ones. -/
theorem isClean_iff {p : String} : IsClean p ↔ IsNormal p := by
  constructor
  · rintro ⟨⟨rest, hp, -⟩, hcomponents, -⟩
    by_cases hrest : rest = []
    · exact ⟨[], fun _ hn => (nomatch hn), by rw [hp, hrest]; rfl⟩
    · refine ⟨rest.splitOn '/', fun n hn => ?_, ?_⟩
      · obtain ⟨hnil, hdot, hdots⟩ := hcomponents rest hp hrest n hn
        refine ⟨hnil, hdot, hdots, slash_free_of_mem_pieces (p := rest) ?_⟩
        rwa [pieces, Text.piecesBetween_eq_splitOn]
      · rw [hp, rooted, glue, List.intercalate_splitOn]
  · rintro ⟨names, hnames, hp⟩
    constructor
    case leading => exact ⟨glue names, hp, head?_glue_ne hnames⟩
    case components =>
      intro rest hrest hne n hn
      obtain rfl : glue names = rest := (List.cons.inj (hp.symm.trans hrest)).2
      have hsome : names ≠ [] := fun hnil => hne (hnil ▸ rfl)
      rw [glue, List.splitOn_intercalate '/' (fun m hm => (hnames m hm).slash_free) hsome] at hn
      exact ⟨(hnames n hn).ne_nil, (hnames n hn).ne_dot, (hnames n hn).ne_dots⟩
    case trailing =>
      intro hroot
      have hsome : names ≠ [] := by
        rintro rfl
        exact hroot (String.toList_injective hp)
      obtain ⟨front, c, hlast, hc⟩ := getLast?_rooted hsome hnames
      rw [hp, hlast, List.getLast?_concat]
      exact fun hslash => hc (Option.some.inj hslash)

/-- A dot does nothing to the stack of the directory. -/
theorem stackOf_inFull_dot (cwd : String) : stackOf (inFull cwd ".") = stackOf cwd.toList := by
  rw [inFull_of_not_isRooted cwd (by decide), stackOf_append_slash]
  rfl

/-- A bare name is put on the stack of the directory. -/
theorem stackOf_inFull_bare (cwd : String) {n : String} (h : isBare n = true) :
    stackOf (inFull cwd n) = stackOf (inFull cwd ".") ++ [n.toList] := by
  have hname := isBare_iff.mp h
  rw [stackOf_inFull_dot, inFull_of_not_isRooted cwd hname.not_isRooted, stackOf_append_slash,
    List.splitOn_eq_singleton hname.slash_free, List.foldl_cons, List.foldl_nil, push_name hname]

/-- **A dot leaves a clean path as it is.** -/
theorem remoteChild_dot {p : String} (h : IsNormal p) : remoteChild p "." = p := by
  apply String.toList_injective
  rw [toList_remoteChild h.isRooted, stackOf_inFull_dot]
  obtain ⟨names, hnames, hp⟩ := h
  rw [hp, stackOf_rooted hnames]

/-- **Names typed in a directory resolve component by component.** What they lead to is a slash and
their stack with a slash between each two; such a path is clean, and a dot leaves a clean path as it
is. A bare name is put on the stack of the directory, so the path of the directory is the parent of
its path, it is the last name of it, and another bare name has another path. -/
theorem remoteChild_resolves {cwd : String} (h : isRooted cwd.toList = true) :
    (∀ name, remoteChild cwd name =
      .ofList ('/' :: ['/'].intercalate (stackOf (inFull cwd name)))) ∧
      (∀ name, IsClean (remoteChild cwd name)) ∧
      (∀ p, IsClean p → remoteChild p "." = p) ∧
      (∀ n, isBare n = true →
        stackOf (inFull cwd n) = stackOf (inFull cwd ".") ++ [n.toList] ∧
          parent (remoteChild cwd n) = remoteChild cwd "." ∧ base (remoteChild cwd n) = n) ∧
      ∀ n m, isBare n = true → isBare m = true → remoteChild cwd n = remoteChild cwd m → n = m := by
  refine ⟨fun name => ?_, fun name => ?_, fun p hp => ?_, fun n hn => ?_, fun n m hn hm hsame => ?_⟩
  · exact String.toList_injective (by rw [toList_remoteChild h, String.toList_ofList]; rfl)
  · exact isClean_iff.mpr (isNormal_remoteChild h name)
  · exact remoteChild_dot (isClean_iff.mp hp)
  · obtain ⟨-, hbase, hparent⟩ := remoteChild_bare h hn
    exact ⟨stackOf_inFull_bare cwd hn, hparent, hbase⟩
  · rw [← (remoteChild_bare h hn).2.1, hsame, (remoteChild_bare h hm).2.1]

/-- Dots above the root, dots between slashes, and slashes at both ends. -/
theorem remoteChild_resolves_sample :
    remoteChild "//user/./alice/" "../../..//x/./y//" = "/x/y" := by
  rw [(remoteChild_resolves (by decide)).1]
  decide

/-! ## Step by step -/

/-- A longer path is typed in the directory where its beginning is. -/
theorem inFull_append (cwd : String) {a : String} (ha : a ≠ "") (b : String) :
    inFull cwd (a ++ "/" ++ b) = inFull cwd a ++ '/' :: b.toList := by
  have hlist : (a ++ "/" ++ b).toList = a.toList ++ '/' :: b.toList := by
    simp only [String.toList_append, List.append_assoc]
    rfl
  have hne : a.toList ≠ [] := fun hnil => ha (String.toList_injective hnil)
  -- Whether the whole begins with a slash is settled by its first part, which is not empty.
  have hhead : (a ++ "/" ++ b).toList.head? = a.toList.head? := by
    obtain ⟨c, cs, hcs⟩ := List.exists_cons_of_ne_nil hne
    rw [hlist, hcs]
    rfl
  unfold inFull
  rw [hhead]
  split
  next => exact hlist
  next => rw [hlist, List.append_assoc, List.cons_append]

/-- **To resolve a path and go on from there is to resolve both at once.** -/
theorem remoteChild_remoteChild {cwd : String} (h : isRooted cwd.toList = true) {a b : String}
    (ha : a ≠ "") (hb : isRooted b.toList = false) :
    remoteChild (remoteChild cwd a) b = remoteChild cwd (a ++ "/" ++ b) := by
  have hthere : isRooted (remoteChild cwd a).toList = true := (isNormal_remoteChild h a).isRooted
  apply String.toList_injective
  rw [toList_remoteChild hthere, toList_remoteChild h, inFull_of_not_isRooted _ hb,
    stackOf_append_slash, toList_remoteChild h, stackOf_rooted fun _ => isName_of_mem_stackOf,
    inFull_append cwd ha, stackOf_append_slash]

/-- **Two dots take a bare name back.** -/
theorem remoteChild_bare_dots {cwd n : String} (h : isRooted cwd.toList = true)
    (hn : isBare n = true) : remoteChild (remoteChild cwd n) ".." = remoteChild cwd "." := by
  have hnonempty : n ≠ "" := (isBare_iff.mp hn).ne_texts.1
  have hdots : ("..".toList).splitOn '/' = [['.', '.']] := rfl
  apply String.toList_injective
  rw [remoteChild_remoteChild h hnonempty (by decide), toList_remoteChild h, toList_remoteChild h,
    inFull_append cwd hnonempty, stackOf_append_slash, stackOf_inFull_bare cwd hn, hdots,
    List.foldl_cons, List.foldl_nil, push, if_neg (by decide), if_pos rfl, List.dropLast_concat]

/-- **A way gone step by step leads to where it leads at once.** -/
theorem foldl_remoteChild {cwd : String} (h : isRooted cwd.toList = true) {a : String}
    (ha : a ≠ "") {targets : List String}
    (htargets : ∀ b ∈ targets, isRooted b.toList = false) :
    targets.foldl remoteChild (remoteChild cwd a) =
      remoteChild cwd ("/".intercalate (a :: targets)) := by
  induction targets generalizing a with
  | nil => rfl
  | cons b targets ih =>
    rw [List.forall_mem_cons] at htargets
    -- The first two steps are one step to the path of both, so that there is one target less.
    have hlonger : a ++ "/" ++ b ≠ "" := by simp
    have hglued : "/".intercalate ((a ++ "/" ++ b) :: targets) =
        "/".intercalate (a :: b :: targets) := by
      cases targets with
      | nil => rfl
      | cons c targets => simp only [String.intercalate_cons_cons, String.append_assoc]
    rw [List.foldl_cons, remoteChild_remoteChild h ha htargets.1, ih hlonger htargets.2, hglued]

end NamenodeShell.Path
