import NamenodeShell.Proofs.Disk.Child

/-!
# Files on vacant paths

A file that is put on a vacant path is found there with its content, whatever the path is like
(`Vacant.look_set`). The walk that found nothing goes the same way on the new disk and finds the
file at its end (`Walks.fill`).

That takes a path with no slash at its end. A path that ends in a slash is vacant for nothing but a
directory; where a walk finds nothing in front of a slash, the names it goes over end so themselves
(`Walks.isSlashed`), even if it has passed through links on the way.
-/
set_option autoImplicit false
namespace NamenodeShell.Disk

variable {d : Disk} {through : Bool} {links : Nat} {here place parent : Place}
  {names : List String} {name path : String} {found : Found}

/-- **Slashes follow the last name** of some names, and that is no dot entry. -/
def IsSlashed (names : List String) : Prop :=
  ∃ front last k, names = front ++ last :: List.replicate (k + 1) "" ∧
    last ≠ "" ∧ last ≠ "." ∧ last ≠ ".."

theorem IsSlashed.cons (h : IsSlashed names) (name : String) : IsSlashed (name :: names) := by
  obtain ⟨front, last, k, rfl, hlast⟩ := h
  exact ⟨name :: front, last, k, rfl, hlast⟩

/-- A name with nothing but slashes behind it. -/
theorem isSlashed_of_blanks {rest : List String} (hname : IsStep name) (hne : rest ≠ [])
    (hrest : ∀ n ∈ rest, n = "") : IsSlashed (name :: rest) := by
  obtain ⟨k, hk⟩ := Nat.exists_eq_succ_of_ne_zero (List.length_pos_iff.mpr hne).ne'
  refine ⟨[], name, k, ?_, hname.ne_nil, hname.ne_dot, hname.ne_dots⟩
  exact congrArg (name :: ·) (List.eq_replicate_iff.mpr ⟨hk, hrest⟩)

/-- Slashes at the end of names that come behind a link follow a name there, or the link. -/
theorem IsSlashed.of_append {target rest : List String} (h : IsSlashed (target ++ rest))
    (hname : IsStep name) (hne : rest ≠ []) : IsSlashed (name :: rest) := by
  obtain ⟨front, last, k, hsplit, hlast⟩ := h
  rcases List.append_eq_append_iff.mp hsplit with ⟨more, -, hrest⟩ | ⟨more, -, hrest⟩
  · exact IsSlashed.cons ⟨more, last, k, hrest, hlast⟩ name
  · cases more with
    | nil => exact IsSlashed.cons ⟨[], last, k, hrest.symm, hlast⟩ name
    | cons c more =>
      refine isSlashed_of_blanks hname hne fun n hn => ?_
      have hblanks : List.replicate (k + 1) "" = more ++ rest := (List.cons.inj hrest).2
      exact List.eq_of_mem_replicate (hblanks ▸ List.mem_append_right more hn)

/-- **A walk that finds nothing in front of slashes** is one over names that end in slashes. -/
theorem Walks.isSlashed (h : Walks d false links here names (.absent parent name true)) :
    IsSlashed names := by
  generalize hend : Found.absent parent name true = last at h
  induction h with
  | nil => cases hend
  | stay _ _ ih => exact (ih hend).cons _
  | up _ ih => exact (ih hend).cons _
  | enter _ _ _ ih => exact (ih hend).cons _
  | follow hname _ hrest _ ih =>
    exact (ih hend).of_append hname (hrest.resolve_right Bool.false_ne_true)
  | stop => cases hend
  | @absent links here name rest hname _ hrest =>
    obtain ⟨-, -, hslash⟩ := Found.absent.inj hend
    refine isSlashed_of_blanks hname ?_ fun n hn => ?_
    · rintro rfl
      cases hslash
    · exact beq_iff_eq.mp (List.all_eq_true.mp hrest n hn)

/-- Only a directory can have a path that ends so. -/
theorem aboveSlashed?_of_isSlashed (h : IsSlashed (namesOf path)) : aboveSlashed? path ≠ none := by
  obtain ⟨front, last, k, hnames, hne, hdot, hdots⟩ := h
  have hreverse : (namesOf path).reverse =
      "" :: (List.replicate k "" ++ last :: front.reverse) := by
    rw [hnames, List.reverse_append, List.reverse_cons, List.reverse_replicate,
      List.replicate_succ, List.append_assoc]
    rfl
  have hdrop : (List.replicate k "" ++ last :: front.reverse).dropWhile (· = "") =
      last :: front.reverse := by
    rw [List.dropWhile_append_of_pos fun n hn => decide_eq_true (List.eq_of_mem_replicate hn),
      List.dropWhile_cons_of_neg (by simpa using hne)]
  unfold aboveSlashed?
  simp only [hreverse, hdrop, hdot, hdots, or_self, if_false]
  exact fun h => nomatch h

/-- Where a walk finds nothing there is nothing. -/
theorem Walks.nodeAt?_of_absent {slash : Bool}
    (h : Walks d through links here names (.absent parent name slash)) :
    d.nodeAt? (parent ++ [name]) = none := by
  generalize hend : Found.absent parent name slash = last at h
  induction h with
  | nil => cases hend
  | stay _ _ ih => exact ih hend
  | up _ ih => exact ih hend
  | enter _ _ _ ih => exact ih hend
  | follow _ _ _ _ ih => exact ih hend
  | stop => cases hend
  | absent _ hnode _ =>
    cases hend
    exact hnode

/-- **What has not been found is found on a disk that has it**, and all else that was on the way. -/
theorem Walks.fill {d' : Disk} {content : Bytes}
    (hd : ∀ place node, d.nodeAt? place = some node → d'.nodeAt? place = some node)
    (hfile : d'.nodeAt? (parent ++ [name]) = some (.file content))
    (h : Walks d through links here names (.absent parent name false)) :
    Walks d' true links here names (.at (parent ++ [name]) (.file content)) := by
  generalize hend : Found.absent parent name false = last at h
  induction h with
  | nil => cases hend
  | stay hname _ ih => exact .stay hname (ih hend)
  | up _ ih => exact .up (ih hend)
  | enter hname hnode _ ih => exact .enter hname (hd _ _ hnode) (ih hend)
  | follow hname hnode _ _ ih => exact .follow hname (hd _ _ hnode) (Or.inr rfl) (ih hend)
  | stop => cases hend
  | @absent links here name rest hname _ _ =>
    obtain ⟨rfl, rfl, hslash⟩ := Found.absent.inj hend
    have hrest : rest = [] := List.isEmpty_iff.mp (by simpa using hslash.symm)
    rw [hrest]
    exact .stop hname hfile (fun h => nomatch h) fun target h => nomatch h

/-- **A file put on a vacant path is found there**, with its content. -/
theorem Vacant.look_set (h : d.Vacant path place) (content : Bytes) :
    (d.set place (.file content)).look path = .ok (place, .file content) := by
  obtain ⟨habove, parent, name, slash, hfind, rfl⟩ := h
  obtain ⟨htaken, hwalk⟩ := find_eq_ok_iff.mp hfind
  cases slash with
  | true => exact absurd habove (aboveSlashed?_of_isSlashed hwalk.isSlashed)
  | false =>
    have hnone := hwalk.nodeAt?_of_absent
    have hne : parent ++ [name] ≠ [] := List.append_ne_nil_of_right_ne_nil _ (List.cons_ne_nil _ _)
    refine look_eq_ok_iff.mpr (find_eq_ok_iff.mpr ⟨htaken, ?_⟩)
    rw [cwd_set]
    refine hwalk.fill (fun other node hother => ?_) (nodeAt?_set_self d hne _)
    rw [nodeAt?_set_of_ne d _ (.file content), hother]
    rintro rfl
    cases hnone.symm.trans hother

end NamenodeShell.Disk
