import NamenodeShell.Disk.Basic
import NamenodeShell.Proofs.Normal

/-!
# Walks

The rules of a walk through the disk, as a relation: `Walks` has one rule for each thing that can
happen at a name, and `walk_eq_ok_iff` says that a walk ends somewhere just when the rules say so.
What is proved of walks is proved over the rules. They compose at directories
(`Walks.append_links`) and come apart there (`Walks.split_links`), where the links that are passed
add up and are shared out, and what has been found is found on every disk that has the same things
and more (`Walks.mono`).
-/
set_option autoImplicit false

namespace NamenodeShell.Disk

/-- A name by which a walk takes a step down: neither nothing nor a dot entry, and not too long. -/
structure IsStep (name : String) : Prop where
  ne_nil : name ≠ ""
  ne_dot : name ≠ "."
  ne_dots : name ≠ ".."
  short : name.utf8ByteSize ≤ maxName

/-- **The rules of a walk** that may pass so many links: where it ends when it goes from a directory
over some names. -/
inductive Walks (d : Disk) (through : Bool) : Nat → Place → List String → Found → Prop
  | nil {links : Nat} {here : Place} : Walks d through links here [] (.at here .directory)
  | stay {links : Nat} {here : Place} {name : String} {rest : List String} {found : Found}
      (hname : name = "" ∨ name = ".") (h : Walks d through links here rest found) :
      Walks d through links here (name :: rest) found
  | up {links : Nat} {here : Place} {rest : List String} {found : Found}
      (h : Walks d through links here.dropLast rest found) :
      Walks d through links here (".." :: rest) found
  | enter {links : Nat} {here : Place} {name : String} {rest : List String} {found : Found}
      (hname : IsStep name) (hnode : d.nodeAt? (here ++ [name]) = some .directory)
      (h : Walks d through links (here ++ [name]) rest found) :
      Walks d through links here (name :: rest) found
  | follow {links : Nat} {here : Place} {name target : String} {rest : List String} {found : Found}
      (hname : IsStep name) (hnode : d.nodeAt? (here ++ [name]) = some (.link target))
      (hrest : rest ≠ [] ∨ through = true)
      (h : Walks d through links (start target here) (namesOf target ++ rest) found) :
      Walks d through (links + 1) here (name :: rest) found
  | stop {links : Nat} {here : Place} {name : String} {node : Node} (hname : IsStep name)
      (hnode : d.nodeAt? (here ++ [name]) = some node) (hdirectory : node ≠ .directory)
      (hlink : ∀ target, node = .link target → through = false) :
      Walks d through links here [name] (.at (here ++ [name]) node)
  | absent {links : Nat} {here : Place} {name : String} {rest : List String}
      (hname : IsStep name) (hnode : d.nodeAt? (here ++ [name]) = none)
      (hrest : rest.all (· == "") = true) :
      Walks d through links here (name :: rest) (.absent here name !rest.isEmpty)

variable {d : Disk} {through : Bool} {links : Nat} {here place : Place} {names more : List String}
  {found : Found}

/-! ## The rules and the walk -/

/-- How a walk goes on from a link. -/
def onward (d : Disk) (through : Bool) :
    Nat → Place → String → List String → Except Cause Found
  | 0, _, _, _ => .error .tooManyLinks
  | links + 1, here, target, rest =>
    d.walk through links (start target here) (namesOf target ++ rest)

/-- A walk is a pass over the names in which a link is gone on from with one link less, so that what
is said of a pass holds at every number of links. -/
theorem walk_eq (d : Disk) (through : Bool) (links : Nat) :
    d.walk through links = d.walkWith through (d.onward through links) := by
  cases links <;> rfl

section

variable {next : Place → String → List String → Except Cause Found} {name : String}
  {rest : List String}

/-- An empty name, as between two slashes, and a dot lead nowhere. -/
theorem walkWith_stay (h : name = "" ∨ name = ".") :
    d.walkWith through next here (name :: rest) = d.walkWith through next here rest := by
  rw [walkWith, if_pos h]

/-- Two dots lead to the directory above, and from the root to the root. -/
theorem walkWith_up :
    d.walkWith through next here (".." :: rest) = d.walkWith through next here.dropLast rest := by
  rw [walkWith, if_neg (by decide), if_pos rfl]

/-- **A step down**, by what is at the name: nothing, a directory, a link, or another node, which
has to be the last on the path. -/
theorem walkWith_step (h : IsStep name) :
    d.walkWith through next here (name :: rest) = match d.nodeAt? (here ++ [name]) with
      | none =>
        if rest.all (· == "") then .ok (.absent here name !rest.isEmpty) else .error .notFound
      | some .directory => d.walkWith through next (here ++ [name]) rest
      | some (.link target) =>
        if rest.isEmpty && !through then .ok (.at (here ++ [name]) (.link target))
        else next here target rest
      | some node =>
        if rest.isEmpty then .ok (.at (here ++ [name]) node) else .error .notDirectory := by
  rw [walkWith, if_neg (not_or.mpr ⟨h.ne_nil, h.ne_dot⟩), if_neg h.ne_dots]
  refine (if_neg (Nat.not_lt.mpr h.short)).trans ?_
  cases d.nodeAt? (here ++ [name]) with
  | none => rfl
  | some node => cases node <;> rfl

end

/-- A walk that ends somewhere follows the rules, if the walks onward from links do. -/
theorem walks_of_walkWith
    (ih : ∀ links', links = links' + 1 → ∀ here names found,
      d.walk through links' here names = .ok found → Walks d through links' here names found)
    (h : d.walkWith through (d.onward through links) here names = .ok found) :
    Walks d through links here names found := by
  -- On the names, for one number of links: the walks behind a link are those of `ih`.
  induction names generalizing here with
  | nil =>
    cases h
    exact .nil
  | cons name rest ihrest =>
    by_cases hstay : name = "" ∨ name = "."
    · rw [walkWith_stay hstay] at h
      exact .stay hstay (ihrest h)
    by_cases hup : name = ".."
    · subst hup
      rw [walkWith_up] at h
      exact .up (ihrest h)
    by_cases hlong : maxName < name.utf8ByteSize
    · rw [walkWith, if_neg hstay, if_neg hup, if_pos hlong] at h
      cases h
    rw [not_or] at hstay
    have hname : IsStep name := ⟨hstay.1, hstay.2, hup, Nat.not_lt.mp hlong⟩
    rw [walkWith_step hname] at h
    split at h
    next hnode =>
      split at h
      next hrest =>
        cases h
        exact .absent hname hnode hrest
      next => cases h
    next hnode => exact .enter hname hnode (ihrest h)
    next target hnode =>
      split at h
      -- The path ends in a link that is not to be passed: the link itself is found.
      next hend =>
        rw [Bool.and_eq_true, List.isEmpty_iff, Bool.not_eq_true'] at hend
        cases h
        rw [hend.1]
        exact .stop hname hnode (fun hn => by cases hn) fun _ _ => hend.2
      next hend =>
        cases links with
        | zero => cases h
        | succ links =>
          refine .follow hname hnode ?_ (ih links rfl _ _ _ h)
          rw [Bool.and_eq_true, List.isEmpty_iff, Bool.not_eq_true', not_and_or,
            Bool.not_eq_false] at hend
          exact hend
    next node hdirectory hlink hnode =>
      split at h
      next hend =>
        cases h
        rw [List.isEmpty_iff.mp hend]
        exact .stop hname hnode (fun hn => hdirectory hn)
          fun target hn => absurd hn (hlink target)
      next => cases h

/-- What a walk finds, the rules say, by induction on the links that are left. -/
theorem walks_of_walk (links : Nat) : ∀ here names found,
    d.walk through links here names = .ok found → Walks d through links here names found := by
  induction links with
  | zero =>
    intro here names found h
    rw [walk_eq] at h
    exact walks_of_walkWith (fun _ hzero => absurd hzero.symm (Nat.succ_ne_zero _)) h
  | succ links ih =>
    intro here names found h
    rw [walk_eq] at h
    refine walks_of_walkWith ?_ h
    intro links' hlinks
    rw [← Nat.succ.inj hlinks]
    exact ih

/-- What the rules say, a walk finds: the rules are the branches of the walk. -/
theorem walk_of_walks (h : Walks d through links here names found) :
    d.walk through links here names = .ok found := by
  rw [walk_eq]
  induction h with
  | nil => rfl
  | stay hname _ ih => rw [walkWith_stay hname, ih]
  | up _ ih => rw [walkWith_up, ih]
  | enter hname hnode _ ih => rw [walkWith_step hname, hnode]; exact ih
  | follow hname hnode hrest _ ih =>
    rw [walkWith_step hname, hnode]
    simp only
    rw [if_neg, onward, walk_eq, ih]
    rw [Bool.and_eq_true, List.isEmpty_iff, Bool.not_eq_true', not_and_or, Bool.not_eq_false]
    exact hrest
  | @stop links here name node hname hnode hdirectory hlink =>
    rw [walkWith_step hname, hnode]
    cases node with
    | directory => exact absurd rfl hdirectory
    | link target => rw [hlink target rfl]; rfl
    | file content => rfl
    | device => rfl
  | absent hname hnode hrest => rw [walkWith_step hname, hnode]; exact if_pos hrest

/-- **A walk ends somewhere just when the rules say so.** -/
theorem walk_eq_ok_iff :
    d.walk through links here names = .ok found ↔ Walks d through links here names found :=
  ⟨walks_of_walk links here names found, walk_of_walks⟩

/-! ## Walks put together and taken apart -/

namespace Walks

/-- More links to pass do no harm. -/
theorem more_links {links' : Nat} (h : Walks d through links here names found)
    (hlinks : links ≤ links') : Walks d through links' here names found := by
  induction h generalizing links' with
  | nil => exact .nil
  | stay hname _ ih => exact .stay hname (ih hlinks)
  | up _ ih => exact .up (ih hlinks)
  | enter hname hnode _ ih => exact .enter hname hnode (ih hlinks)
  | follow hname hnode hrest _ ih =>
    obtain ⟨links', rfl⟩ := Nat.exists_eq_succ_of_ne_zero (Nat.ne_of_gt (Nat.zero_lt_of_lt hlinks))
    exact .follow hname hnode hrest (ih (Nat.le_of_succ_le_succ hlinks))
  | stop hname hnode hdirectory hlink => exact .stop hname hnode hdirectory hlink
  | absent hname hnode hrest => exact .absent hname hnode hrest

/-- **Walks compose at directories**, and the links they pass add up. -/
theorem append_links {used left : Nat} (h : Walks d true used here names (.at place .directory))
    (hne : more ≠ []) (hmore : Walks d through left place more found) :
    Walks d through (used + left) here (names ++ more) found := by
  -- The first walk has to end at a directory, which an induction over it would forget.
  generalize hend : Found.at place .directory = last at h
  induction h with
  | nil => cases hend; exact hmore.more_links (Nat.le_add_left _ _)
  | stay hname _ ih => exact .stay hname (ih hend)
  | up _ ih => exact .up (ih hend)
  | enter hname hnode _ ih => exact .enter hname hnode (ih hend)
  | follow hname hnode _ _ ih =>
    have hrest := ih hend
    rw [List.append_assoc] at hrest
    rw [Nat.add_right_comm]
    exact .follow hname hnode (Or.inl (List.append_ne_nil_of_right_ne_nil _ hne)) hrest
  | stop _ _ hdirectory _ => cases hend; exact absurd rfl hdirectory
  | absent _ _ _ => cases hend

/-- Walks compose at directories, however many links are left there. -/
theorem append (h : Walks d true links here names (.at place .directory)) (hne : more ≠ [])
    (hmore : ∀ links, Walks d through links place more found) :
    Walks d through links here (names ++ more) found :=
  h.append_links hne (hmore 0)

/-- **Walks come apart at directories**, and so do the links they pass, unless they find nothing for
good at the last name in front of slashes. -/
theorem split_links (h : Walks d through links here (names ++ more) found)
    (hmore : (∃ last node, found = .at last node) ∨ more.all (· == "") = false) (hne : more ≠ []) :
    ∃ place used left, used + left = links ∧ Walks d true used here names (.at place .directory) ∧
      Walks d through left place more found := by
  generalize hall : names ++ more = all at h
  induction h generalizing names with
  -- In each case the names in front are used up, and all of the walk is left, or the first of them
  -- is passed and the walk behind it comes apart.
  | nil => exact absurd (List.append_eq_nil_iff.mp hall).2 hne
  | @stay links here name rest found hname h ih =>
    rcases List.append_eq_cons_iff.mp hall with ⟨rfl, rfl⟩ | ⟨names, rfl, rfl⟩
    · exact ⟨here, 0, links, Nat.zero_add _, .nil, .stay hname h⟩
    · obtain ⟨place, used, left, hlinks, hfront, hback⟩ := ih hmore rfl
      exact ⟨place, used, left, hlinks, .stay hname hfront, hback⟩
  | @up links here rest found h ih =>
    rcases List.append_eq_cons_iff.mp hall with ⟨rfl, rfl⟩ | ⟨names, rfl, rfl⟩
    · exact ⟨here, 0, links, Nat.zero_add _, .nil, .up h⟩
    · obtain ⟨place, used, left, hlinks, hfront, hback⟩ := ih hmore rfl
      exact ⟨place, used, left, hlinks, .up hfront, hback⟩
  | @enter links here name rest found hname hnode h ih =>
    rcases List.append_eq_cons_iff.mp hall with ⟨rfl, rfl⟩ | ⟨names, rfl, rfl⟩
    · exact ⟨here, 0, links, Nat.zero_add _, .nil, .enter hname hnode h⟩
    · obtain ⟨place, used, left, hlinks, hfront, hback⟩ := ih hmore rfl
      exact ⟨place, used, left, hlinks, .enter hname hnode hfront, hback⟩
  | @follow links here name target rest found hname hnode hrest h ih =>
    rcases List.append_eq_cons_iff.mp hall with ⟨rfl, rfl⟩ | ⟨names, rfl, rfl⟩
    · exact ⟨here, 0, links + 1, Nat.zero_add _, .nil, .follow hname hnode hrest h⟩
    · obtain ⟨place, used, left, hlinks, hfront, hback⟩ := ih hmore (List.append_assoc _ _ _)
      exact ⟨place, used + 1, left, by rw [Nat.add_right_comm, hlinks],
        .follow hname hnode (Or.inr rfl) hfront, hback⟩
  | @stop links here name node hname hnode hdirectory hlink =>
    rcases List.append_eq_cons_iff.mp hall with ⟨rfl, rfl⟩ | ⟨names, rfl, hnil⟩
    · exact ⟨here, 0, links, Nat.zero_add _, .nil, .stop hname hnode hdirectory hlink⟩
    · exact absurd (List.append_eq_nil_iff.mp hnil.symm).2 hne
  | @absent links here name rest hname hnode hrest =>
    rcases List.append_eq_cons_iff.mp hall with ⟨rfl, rfl⟩ | ⟨names, rfl, rfl⟩
    · exact ⟨here, 0, links, Nat.zero_add _, .nil, .absent hname hnode hrest⟩
    · rw [List.all_append, Bool.and_eq_true] at hrest
      rcases hmore with ⟨last, node, hfound⟩ | hmore
      · cases hfound
      · rw [hrest.2] at hmore
        cases hmore

/-- The front of a walk that comes apart passes no more links than the whole. -/
theorem split (h : Walks d through links here (names ++ more) found)
    (hmore : (∃ last node, found = .at last node) ∨ more.all (· == "") = false) (hne : more ≠ []) :
    ∃ place links', Walks d true links here names (.at place .directory) ∧
      Walks d through links' place more found := by
  obtain ⟨place, used, left, hlinks, hfront, hback⟩ := h.split_links hmore hne
  exact ⟨place, left, hfront.more_links (Nat.le.intro hlinks), hback⟩

/-- A walk that ends at anything but a directory ends at what is there. -/
theorem nodeAt? {node : Node} (h : Walks d through links here names (.at place node))
    (hnode : node ≠ .directory) : d.nodeAt? place = some node := by
  generalize hend : Found.at place node = last at h
  induction h with
  | nil => cases hend; exact absurd rfl hnode
  | stay _ _ ih => exact ih hend
  | up _ ih => exact ih hend
  | enter _ _ _ ih => exact ih hend
  | follow _ _ _ _ ih => exact ih hend
  | stop _ hat _ _ => cases hend; exact hat
  | absent _ _ _ => cases hend

/-- **What has been found is found on every disk that has the same things and more.** -/
theorem mono {d' : Disk} {node : Node}
    (hd : ∀ place node, d.nodeAt? place = some node → d'.nodeAt? place = some node)
    (h : Walks d through links here names (.at place node)) :
    Walks d' through links here names (.at place node) := by
  generalize hend : Found.at place node = last at h
  induction h with
  | nil => exact .nil
  | stay hname _ ih => exact .stay hname (ih hend)
  | up _ ih => exact .up (ih hend)
  | enter hname hnode _ ih => exact .enter hname (hd _ _ hnode) (ih hend)
  | follow hname hnode hrest _ ih => exact .follow hname (hd _ _ hnode) hrest (ih hend)
  | stop hname hnode hdirectory hlink => exact .stop hname (hd _ _ hnode) hdirectory hlink
  | absent _ _ _ => cases hend

/-- A name that stays leads nowhere else. -/
theorem eq_of_stay {name : String} {node : Node} (hname : name = "" ∨ name = ".")
    (h : Walks d through links here [name] (.at place node)) : place = here := by
  have hwalk := walk_of_walks h
  rw [walk_eq, walkWith_stay hname] at hwalk
  cases hwalk
  rfl

/-- A slash leads nowhere else. -/
theorem eq_of_slash {node : Node} (h : Walks d through links here [""] (.at place node)) :
    place = here :=
  h.eq_of_stay (Or.inl rfl)

/-- Two dots lead to the directory above. -/
theorem eq_of_up {node : Node} (h : Walks d through links here [".."] (.at place node)) :
    place = here.dropLast := by
  have hwalk := walk_of_walks h
  rw [walk_eq, walkWith_up] at hwalk
  cases hwalk
  rfl

/-- A name that is no link leads to the directory of that name. -/
theorem eq_of_enter {name : String} (hname : name ≠ "" ∧ name ≠ "." ∧ name ≠ "..")
    (hlink : ∀ target, d.nodeAt? (here ++ [name]) ≠ some (.link target))
    (h : Walks d through links here [name] (.at place .directory)) : place = here ++ [name] := by
  cases h with
  | stay hblank _ => exact (hblank.elim hname.1 hname.2.1).elim
  | up _ => exact absurd rfl hname.2.2
  | enter _ _ h => cases h; rfl
  | follow _ hnode _ _ => exact absurd hnode (hlink _)
  | stop _ _ hdirectory _ => exact absurd rfl hdirectory

/-- Slashes in front of a walk change nothing. -/
theorem slashes_append (h : Walks d through links here names found) (n : Nat) :
    Walks d through links here (List.replicate n "" ++ names) found := by
  induction n with
  | zero => exact h
  | succ n ih => exact .stay (Or.inl rfl) ih

/-- A walk in which a step down comes last has a name that is not too long there. -/
theorem isStep {name : String} (h : Walks d through links here (names ++ [name]) found)
    (hname : name ≠ "" ∧ name ≠ "." ∧ name ≠ "..") : IsStep name := by
  have hblank : List.all [name] (· == "") = false := by
    simpa using hname.1
  obtain ⟨place, links', -, hlast⟩ := h.split (Or.inr hblank) (List.cons_ne_nil _ _)
  cases hlast with
  | stay hblank _ => exact (hblank.elim hname.1 hname.2.1).elim
  | up _ => exact absurd rfl hname.2.2
  | enter hstep _ _ => exact hstep
  | follow hstep _ _ _ => exact hstep
  | stop hstep _ _ _ => exact hstep
  | absent hstep _ _ => exact hstep

end Walks

end NamenodeShell.Disk
