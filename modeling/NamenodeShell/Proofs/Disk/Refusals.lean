import NamenodeShell.Disk.Basic

/-!
# Paths that can be put to the disk

A path with the character that ends a path on its way to the disk is refused before the disk is
looked at, and this refusal is of a kind of its own. No other path is refused so: neither a walk nor
what is done at the end of one comes to that refusal (`findNames_ne_nul`), and the paths above a
path without the character are without it too. So a directory that is ensured with all above it, and
a file that is opened for adding to it, are refused in other ways or not at all
(`ensureDirectories_ne_nul`, `openForAppend_ne_nul`).
-/
set_option autoImplicit false

namespace NamenodeShell

namespace Path

/-- What is left of a text that is cut at its end has no characters of its own. -/
theorem subset_dropWhile_reverse (p : Char → Bool) (cs : List Char) :
    (cs.reverse.dropWhile p).reverse ⊆ cs := by
  intro c hc
  rw [List.mem_reverse] at hc
  exact List.mem_reverse.mp ((List.dropWhile_sublist p).subset hc)

/-- The path above has no characters of its own. -/
theorem parentChars_subset (p : List Char) : parentChars p ⊆ p := by
  unfold parentChars
  simp only
  split
  next => exact subset_dropWhile_reverse _ p
  next => exact List.Subset.trans (subset_dropWhile_reverse _ _) (subset_dropWhile_reverse _ p)

/-- A character that is not in a path is not in the path above it. -/
theorem not_mem_parent {c : Char} {p : String} (h : c ∉ p.toList) : c ∉ (parent p).toList := by
  rw [parent, String.toList_ofList]
  exact fun hc => h (parentChars_subset p.toList hc)

end Path

namespace Disk

variable {d : Disk} {path : String}

/-! ## Walks -/

/-- A pass over names is refused for what it meets on the disk, as long as what follows links is. -/
theorem walkWith_ne_nul {through : Bool}
    {onward : Place → String → List String → Except Cause Found}
    (honward : ∀ here target rest, onward here target rest ≠ .error .nul)
    (here : Place) (names : List String) : d.walkWith through onward here names ≠ .error .nul := by
  fun_induction walkWith d through onward here names with
  | case1 => nofun
  | case2 here name rest h ih => exact ih
  | case3 here rest h ih => exact ih
  | case4 => nofun
  | case5 => nofun
  | case6 => nofun
  | case7 here name rest _ _ _ _ ih => exact ih
  | case8 => nofun
  -- The one way out of the pass is a link that is followed.
  | case9 => exact honward _ _ _
  | case10 => nofun
  | case11 => nofun

/-- A walk is refused for what it meets on the disk, however many links it may pass. -/
theorem walk_ne_nul (through : Bool) (links : Nat) (here : Place) (names : List String) :
    d.walk through links here names ≠ .error .nul := by
  induction links generalizing here names with
  | zero =>
    have hmany : ∀ (_ : Place) (_ : String) (_ : List String),
        (.error .tooManyLinks : Except Cause Found) ≠ .error .nul := fun _ _ _ => nofun
    exact walkWith_ne_nul hmany here names
  | succ links ih => exact walkWith_ne_nul (fun _ _ _ => ih _ _) here names

/-- **Without the character no path is refused for it.** It is looked for once, in front of the
walk. -/
theorem findNames_ne_nul (hpath : '\x00' ∉ path.toList) (through : Bool) (names : List String) :
    d.findNames through path names ≠ .error .nul := by
  unfold findNames
  rw [if_neg (by simpa using hpath)]
  split
  next => nofun
  next =>
    split
    next => nofun
    next => exact walk_ne_nul through _ _ _

/-! ## What is done at the end -/

/-- A file is opened for adding to it after one walk. -/
theorem openForAppend_ne_nul (hpath : '\x00' ∉ path.toList) :
    d.openForAppend path ≠ .error .nul := by
  unfold openForAppend
  cases hfind : d.find true path with
  | error cause =>
    rintro h
    cases h
    exact findNames_ne_nul hpath true _ hfind
  | ok found =>
    cases found with
    | «at» place node => cases node <;> nofun
    | absent parent name slash => cases slash <;> nofun

/-- A path with the character is refused for it, whatever is on the disk. -/
theorem openForAppend_of_nul (hpath : '\x00' ∈ path.toList) :
    d.openForAppend path = .error .nul := by
  have hfind : d.find true path = .error .nul := if_pos (by simpa using hpath)
  unfold openForAppend
  rw [hfind]
  rfl

/-- A directory is made after one walk. -/
theorem makeDirectory_ne_nul (hpath : '\x00' ∉ path.toList) :
    d.makeDirectory path ≠ .error .nul := by
  unfold makeDirectory
  cases hfind : d.find false path with
  | error cause =>
    rintro h
    cases h
    exact findNames_ne_nul hpath false _ hfind
  | ok found => cases found <;> nofun

/-- A directory that is ensured is made, or is there already. -/
theorem ensureDirectory_ne_nul (hpath : '\x00' ∉ path.toList) :
    (d.ensureDirectory path).2 ≠ some .nul := by
  unfold ensureDirectory
  split
  next => nofun
  next cause hmake =>
    split
    next => nofun
    next =>
      intro h
      exact makeDirectory_ne_nul hpath (hmake.trans (congrArg Except.error (Option.some.inj h)))

/-- The last directory of a path is ensured after those above it. -/
theorem finish_ne_nul (stem : String) (hpath : '\x00' ∉ path.toList) :
    (ensureDirectories.finish stem path d).2 ≠ some .nul := by
  unfold ensureDirectories.finish
  split
  next => nofun
  next => exact ensureDirectory_ne_nul hpath

/-- The path a path of directories is ensured from: without the slashes at its end. -/
theorem not_mem_stem {c : Char} (hpath : c ∉ path.toList) :
    c ∉ (if Path.base path = "" then Path.parent path else path).toList := by
  split
  next => exact Path.not_mem_parent hpath
  next => exact hpath

/-- **Directories that are ensured** are refused in other ways, if at all. -/
theorem ensureDirectories_ne_nul (fuel : Nat) (d : Disk) (hpath : '\x00' ∉ path.toList) :
    (ensureDirectories fuel d path).2 ≠ some .nul := by
  induction fuel generalizing d path with
  | zero => nofun
  | succ fuel ih =>
    have hstem := not_mem_stem hpath
    rw [ensureDirectories]
    -- All that is used of the stem is that the character is not in it either.
    generalize (if Path.base path = "" then Path.parent path else path) = stem at hstem ⊢
    split
    next => exact ensureDirectory_ne_nul hpath
    next =>
      have hrefused := ih d (Path.not_mem_parent hstem)
      cases hensured : ensureDirectories fuel d (Path.parent stem) with
      | mk d' refusal =>
        rw [hensured] at hrefused
        cases refusal with
        | none => exact finish_ne_nul stem hpath
        | some cause =>
          -- A directory above that is there by now is no failure; any other refusal is the one of
          -- the whole.
          by_cases htaken : cause = .taken
          · rw [htaken]
            exact finish_ne_nul stem hpath
          · simpa only [if_neg htaken] using hrefused

end Disk

end NamenodeShell
