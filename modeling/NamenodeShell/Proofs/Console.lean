import NamenodeShell.Console

/-!
# What reaches the terminal

Text without controls and tabs reaches a terminal without colours as it is, with a line end behind
it (`written_of_isWritable`). On its way it is cut into lines, and these into runs of one look; both
are put together again without a loss.
-/
set_option autoImplicit false

namespace NamenodeShell.Console

open NamenodeShell.Markup

/-- **Text that is written as it is**: without the controls that are dropped, and without tabs. -/
def IsWritable (cs : List Char) : Prop :=
  ∀ c ∈ cs, isDropped c = false ∧ c ≠ '\t'

instance (cs : List Char) : Decidable (IsWritable cs) :=
  List.decidableBAll _ cs

/-! ## Runs -/

/-- Text that is cut is there as a whole. -/
theorem flatMap_cutAt {α : Type} (start : Nat) (places : List Nat) (cs : List α) :
    (Styled.cutAt start places cs).flatMap (·.2) = cs := by
  induction places generalizing start cs with
  | nil =>
    cases cs with
    | nil => rfl
    | cons c cs => exact List.append_nil _
  | cons place places ih =>
    rw [Styled.cutAt, List.flatMap_cons, ih]
    exact List.take_append_drop _ cs

/-- Without colours the runs of a text are its characters. -/
theorem flatMap_runs (t : Styled) : t.runs.flatMap (runText false) = t.chars := by
  rw [Styled.runs, List.flatMap_map]
  exact flatMap_cutAt 0 t.borders t.chars

/-- A text is cut nowhere behind a character that is not in it. -/
theorem placesBehind_eq_nil {last : Char} {cs : List Char} (h : last ∉ cs) (start : Nat) :
    placesBehind last start cs = [] := by
  induction cs generalizing start with
  | nil => rfl
  | cons c cs ih =>
    have hc : c ≠ last := fun hc => h (hc ▸ List.mem_cons_self)
    rw [placesBehind, if_neg hc, ih fun hm => h (List.mem_cons_of_mem _ hm)]

/-- Without colours a line is written as its characters are, once tabs have become spaces. -/
theorem lineText_eq (line : Styled) : lineText false line =
    (expandTabs 0 (cutAt line (placesBehind '\t' 0 line.chars))).chars :=
  flatMap_runs _

/-- A line without tabs is written as it is. -/
theorem lineText_of_not_mem {line : Styled} (h : '\t' ∉ line.chars) :
    lineText false line = line.chars := by
  have hlast : line.chars.getLast? ≠ some '\t' := fun hlast => h (List.mem_of_getLast? hlast)
  rw [lineText_eq, placesBehind_eq_nil h]
  change (expandTabs 0 [line]).chars = _
  rw [expandTabs, if_neg hlast]
  exact List.append_nil _

/-! ## Lines -/

/-- A part of a text without the line end it may have. -/
def withoutEnd (part : List Char) : List Char :=
  if part.getLast? = some '\n' then part.dropLast else part

/-- What is written of one part of a text, which ends in a line end unless it is the last. -/
def partText (part : List Char) : List Char :=
  withoutEnd part ++ ['\n']

/-- The parts of a text between places. -/
def partsBetween (cs : List Char) (start : Nat) (places : List Nat) : List (List Char) :=
  (List.zip (start :: places) (places ++ [cs.length])).map fun (start, stop) =>
    (cs.take stop).drop start

/-- The first part ends at the first place, and the others follow from there. -/
theorem partsBetween_cons (cs : List Char) (start place : Nat) (places : List Nat) :
    partsBetween cs start (place :: places) =
      (cs.take place).drop start :: partsBetween cs place places := rfl

/-- A part without a line end gets one, -/
theorem partText_of_not_mem {part : List Char} (h : '\n' ∉ part) :
    partText part = part ++ ['\n'] := by
  rw [partText, withoutEnd, if_neg fun hlast => h (List.mem_of_getLast? hlast)]

/-- and a part that ends in one keeps it. -/
theorem partText_concat (part : List Char) : partText (part ++ ['\n']) = part ++ ['\n'] := by
  rw [partText, withoutEnd, if_pos List.getLast?_concat, List.dropLast_concat]

/-- **Lines are put together again**: those from one place on, of which some characters have been
looked at already. -/
theorem flatMap_parts {cs seen rest : List Char} {start : Nat}
    (hsplit : cs.drop start = seen ++ rest) (hseen : '\n' ∉ seen) :
    (partsBetween cs start (placesBehind '\n' (start + seen.length) rest)).flatMap partText =
      seen ++ rest ++ ['\n'] := by
  induction rest generalizing seen start with
  | nil =>
    have hpart : (cs.take cs.length).drop start = seen := by
      rw [List.take_length, hsplit, List.append_nil]
    change [(cs.take cs.length).drop start].flatMap partText = _
    rw [hpart, List.flatMap_singleton, partText_of_not_mem hseen, List.append_nil]
  | cons c rest ih =>
    -- A line end closes the part that has been looked at; any other character belongs to it.
    by_cases hc : c = '\n'
    · subst hc
      have hpart : (cs.take (start + seen.length + 1)).drop start = seen ++ ['\n'] := by
        rw [List.drop_take, hsplit]
        simp [Nat.add_assoc, List.take_append, List.take_of_length_le (Nat.le_succ seen.length)]
      have hrest : cs.drop (start + seen.length + 1) = [] ++ rest := by
        rw [Nat.add_assoc, ← List.drop_drop, hsplit]
        simp [List.drop_append]
      have hlines := ih hrest List.not_mem_nil
      rw [List.length_nil, Nat.add_zero] at hlines
      rw [placesBehind, if_pos rfl, partsBetween_cons, List.flatMap_cons, hpart, hlines,
        partText_concat]
      simp
    · have hseen' : '\n' ∉ seen ++ [c] := by
        simpa [hseen] using Ne.symm hc
      have hlines := ih (by simpa using hsplit) hseen'
      rw [placesBehind, if_neg hc]
      simpa [Nat.add_assoc] using hlines

/-- The parts of a text have no characters of their own. -/
theorem subset_of_mem_partsBetween {cs part : List Char} {start : Nat} {places : List Nat}
    (h : part ∈ partsBetween cs start places) : part ⊆ cs := by
  obtain ⟨⟨a, b⟩, -, rfl⟩ := List.mem_map.mp h
  exact fun c hc => List.mem_of_mem_take (List.mem_of_mem_drop hc)

/-- A text with looks is cut where its characters are. -/
theorem map_chars_cutAt (t : Styled) (places : List Nat) :
    (cutAt t places).map (·.chars) = partsBetween t.chars 0 places := by
  cases places with
  | nil => simp [cutAt, partsBetween]
  | cons place places =>
    rw [cutAt, if_neg (by simp), List.map_map]
    rfl

/-- The lines of a text are its parts between line ends. -/
theorem map_chars_lines (t : Styled) :
    (lines t).map (·.chars) =
      (partsBetween t.chars 0 (placesBehind '\n' 0 t.chars)).map withoutEnd := by
  have hend (line : Styled) :
      (if line.chars.getLast? = some '\n' then line.part 0 (line.chars.length - 1)
        else line).chars = withoutEnd line.chars := by
    rw [withoutEnd, List.dropLast_eq_take]
    split <;> rfl
  rw [← map_chars_cutAt, lines, List.map_map, List.map_map]
  exact List.map_congr_left fun line _ => hend line

/-- **Writable text is written as it is**, with a line end behind it. -/
theorem written_of_isWritable {t : Styled} (h : IsWritable t.chars) :
    written false t = .ofList (t.chars ++ ['\n']) := by
  have hchars : (t.filter fun c => !isDropped c).chars = t.chars :=
    List.filter_eq_self.mpr fun c hc => by rw [(h c hc).1, Bool.not_false]
  have hlines := map_chars_lines (t.filter fun c => !isDropped c)
  rw [hchars] at hlines
  have htext : ∀ line ∈ lines (t.filter fun c => !isDropped c),
      lineText false line ++ ['\n'] = line.chars ++ ['\n'] := by
    intro line hline
    have hmem := List.mem_map_of_mem (f := (·.chars)) hline
    rw [hlines] at hmem
    obtain ⟨part, hpart, hwithout⟩ := List.mem_map.mp hmem
    have hsubset : line.chars ⊆ t.chars := by
      rw [← hwithout, withoutEnd]
      split
      next => exact fun c hc =>
        subset_of_mem_partsBetween hpart (List.dropLast_subset part hc)
      next => exact subset_of_mem_partsBetween hpart
    -- A line of writable text has no tabs, since its characters are among those of the text.
    rw [lineText_of_not_mem fun htab => (h '\t' (hsubset htab)).2 rfl]
  have hsplit : t.chars.drop 0 = [] ++ t.chars := rfl
  have hparts := flatMap_parts hsplit List.not_mem_nil
  refine congrArg String.ofList ?_
  calc (lines (t.filter fun c => !isDropped c)).flatMap (fun line => lineText false line ++ ['\n'])
    _ = ((lines (t.filter fun c => !isDropped c)).map (·.chars)).flatMap (· ++ ['\n']) := by
      rw [List.flatMap_map, List.flatMap_def, List.map_congr_left htext, ← List.flatMap_def]
    _ = (partsBetween t.chars 0 (placesBehind '\n' 0 t.chars)).flatMap partText := by
      rw [hlines, List.flatMap_map]
      rfl
    _ = t.chars ++ ['\n'] := hparts

/-- Writable words are written as they are, with a line end behind them. -/
theorem written_words {t : Styled} {words : String} (hchars : t.chars = words.toList)
    (h : IsWritable words.toList) : written false t = words ++ "\n" := by
  have hend : "\n".toList = ['\n'] := by
    decide
  rw [written_of_isWritable (by rwa [hchars]), hchars]
  apply String.toList_injective
  rw [String.toList_ofList, String.toList_append, hend]

/-- What is written without colours hangs on the characters alone. -/
theorem written_eq (t : Styled) : written false t =
    .ofList ((lines (t.filter fun c => !isDropped c)).flatMap fun line =>
      (expandTabs 0 (cutAt line (placesBehind '\t' 0 line.chars))).chars ++ ['\n']) := by
  simp only [written, lineText_eq]

end NamenodeShell.Console
