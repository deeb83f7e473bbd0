import NamenodeShell.Proofs.Markup.Lines

/-!
# Tags and runs

What a text put into a line of the shell's own can do to the line. Of the tags in markup those are
read that stand behind an even number of backslashes (`tagsRead`); literal text has none, so a line
has no others than the shell put there (`tagsRead_within`). What is read shows in the runs of the
text: those of a line with one style are what stands in front of it, what is in it and what stands
behind (`runs_within`).

A text that ends in backslashes meets the tag behind it. One at the end is doubled on the way, an
even number keeps in pairs; but an odd number from three on makes the tag literal
(`TakesTag`, `tagsRead_report`).
-/
set_option autoImplicit false

namespace NamenodeShell.Markup

/-! ## Tags that are read -/

/-- The text of a tag that opens or closes something. -/
def Piece.read? : Piece → Option (List Char)
  | .char _ => none
  | .tag backslashes text => if backslashes % 2 = 1 then none else some text

/-- **The tags that are read** in markup, in order. -/
def tagsRead (markup : String) : List (List Char) :=
  (pieces markup.toList).filterMap Piece.read?

/-- A literal piece opens and closes nothing. -/
theorem Piece.IsLiteral.read?_eq_none {p : Piece} (h : p.IsLiteral) : p.read? = none := by
  cases p with
  | char c => rfl
  | tag backslashes text => exact if_pos h

/-- Literal pieces have no tags. -/
theorem filterMap_read? {ps : List Piece} (h : ∀ p ∈ ps, p.IsLiteral) :
    ps.filterMap Piece.read? = [] :=
  List.filterMap_eq_nil_iff.mpr fun p hp => (h p hp).read?_eq_none

/-- **Literal text has no tags that are read.** -/
theorem IsLiteralText.tagsRead_eq_nil {markup : String} (h : IsLiteralText markup.toList) :
    tagsRead markup = [] :=
  filterMap_read? h

section

variable {markup : String} {name front body behind : List Char} {style : Style}

/-- **Of literal text around a style and in it only the tags of the style are read.** -/
theorem tagsRead_within (h : IsStyle name style) (hfront : IsFront front)
    (hbody : IsLiteralText body) (hlast : body.getLast? ≠ some '\\')
    (hbehind : IsLiteralText behind)
    (hmarkup : markup.toList =
      front ++ (bracketed name ++ (body ++ (bracketed ('/' :: name) ++ behind)))) :
    tagsRead markup = [name, '/' :: name] := by
  have hopen : (Piece.tag 0 name).read? = some name := rfl
  have hclose : (Piece.tag 0 ('/' :: name)).read? = some ('/' :: name) := rfl
  have hchars : (front.map Piece.char).filterMap Piece.read? = [] := by
    refine filterMap_read? fun p hp => ?_
    obtain ⟨c, -, rfl⟩ := List.mem_map.mp hp
    trivial
  rw [tagsRead, hmarkup, pieces_within h hfront hlast, List.filterMap_append, hchars,
    List.nil_append, List.filterMap_cons_some hopen, List.filterMap_append,
    filterMap_read? hbody, List.nil_append, List.filterMap_cons_some hclose,
    filterMap_read? hbehind]

end

/-! ## Backslashes at the end -/

/-- How many backslashes a text ends in. -/
def backslashesBehind (cs : List Char) : Nat :=
  (cs.reverse.takeWhile (· = '\\')).length

/-- **A text that makes the tag behind it literal** when it has been escaped: it ends in an odd
number of backslashes, and more than one. -/
def TakesTag (cs : List Char) : Prop :=
  3 ≤ backslashesBehind cs ∧ backslashesBehind cs % 2 = 1

instance (cs : List Char) : Decidable (TakesTag cs) :=
  inferInstanceAs (Decidable (_ ∧ _))

/-- The backslashes at the end are counted from behind. -/
theorem backslashesBehind_append {body : List Char} (h : body.getLast? ≠ some '\\') (k : Nat) :
    backslashesBehind (body ++ List.replicate k '\\') = k := by
  have hbody : body.reverse.takeWhile (· = '\\') = [] := by
    rw [← List.head?_reverse] at h
    cases hreverse : body.reverse with
    | nil => rfl
    | cons c cs =>
      rw [hreverse] at h
      exact List.takeWhile_cons_of_neg (by simpa using h)
  have hall : ∀ c ∈ List.replicate k '\\', decide (c = '\\') = true := by
    intro c hc
    exact decide_eq_true (List.eq_of_mem_replicate hc)
  rw [backslashesBehind, List.reverse_append, List.reverse_replicate,
    List.takeWhile_append_of_pos hall, hbody, List.append_nil, List.length_replicate]

/-- What the backslashes at the end of a text become when it is closed. -/
theorem closeEnd_append {cs : List Char} (h : cs.getLast? ≠ some '\\') (k : Nat) :
    closeEnd (cs ++ List.replicate k '\\') =
      cs ++ List.replicate (if k = 1 then 2 else k) '\\' := by
  -- The code looks at the last two characters: only a single backslash is doubled.
  match k with
  | 0 =>
    rw [List.replicate_zero, List.append_nil, closeEnd_of_getLast? h]
    exact (List.append_nil cs).symm
  | 1 =>
    rw [← List.head?_reverse] at h
    have hreverse : (cs ++ List.replicate 1 '\\').reverse = '\\' :: cs.reverse := by
      rw [List.reverse_append]
      rfl
    unfold closeEnd
    rw [hreverse, if_pos rfl]
    split
    next heq =>
      rw [(List.cons.inj heq).2] at h
      exact absurd rfl h
    next => exact List.append_assoc ..
    next _ hnot => exact (hnot cs.reverse rfl).elim
  | k + 2 =>
    have hreverse : (cs ++ List.replicate (k + 2) '\\').reverse =
        '\\' :: '\\' :: (List.replicate k '\\' ++ cs.reverse) := by
      rw [List.reverse_append, List.reverse_replicate]
      rfl
    unfold closeEnd
    rw [hreverse, if_neg (by omega)]
    rfl

/-- **What a text that ends in backslashes is written as.** -/
theorem toList_escape_append {s : String} {body : List Char} {k : Nat}
    (hs : s.toList = body ++ List.replicate k '\\') (hlast : body.getLast? ≠ some '\\') :
    (escape s).toList =
      escapedFrom 0 body ++ List.replicate (if k = 1 then 2 else k) '\\' := by
  have hescaped : (pieces s.toList).flatMap escapePiece =
      escapedFrom 0 body ++ List.replicate k '\\' := by
    have hchars : ((List.replicate k '\\').map Piece.char).flatMap escapePiece =
        List.replicate k '\\' := by
      rw [List.flatMap_map]
      exact List.flatMap_singleton' _
    rw [hs, pieces, scan_append_plain (isPlain_backslashes k), List.flatMap_append, hchars]
    rfl
  rw [escape, String.toList_ofList, escapeChars, hescaped, closeEnd_append]
  rw [getLast?_escapedFrom]
  exact hlast

/-- **The tags of a line in a style**, of words of the shell's own and a text that has been escaped,
are those of the style, unless the text makes the closing one literal. -/
theorem tagsRead_report {markup : String} {name front : List Char} {style : Style} {s : String}
    (h : IsStyle name style) (hfront : IsFront front) (hs : ¬ TakesTag s.toList)
    (hmarkup : markup.toList =
      bracketed name ++ (front ++ (escape s).toList ++ bracketed ('/' :: name))) :
    tagsRead markup = [name, '/' :: name] := by
  obtain ⟨body, k, hbody, hlast⟩ := exists_eq_append_backslashes s.toList
  have hk : ¬ (if k = 1 then 2 else k) % 2 = 1 := by
    rw [TakesTag, hbody, backslashesBehind_append hlast] at hs
    split <;> omega
  have hescaped := toList_escape_append hbody hlast
  have hend : (front ++ escapedFrom 0 body).getLast? ≠ some '\\' := by
    rw [List.getLast?_append, getLast?_escapedFrom, List.replicate_zero, List.nil_append]
    cases hbodyLast : body.getLast? with
    | none => simpa using hfront.no_backslash
    | some c => exact fun hc => hlast (hbodyLast.trans hc)
  have hliteral : IsLiteralText (front ++ escapedFrom 0 body) := by
    have hall := (isLiteralText_escape s).behind hfront
    rw [hescaped, ← List.append_assoc] at hall
    exact hall.of_append_backslashes hend
  have hopen : (Piece.tag 0 name).read? = some name := rfl
  have hclose : (Piece.tag (if k = 1 then 2 else k) ('/' :: name)).read? = some ('/' :: name) :=
    if_neg hk
  rw [hescaped] at hmarkup
  rw [tagsRead, hmarkup, ← List.append_assoc front, List.append_assoc (front ++ _),
    pieces_styled h _ hend, List.filterMap_cons_some hopen, List.filterMap_append,
    filterMap_read? hliteral, List.nil_append, List.filterMap_cons_some hclose, List.filterMap_nil]

/-! ## Runs -/

theorem Style.plain_within (style : Style) : Style.plain.within style = style := by
  simp [Style.within, Style.plain]

namespace Styled

theorem lookAt_within (front : List Char) (style : Style) (body behind : List Char) (place : Nat) :
    (within front style body behind).lookAt place =
      if front.length ≤ place ∧ place < front.length + body.length then style else .plain := by
  change (if _ then Style.plain.within style else .plain) = _
  rw [Style.plain_within]

/-- Text without any style is one run. -/
theorem runs_ofChars {cs : List Char} (h : cs ≠ []) : (ofChars cs).runs = [(.plain, cs)] := by
  have hborders : (ofChars cs).borders = [] := by
    simp [borders, ofChars]
  rw [runs, hborders, ofChars, cutAt, if_neg (by simpa using h)]
  rfl

/-- Text in a style from end to end is one run. -/
theorem runs_allOver {style : Style} {cs : List Char} (h : cs ≠ []) :
    (allOver style cs).runs = [(style, cs)] := by
  have hborders : (allOver style cs).borders = [] := by
    simp [borders, allOver]
  have hlook : (allOver style cs).lookAt 0 = style := by
    change (if _ then Style.plain.within style else .plain) = _
    rw [if_pos ⟨Nat.le_refl 0, List.length_pos_iff.mpr h⟩, Style.plain_within]
  rw [runs, hborders, allOver, cutAt, if_neg (by simpa using h)]
  exact congrArg (fun look => [(look, cs)]) hlook

/-- The borders of a part in a style are its ends, as far as they are inside the text. -/
theorem borders_within {front body : List Char} (hfront : front ≠ []) (hbody : body ≠ [])
    (style : Style) (behind : List Char) : (within front style body behind).borders =
      if behind = [] then [front.length] else [front.length, front.length + body.length] := by
  have hstart := List.length_pos_iff.mpr hfront
  have hlong := List.length_pos_iff.mpr hbody
  have hlength : (front ++ (body ++ behind)).length =
      front.length + body.length + behind.length := by
    rw [List.length_append, List.length_append, Nat.add_assoc]
  change (([front.length, front.length + body.length].filter fun place =>
    decide (0 < place ∧ place < (front ++ (body ++ behind)).length)).mergeSort
      fun a b => decide (a ≤ b)).eraseDups = _
  have hinside : ∀ place, decide (0 < place ∧ place < front.length + body.length + behind.length) =
      true ↔ 0 < place ∧ place < front.length + body.length + behind.length :=
    fun place => decide_eq_true_iff
  rw [hlength, List.filter_cons, if_pos ((hinside _).mpr (by omega)), List.filter_cons,
    List.filter_nil]
  by_cases hbehind : behind = []
  · have hend : behind.length = 0 := List.length_eq_zero_iff.mpr hbehind
    rw [if_pos hbehind, if_neg fun h => absurd ((hinside _).mp h).2 (by omega),
      List.mergeSort_singleton]
    rfl
  · have hmore := List.length_pos_iff.mpr hbehind
    have hsorted : [front.length, front.length + body.length].Pairwise
        fun a b => decide (a ≤ b) = true := by
      simp
    have hdiffer : (!(front.length + body.length == front.length)) = true := by
      simpa using hbody
    rw [if_neg hbehind, if_pos ((hinside _).mpr (by omega)), List.mergeSort_of_pairwise hsorted,
      List.eraseDups_cons, List.filter_cons, if_pos hdiffer, List.filter_nil,
      List.eraseDups_cons, List.filter_nil, List.eraseDups_nil]

/-- **The runs of a text with one part in a style** are that part, what is in front of it and what
is behind. -/
theorem runs_within {front body : List Char} (hfront : front ≠ []) (hbody : body ≠ [])
    (style : Style) (behind : List Char) : (within front style body behind).runs =
      (.plain, front) :: (style, body) :: if behind = [] then [] else [(.plain, behind)] := by
  have hstart := List.length_pos_iff.mpr hfront
  have hlong := List.length_pos_iff.mpr hbody
  have hchars : (within front style body behind).chars = front ++ (body ++ behind) := rfl
  have hbefore : ¬ (front.length ≤ 0 ∧ 0 < front.length + body.length) := by
    omega
  have hinside : front.length ≤ front.length ∧ front.length < front.length + body.length := by
    omega
  have hafter : ¬ (front.length ≤ front.length + body.length ∧
      front.length + body.length < front.length + body.length) := by
    omega
  -- The text is cut where the style begins and where it ends, and looked at in each part.
  rw [runs, borders_within hfront hbody, hchars]
  split
  next hbehind =>
    have hrest : (body ++ []).isEmpty = false := by
      simpa using hbody
    rw [hbehind, cutAt, Nat.sub_zero, List.take_left, List.drop_left, cutAt,
      if_neg (Bool.eq_false_iff.mp hrest), List.append_nil]
    simp only [List.map_cons, List.map_nil, lookAt_within, if_neg hbefore, if_pos hinside]
  next hbehind =>
    have hrest : behind.isEmpty = false := by
      simpa using hbehind
    rw [cutAt, Nat.sub_zero, List.take_left, List.drop_left, cutAt, Nat.add_sub_cancel_left,
      List.take_left, List.drop_left, cutAt, if_neg (Bool.eq_false_iff.mp hrest)]
    simp only [List.map_cons, List.map_nil, lookAt_within, if_neg hbefore, if_pos hinside,
      if_neg hafter]

end Styled

end NamenodeShell.Markup
