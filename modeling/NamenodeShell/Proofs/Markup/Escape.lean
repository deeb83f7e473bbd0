import NamenodeShell.Markup.Rendering

/-!
# Escaped text is shown

Text that has been written as markup can always be shown, whatever is in it (`render_escape`): no
tag of it opens or closes anything, so there is nothing to close in vain and no style to read.

What carries this is that the escaped text falls into the pieces of the text itself, with an odd
number of backslashes in front of every tag (`scan_escaped`). The two scans are followed side by
side by `scan_induction`, which takes a text apart the way `scan` does: a backslash is held, a tag
goes as a whole, and anything else goes by itself. A beginning of a tag that is not finished in the
text is not finished in the escaped text either (`tag?_escaped`).
-/
set_option autoImplicit false

namespace NamenodeShell.Markup

/-! ## Tags -/

/-- **The text of a tag**: in brackets it is read as one, whatever comes behind. -/
def IsTag (text : List Char) : Prop :=
  ∀ rest, tag? (bracketed text ++ rest) = some text

/-- What has no bracket in it runs to the bracket that closes it. -/
theorem tagTail?_append_close {text : List Char} (h : ∀ c ∈ text, c ≠ '[' ∧ c ≠ ']')
    (rest : List Char) : tagTail? (text ++ ']' :: rest) = some text := by
  induction text with
  | nil => rfl
  | cons c text ih =>
    obtain ⟨hopen, hclose⟩ := h c List.mem_cons_self
    rw [List.cons_append, tagTail?, if_neg hclose, if_neg hopen,
      ih fun d hd => h d (List.mem_cons_of_mem _ hd)]
    rfl

/-- The rest of a tag runs to the first closing bracket, and no bracket opens on the way. -/
theorem tagTail?_eq_some {cs text : List Char} (h : tagTail? cs = some text) :
    (∀ c ∈ text, c ≠ '[' ∧ c ≠ ']') ∧ ∃ rest, cs = text ++ ']' :: rest := by
  induction cs generalizing text with
  | nil => cases h
  | cons c cs ih =>
    rw [tagTail?] at h
    split at h
    next hc =>
      cases h
      exact ⟨fun _ hd => absurd hd List.not_mem_nil, cs, congrArg (· :: cs) hc⟩
    next hclose =>
      split at h
      next => cases h
      next hopen =>
        obtain ⟨text, htext, rfl⟩ := Option.map_eq_some_iff.mp h
        obtain ⟨hfree, rest, rfl⟩ := ih htext
        refine ⟨?_, rest, rfl⟩
        intro d hd
        rcases List.mem_cons.mp hd with rfl | hd
        · exact ⟨hopen, hclose⟩
        · exact hfree d hd

/-- A tag that is read somewhere is one everywhere. -/
theorem tag?_eq_some {cs text : List Char} (h : tag? cs = some text) :
    IsTag text ∧ ∃ rest, cs = bracketed text ++ rest := by
  unfold tag? at h
  split at h
  next c cs =>
    split at h
    next hc =>
      obtain ⟨tail, htail, rfl⟩ := Option.map_eq_some_iff.mp h
      obtain ⟨hfree, rest, rfl⟩ := tagTail?_eq_some htail
      refine ⟨?_, rest, by simp [bracketed]⟩
      intro rest'
      have hread := tagTail?_append_close hfree rest'
      simp only [bracketed, List.cons_append, List.append_assoc, List.nil_append, tag?, if_pos hc,
        hread, Option.map_some]
    next => cases h
  next => cases h

/-- Only an opening bracket begins a tag. -/
theorem tag?_eq_none {c : Char} (h : c ≠ '[') (rest : List Char) : tag? (c :: rest) = none := by
  unfold tag?
  split
  next h' => exact absurd (List.cons.inj h').1 h
  next => rfl

/-- What a text without a closing bracket puts in front of an unfinished tag leaves it so. -/
theorem tagTail?_append_none {front cs : List Char} (hfront : ']' ∉ front)
    (h : tagTail? cs = none) : tagTail? (front ++ cs) = none := by
  induction front with
  | nil => exact h
  | cons c front ih =>
    have hc : c ≠ ']' := fun hc => hfront (hc ▸ List.mem_cons_self)
    rw [List.cons_append, tagTail?, if_neg hc, ih fun hm => hfront (List.mem_cons_of_mem _ hm)]
    split <;> rfl

theorem not_mem_backslashes (n : Nat) : ']' ∉ List.replicate n '\\' := by
  intro h
  exact absurd (List.eq_of_mem_replicate h) (by decide)

/-! ## Scanning -/

theorem scan_nil (held : Nat) : scan 0 held [] = List.replicate held (.char '\\') := rfl

/-- A backslash is held back until it is seen what comes behind it. -/
theorem scan_backslash (held : Nat) (rest : List Char) :
    scan 0 held ('\\' :: rest) = scan 0 (held + 1) rest := by
  rw [scan, if_pos rfl]

/-- A tag that has been read is skipped character by character, the scan being recursive on the
text. -/
theorem scan_skip (taken : List Char) (held : Nat) (rest : List Char) :
    scan taken.length held (taken ++ rest) = scan 0 held rest := by
  induction taken with
  | nil => rfl
  | cons c taken ih => rw [List.length_cons, List.cons_append, scan, ih]

/-- **A tag goes as a whole**, with the backslashes that were held in front of it. -/
theorem scan_tag {text : List Char} (h : IsTag text) (held : Nat) (rest : List Char) :
    scan 0 held (bracketed text ++ rest) = .tag held text :: scan 0 0 rest := by
  have hread := h rest
  have hskip := scan_skip (text ++ [']']) 0 rest
  rw [bracketed, List.cons_append, List.cons_append] at hread ⊢
  rw [scan, if_neg (by decide), hread]
  rw [List.length_append, List.length_singleton] at hskip
  exact congrArg _ hskip

/-- Anything else goes by itself, behind the backslashes that were held. -/
theorem scan_char {c : Char} {rest : List Char} (hc : c ≠ '\\') (h : tag? (c :: rest) = none)
    (held : Nat) :
    scan 0 held (c :: rest) = List.replicate held (.char '\\') ++ .char c :: scan 0 0 rest := by
  rw [scan, if_neg hc, h]

theorem scan_backslashes (n held : Nat) (rest : List Char) :
    scan 0 held (List.replicate n '\\' ++ rest) = scan 0 (held + n) rest := by
  induction n generalizing held with
  | zero => rfl
  | succ n ih =>
    rw [List.replicate_succ, List.cons_append, scan_backslash, ih, Nat.add_right_comm,
      Nat.add_assoc]

/-- **Induction along a scan**: over what is held and what is left. -/
theorem scan_induction {motive : Nat → List Char → Prop} (nil : ∀ held, motive held [])
    (backslash : ∀ held rest, motive (held + 1) rest → motive held ('\\' :: rest))
    (tag : ∀ held text rest, IsTag text → motive 0 rest → motive held (bracketed text ++ rest))
    (char : ∀ held c rest, c ≠ '\\' → tag? (c :: rest) = none → motive 0 rest →
      motive held (c :: rest)) (held : Nat) (cs : List Char) : motive held cs := by
  induction hn : cs.length using Nat.strongRecOn generalizing held cs with
  | ind n ih =>
    subst hn
    cases cs with
    | nil => exact nil held
    | cons c rest =>
      by_cases hc : c = '\\'
      · subst hc
        exact backslash held rest (ih _ (Nat.lt_succ_self _) _ _ rfl)
      · cases htag : tag? (c :: rest) with
        | none => exact char held c rest hc htag (ih _ (Nat.lt_succ_self _) _ _ rfl)
        | some text =>
          -- a tag is taken as a whole, so what is left is shorter by more than one character
          obtain ⟨htext, behind, hsplit⟩ := tag?_eq_some htag
          rw [hsplit] at ih ⊢
          refine tag held text behind htext (ih _ ?_ _ _ rfl)
          simp only [bracketed, List.length_append, List.length_cons]
          omega

/-! ## Escaping -/

/-- What the rest of a text is written as when backslashes have been held. -/
def escapedFrom (held : Nat) (cs : List Char) : List Char :=
  (scan 0 held cs).flatMap escapePiece

theorem escapedFrom_nil (held : Nat) : escapedFrom held [] = List.replicate held '\\' := by
  rw [escapedFrom, scan_nil, List.flatMap_replicate]
  simp [escapePiece]

/-- In the escaped text too a backslash is held until it is seen what it stands in front of. -/
theorem escapedFrom_backslash (held : Nat) (rest : List Char) :
    escapedFrom held ('\\' :: rest) = escapedFrom (held + 1) rest := by
  rw [escapedFrom, scan_backslash]
  rfl

/-- **The rule of escaping**: the backslashes in front of a tag are doubled and one is added, so
that their number is odd and the tag is text. -/
theorem escapedFrom_tag {text : List Char} (h : IsTag text) (held : Nat) (rest : List Char) :
    escapedFrom held (bracketed text ++ rest) =
      List.replicate (2 * held + 1) '\\' ++ (bracketed text ++ escapedFrom 0 rest) := by
  rw [escapedFrom, scan_tag h, List.flatMap_cons, escapePiece, List.append_assoc]
  rfl

/-- In front of anything else backslashes stay as they are. -/
theorem escapedFrom_char {c : Char} {rest : List Char} (hc : c ≠ '\\')
    (h : tag? (c :: rest) = none) (held : Nat) :
    escapedFrom held (c :: rest) = List.replicate held '\\' ++ c :: escapedFrom 0 rest := by
  rw [← escapedFrom_nil, escapedFrom, scan_char hc h, List.flatMap_append, List.flatMap_cons]
  rfl

/-- Escaping puts nothing but backslashes in front of what a text begins with. -/
theorem head_escapedFrom (held : Nat) (cs : List Char) :
    ∀ c rest, escapedFrom held cs = c :: rest → c = '\\' ∨ held = 0 ∧ cs.head? = some c := by
  induction held, cs using scan_induction with
  | nil held =>
    intro c rest h
    rw [escapedFrom_nil] at h
    exact Or.inl (List.eq_of_mem_replicate (h ▸ List.mem_cons_self))
  | backslash held cs ih =>
    intro c rest h
    rw [escapedFrom_backslash] at h
    -- a backslash is held, so the rest cannot begin with what the text begins with
    exact Or.inl ((ih c rest h).resolve_right fun hzero => Nat.succ_ne_zero held hzero.1)
  | tag held text cs htext ih =>
    intro c rest h
    rw [escapedFrom_tag htext, List.replicate_succ, List.cons_append] at h
    exact Or.inl (List.cons.inj h).1.symm
  | char held d cs hd htag ih =>
    intro c rest h
    rw [escapedFrom_char hd htag] at h
    cases held with
    | zero =>
      rw [List.replicate_zero, List.nil_append] at h
      exact Or.inr ⟨rfl, congrArg some (List.cons.inj h).1⟩
    | succ held =>
      rw [List.replicate_succ, List.cons_append] at h
      exact Or.inl (List.cons.inj h).1.symm

/-- What is not the rest of a tag is none when it has been escaped. -/
theorem tagTail?_escapedFrom (held : Nat) (cs : List Char) :
    tagTail? cs = none → tagTail? (escapedFrom held cs) = none := by
  induction held, cs using scan_induction with
  | nil held =>
    intro h
    rw [escapedFrom_nil, ← List.append_nil (List.replicate held '\\')]
    exact tagTail?_append_none (not_mem_backslashes held) h
  | backslash held cs ih =>
    intro h
    rw [tagTail?, if_neg (by decide), if_neg (by decide), Option.map_eq_none_iff] at h
    rw [escapedFrom_backslash]
    exact ih h
  | tag held text cs htext ih =>
    intro _
    rw [escapedFrom_tag htext]
    -- what escaping puts in front of the next tag is followed by its opening bracket
    exact tagTail?_append_none (not_mem_backslashes _) rfl
  | char held c cs hc htag ih =>
    intro h
    rw [escapedFrom_char hc htag]
    refine tagTail?_append_none (not_mem_backslashes held) ?_
    rw [tagTail?] at h ⊢
    split at h
    next => cases h
    next hclose =>
      rw [if_neg hclose]
      split at h
      next hopen => rw [if_pos hopen]
      next hopen => rw [if_neg hopen, ih (Option.map_eq_none_iff.mp h), Option.map_none]

/-- **What does not begin a tag begins none when the rest has been escaped.** -/
theorem tag?_escaped {c : Char} {rest : List Char} (h : tag? (c :: rest) = none) :
    tag? (c :: escapedFrom 0 rest) = none := by
  by_cases hc : c = '['
  · subst hc
    cases hrest : escapedFrom 0 rest with
    | nil => rfl
    | cons d tail =>
      rw [tag?]
      split
      next hd =>
        -- what begins a tag is no backslash, so the text itself goes on with it
        have hnot : d ≠ '\\' ∧ d ≠ '[' := by
          constructor <;> (rintro rfl; exact absurd hd (by decide))
        obtain ⟨-, hhead⟩ := (head_escapedFrom 0 rest d tail hrest).resolve_left hnot.1
        obtain ⟨behind, rfl⟩ := List.head?_eq_some_iff.mp hhead
        rw [tag?, if_pos hd, Option.map_eq_none_iff] at h
        rw [escapedFrom_char hnot.1 (tag?_eq_none hnot.2 behind)] at hrest
        rw [← (List.cons.inj hrest).2, tagTail?_escapedFrom 0 behind h, Option.map_none]
      next => rfl
  · exact tag?_eq_none hc _

/-- A piece that is shown as it is. -/
def Piece.literal : Piece → Piece
  | .char c => .char c
  | .tag backslashes text => .tag (2 * backslashes + 1) text

/-- **Escaped text falls into the pieces of the text**, all of them literal. -/
theorem scan_escaped (held : Nat) (cs : List Char) :
    scan 0 0 (escapedFrom held cs) = (scan 0 held cs).map Piece.literal := by
  have hheld : ∀ held, List.map Piece.literal (List.replicate held (.char '\\')) =
      List.replicate held (.char '\\') := fun held => List.map_replicate
  induction held, cs using scan_induction with
  | nil held =>
    rw [escapedFrom_nil, ← List.append_nil (List.replicate held '\\'), scan_backslashes, scan_nil,
      scan_nil, hheld, Nat.zero_add]
  | backslash held cs ih => rw [escapedFrom_backslash, scan_backslash, ih]
  | tag held text cs htext ih =>
    rw [escapedFrom_tag htext, scan_backslashes, Nat.zero_add, scan_tag htext, scan_tag htext, ih,
      List.map_cons, Piece.literal]
  | char held c cs hc htag ih =>
    rw [escapedFrom_char hc htag, scan_backslashes, Nat.zero_add,
      scan_char hc (tag?_escaped htag), scan_char hc htag, ih, List.map_append, hheld,
      List.map_cons, Piece.literal]

/-! ## Text behind -/

/-- **Plain text**: characters that take no part in any tag. -/
def IsPlain (cs : List Char) : Prop :=
  ∀ c ∈ cs, c ≠ '[' ∧ c ≠ ']'

theorem IsPlain.close_free {cs : List Char} (h : IsPlain cs) : ']' ∉ cs :=
  fun hm => (h _ hm).2 rfl

theorem IsPlain.append {cs ds : List Char} (hcs : IsPlain cs) (hds : IsPlain ds) :
    IsPlain (cs ++ ds) := by
  intro c hc
  rcases List.mem_append.mp hc with hc | hc
  · exact hcs c hc
  · exact hds c hc

theorem IsPlain.tail {c : Char} {cs : List Char} (h : IsPlain (c :: cs)) : IsPlain cs :=
  fun d hd => h d (List.mem_cons_of_mem c hd)

/-- What cannot end a tag leaves an unfinished one so. -/
theorem tagTail?_append {cs behind : List Char} (hbehind : tagTail? behind = none)
    (h : tagTail? cs = none) : tagTail? (cs ++ behind) = none := by
  induction cs with
  | nil => exact hbehind
  | cons c cs ih =>
    rw [tagTail?] at h
    rw [List.cons_append, tagTail?]
    split at h
    next => cases h
    next hclose =>
      rw [if_neg hclose]
      split at h
      next hopen => rw [if_pos hopen]
      next hopen => rw [if_neg hopen, ih (Option.map_eq_none_iff.mp h), Option.map_none]

/-- What finishes no tag, and begins none behind a bracket, makes none of what stands in front. -/
theorem tag?_append {c : Char} {cs behind : List Char} (hbehind : tagTail? behind = none)
    (hopen : tag? ('[' :: behind) = none) (h : tag? (c :: cs) = none) :
    tag? (c :: (cs ++ behind)) = none := by
  by_cases hc : c = '['
  · subst hc
    cases cs with
    | nil => exact hopen
    | cons d cs =>
      rw [tag?] at h
      rw [List.cons_append, tag?]
      split at h
      next hd =>
        rw [if_pos hd, tagTail?_append hbehind (Option.map_eq_none_iff.mp h), Option.map_none]
      next hd => rw [if_neg hd]
  · exact tag?_eq_none hc _

/-- **Text behind a text stays by itself** when it finishes no tag and the backslashes in front of
it, if there are any, are none of its tags'. -/
theorem scan_append {behind : List Char} (hbehind : tagTail? behind = none)
    (hopen : tag? ('[' :: behind) = none) (held : Nat) (cs : List Char) :
    (∀ n, scan 0 n behind = List.replicate n (.char '\\') ++ scan 0 0 behind) ∨
      (cs.getLast? ≠ some '\\' ∧ (cs = [] → held = 0)) →
    scan 0 held (cs ++ behind) = scan 0 held cs ++ scan 0 0 behind := by
  induction held, cs using scan_induction with
  | nil held =>
    rintro (hflush | ⟨-, hzero⟩)
    · rw [List.nil_append, hflush, scan_nil]
    · rw [hzero rfl]
      rfl
  | backslash held cs ih =>
    intro h
    rw [List.cons_append, scan_backslash, scan_backslash]
    refine ih (h.imp_right fun ⟨hlast, _⟩ => ?_)
    cases cs with
    | nil => exact absurd rfl hlast
    | cons c cs => exact ⟨by rwa [List.getLast?_cons_cons] at hlast, fun hnil => nomatch hnil⟩
  | tag held text cs htext ih =>
    intro h
    rw [List.append_assoc, scan_tag htext, scan_tag htext, List.cons_append]
    refine congrArg _ (ih (h.imp_right fun ⟨hlast, _⟩ => ⟨fun hcs => hlast ?_, fun _ => rfl⟩))
    rw [List.getLast?_append, hcs, Option.some_or]
  | char held c cs hc htag ih =>
    intro h
    rw [List.cons_append, scan_char hc (tag?_append hbehind hopen htag), scan_char hc htag,
      List.append_assoc, List.cons_append]
    refine congrArg (_ ++ Piece.char c :: ·)
      (ih (h.imp_right fun ⟨hlast, _⟩ => ⟨fun hcs => hlast ?_, fun _ => rfl⟩))
    rw [List.getLast?_cons, hcs]
    rfl

/-- Plain text does not finish a tag, -/
theorem IsPlain.tagTail? {plain : List Char} (h : IsPlain plain) : tagTail? plain = none := by
  rw [← List.append_nil plain]
  exact tagTail?_append_none h.close_free rfl

/-- nor does it begin one behind a bracket. -/
theorem IsPlain.tag? {plain : List Char} (h : IsPlain plain) : tag? ('[' :: plain) = none := by
  cases plain with
  | nil => rfl
  | cons d plain => rw [Markup.tag?, h.tail.tagTail?, Option.map_none, ite_self]

/-- Plain text is scanned character by character. -/
theorem scan_plain {plain : List Char} (hplain : IsPlain plain) (held : Nat) :
    scan 0 held plain = List.replicate held (.char '\\') ++ plain.map .char := by
  induction plain generalizing held with
  | nil => rw [scan_nil, List.map_nil, List.append_nil]
  | cons c plain ih =>
    by_cases hc : c = '\\'
    · subst hc
      rw [scan_backslash, ih hplain.tail, List.replicate_succ', List.append_assoc, List.map_cons]
      rfl
    · rw [scan_char hc (tag?_eq_none (hplain c List.mem_cons_self).1 plain), ih hplain.tail]
      rfl

/-- **Plain text behind a text stays by itself.** -/
theorem scan_append_plain {plain : List Char} (hplain : IsPlain plain) (held : Nat)
    (cs : List Char) : scan 0 held (cs ++ plain) = scan 0 held cs ++ plain.map .char := by
  have hscan := scan_plain hplain 0
  rw [List.replicate_zero, List.nil_append] at hscan
  rw [← hscan]
  refine scan_append hplain.tagTail? hplain.tag? held cs (Or.inl fun n => ?_)
  rw [scan_plain hplain, hscan]

/-- An escaped text that ends in a single backslash gets a second one, lest the first be taken for
the escape of what is put behind the text. -/
theorem closeEnd_cases (cs : List Char) : closeEnd cs = cs ∨ closeEnd cs = cs ++ ['\\'] := by
  unfold closeEnd
  split
  next => exact Or.inl rfl
  next => exact Or.inr rfl
  next => exact Or.inl rfl

/-- The pieces of a text that has been escaped. -/
theorem pieces_escape (s : String) :
    ∃ closing, pieces (escape s).toList =
      (pieces s.toList).map Piece.literal ++ List.map Piece.char closing := by
  have hescaped : pieces ((pieces s.toList).flatMap escapePiece) =
      (pieces s.toList).map Piece.literal := scan_escaped 0 s.toList
  rw [escape, String.toList_ofList, escapeChars]
  rcases closeEnd_cases ((pieces s.toList).flatMap escapePiece) with h | h
  · exact ⟨[], by rw [h, hescaped, List.map_nil, List.append_nil]⟩
  · have hplain : IsPlain ['\\'] := by
      intro c hc
      rw [List.mem_singleton.mp hc]
      decide
    refine ⟨['\\'], ?_⟩
    rw [h, ← hescaped]
    exact scan_append_plain hplain 0 _

/-! ## Rendering -/

/-- Whether a piece is shown as it is. -/
def Piece.IsLiteral : Piece → Prop
  | .char _ => True
  | .tag backslashes _ => backslashes % 2 = 1

/-- Twice as many backslashes and one more are an odd number. -/
theorem Piece.isLiteral_literal (p : Piece) : p.literal.IsLiteral := by
  cases p with
  | char c => trivial
  | tag backslashes text => exact Nat.mul_add_mod 2 backslashes 1

theorem Piece.isLiteral_of_mem_literals {ps : List Piece} {p : Piece}
    (h : p ∈ ps.map Piece.literal) : p.IsLiteral := by
  obtain ⟨q, -, rfl⟩ := List.mem_map.mp h
  exact q.isLiteral_literal

namespace Rendered

/-- A character is written, unless it is a backslash in front of a bracket. -/
theorem pieces_char (r : Rendered) {c : Char} {rest : List Piece}
    (h : c = '\\' → rest.head? ≠ some (.char '[')) :
    r.pieces (.char c :: rest) = (r.write [c]).pieces rest := by
  rw [pieces]
  rintro rest rfl hc
  exact h hc rfl

/-- A tag behind an even number of backslashes is read, and may open or close something. -/
theorem pieces_tag (r : Rendered) {backslashes : Nat} (h : ¬ backslashes % 2 = 1)
    (text : List Char) (rest : List Piece) :
    r.pieces (.tag backslashes text :: rest) =
      ((r.write (List.replicate (backslashes / 2) '\\')).readTag text).bind (·.pieces rest) := by
  rw [pieces, if_neg h]
  cases (r.write (List.replicate (backslashes / 2) '\\')).readTag text <;> rfl

/-- Pieces are rendered one part after the other, cut anywhere but in front of a bracket. -/
theorem pieces_append (r : Rendered) (ps : List Piece) {qs : List Piece}
    (hqs : qs.head? ≠ some (.char '[')) :
    r.pieces (ps ++ qs) = (r.pieces ps).bind (·.pieces qs) := by
  fun_induction pieces r ps with
  | case1 => rfl
  | case2 r ps ih =>
    rw [List.cons_append, List.cons_append, pieces]
    exact ih
  | case3 r c ps hnot ih =>
    rw [List.cons_append, pieces_char, ih]
    intro hc
    cases ps with
    | nil => exact hqs
    | cons p ps =>
      intro hhead
      exact hnot ps (congrArg (· :: ps) (Option.some.inj hhead)) hc
  | case4 r backslashes text ps written hodd ih =>
    rw [List.cons_append, pieces, if_pos hodd]
    exact ih
  | case5 r backslashes text ps written hodd opened hread ih =>
    rw [List.cons_append, pieces_tag r hodd, hread]
    exact ih
  | case6 r backslashes text ps written hodd e hread =>
    rw [List.cons_append, pieces_tag r hodd, hread]
    rfl

/-- Plain pieces are written and nothing else is done. -/
theorem pieces_plain (r : Rendered) {plain : List Char} (h : IsPlain plain) :
    r.pieces (plain.map .char) = .ok (r.write plain) := by
  induction plain generalizing r with
  | nil => rfl
  | cons c plain ih =>
    rw [List.map_cons, pieces_char, ih _ h.tail]
    · simp only [write, List.reverse_cons, List.append_assoc, List.reverse_nil, List.nil_append]
    · intro _ hhead
      cases plain with
      | nil => cases hhead
      | cons d plain =>
        exact (h.tail d List.mem_cons_self).1 (Piece.char.inj (Option.some.inj hhead))

/-- **Literal pieces are rendered**, and no tag of them opens or closes anything. -/
theorem pieces_literal (r : Rendered) (ps : List Piece) (h : ∀ p ∈ ps, p.IsLiteral) :
    ∃ r', r.pieces ps = .ok r' ∧ r'.opened = r.opened ∧ r'.ended = r.ended := by
  fun_induction pieces r ps with
  | case1 r => exact ⟨r, rfl, rfl, rfl⟩
  | case2 r ps ih => exact ih fun p hp => h p (List.mem_cons_of_mem _ (List.mem_cons_of_mem _ hp))
  | case3 r c ps hnot ih => exact ih fun p hp => h p (List.mem_cons_of_mem _ hp)
  | case4 r backslashes text ps written hodd ih =>
    exact ih fun p hp => h p (List.mem_cons_of_mem _ hp)
  -- a literal tag has an odd number of backslashes in front of it and is never read
  | case5 r backslashes text ps written hodd opened hread ih =>
    exact absurd (h _ List.mem_cons_self) hodd
  | case6 r backslashes text ps written hodd e hread =>
    exact absurd (h _ List.mem_cons_self) hodd

end Rendered

/-- Markup whose pieces are rendered without a tag doing anything is text without any style. -/
theorem render_of_pieces {markup : String} {r : Rendered}
    (h : Rendered.pieces {} (pieces markup.toList) = .ok r) (hopened : r.opened = [])
    (hended : r.ended = []) : render markup = .ok (.ofChars r.reversed.reverse) := by
  have hdefined : r.defined = [] := by
    rw [Rendered.defined, hopened, hended]
    exact List.mergeSort_nil
  unfold render
  rw [h]
  simp only [bind, Except.bind, hdefined]
  rfl

/-- **Escaped text can always be shown**, and is shown without any style. -/
theorem render_escape (s : String) : ∃ cs, render (escape s) = .ok (.ofChars cs) := by
  obtain ⟨closing, hpieces⟩ := pieces_escape s
  have hliteral : ∀ p ∈ pieces (escape s).toList, p.IsLiteral := by
    intro p hp
    rw [hpieces] at hp
    rcases List.mem_append.mp hp with hp | hp
    · exact Piece.isLiteral_of_mem_literals hp
    · obtain ⟨c, -, rfl⟩ := List.mem_map.mp hp
      trivial
  obtain ⟨r, hr, hopened, hended⟩ := Rendered.pieces_literal {} _ hliteral
  exact ⟨_, render_of_pieces hr hopened hended⟩

/-- Text that does not end in a backslash is not closed. -/
theorem closeEnd_of_getLast? {cs : List Char} (h : cs.getLast? ≠ some '\\') :
    closeEnd cs = cs := by
  rw [← List.head?_reverse] at h
  unfold closeEnd
  split
  next hcs => rfl
  next hcs => rw [hcs] at h; exact absurd rfl h
  next => rfl

/-- Plain text at the end of a text is not changed by escaping. -/
theorem escape_append {s plain : String} (h : IsPlain plain.toList) (hne : plain.toList ≠ [])
    (hlast : plain.toList.getLast? ≠ some '\\') :
    (escape (s ++ plain)).toList = escapedFrom 0 s.toList ++ plain.toList := by
  have hescaped : (pieces (s ++ plain).toList).flatMap escapePiece =
      escapedFrom 0 s.toList ++ plain.toList := by
    have hchars : (plain.toList.map Piece.char).flatMap escapePiece = plain.toList := by
      rw [List.flatMap_map]
      exact List.flatMap_singleton' _
    rw [String.toList_append, pieces, scan_append_plain h, List.flatMap_append, hchars]
    rfl
  rw [escape, String.toList_ofList, escapeChars, hescaped, closeEnd_of_getLast?]
  rw [List.getLast?_append, List.getLast?_eq_some_getLast hne, Option.some_or,
    ← List.getLast?_eq_some_getLast hne]
  exact hlast

/-- **What is plain at the end of a text is shown at the end.** -/
theorem render_escape_append {s plain : String} (h : IsPlain plain.toList)
    (hne : plain.toList ≠ []) (hlast : plain.toList.getLast? ≠ some '\\') :
    ∃ cs, render (escape (s ++ plain)) = .ok (.ofChars (cs ++ plain.toList)) := by
  have hpieces : pieces (escape (s ++ plain)).toList =
      (pieces s.toList).map Piece.literal ++ plain.toList.map .char := by
    rw [escape_append h hne hlast, pieces, scan_append_plain h, scan_escaped]
    rfl
  obtain ⟨r, hr, hopened, hended⟩ :=
    Rendered.pieces_literal {} ((pieces s.toList).map Piece.literal)
      fun _ => Piece.isLiteral_of_mem_literals
  have hhead : (plain.toList.map Piece.char).head? ≠ some (.char '[') := by
    rw [List.head?_map]
    intro hc
    obtain ⟨c, hc, heq⟩ := Option.map_eq_some_iff.mp hc
    exact (h c (List.mem_of_mem_head? hc)).1 (Piece.char.inj heq)
  have hwritten : Rendered.pieces {} (pieces (escape (s ++ plain)).toList) =
      .ok (r.write plain.toList) := by
    rw [hpieces, Rendered.pieces_append _ _ hhead, hr]
    exact r.pieces_plain h
  refine ⟨r.reversed.reverse, ?_⟩
  rw [render_of_pieces hwritten hopened hended, Rendered.write, List.reverse_append,
    List.reverse_reverse]

end NamenodeShell.Markup
