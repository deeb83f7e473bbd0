import Mathlib.Data.List.Induction
import Mathlib.Data.List.TakeWhile
import NamenodeShell.Proofs.Markup.Escape

/-!
# Lines that can be shown

The lines the shell puts together from its own words and a text it has been given. The text is
escaped, and stands behind plain words, or between a tag of a style and the one that closes it. Such
lines can always be shown, whatever the text is (`render_behind`, `render_styled`), and a line
between tags is in its style from end to end. The tags may also have words in front of them and
behind them, which are not in the style (`render_within`).

What is shown of the text is the text itself where no backslash in it stands in front of an opening
bracket or at the end (`IsKept`, `shownOf_escape`). Elsewhere backslashes are lost; and an odd
number of them, three or more, at the end of a text takes the tag that should close the line for
part of it.
-/
set_option autoImplicit false

namespace NamenodeShell.Markup

/-! ## What literal pieces show -/

/-- **What pieces show when all of them are literal**: a tag keeps half of its backslashes, and a
backslash is dropped in front of a bracket. -/
def shownOf : List Piece → List Char
  | [] => []
  | .char '\\' :: .char '[' :: rest => '[' :: shownOf rest
  | .char c :: rest => c :: shownOf rest
  | .tag backslashes text :: rest =>
    List.replicate (backslashes / 2) '\\' ++ (bracketed text ++ shownOf rest)

/-- A character is shown, unless it is a backslash in front of a bracket. -/
theorem shownOf_char {c : Char} {rest : List Piece}
    (h : c = '\\' → rest.head? ≠ some (.char '[')) :
    shownOf (.char c :: rest) = c :: shownOf rest := by
  rw [shownOf]
  rintro rest rfl hc
  exact h hc rfl

namespace Rendered

variable (r : Rendered)

/-- What is written one after the other is written as a whole. -/
theorem write_append (cs ds : List Char) : (r.write cs).write ds = r.write (cs ++ ds) := by
  simp only [write, List.reverse_append, List.append_assoc]

/-- **Literal pieces write what they show**, along the recursion of the rendering itself. -/
theorem pieces_literal_eq (ps : List Piece) (h : ∀ p ∈ ps, p.IsLiteral) :
    r.pieces ps = .ok (r.write (shownOf ps)) := by
  fun_induction pieces r ps with
  | case1 r => rfl
  | case2 r ps ih =>
    rw [ih fun p hp => h p (List.mem_cons_of_mem _ (List.mem_cons_of_mem _ hp)), write_append]
    rfl
  | case3 r c ps hnot ih =>
    rw [ih fun p hp => h p (List.mem_cons_of_mem _ hp), write_append, shownOf_char]
    · rfl
    · intro hc hhead
      obtain ⟨rest, rfl⟩ := List.head?_eq_some_iff.mp hhead
      exact hnot rest rfl hc
  | case4 r backslashes text ps written hodd ih =>
    rw [ih fun p hp => h p (List.mem_cons_of_mem _ hp)]
    simp only [written, write_append, shownOf, List.append_assoc]
  | case5 r backslashes text ps written hodd opened hread ih =>
    exact absurd (h _ List.mem_cons_self) hodd
  | case6 r backslashes text ps written hodd e hread =>
    exact absurd (h _ List.mem_cons_self) hodd

end Rendered

/-! ## Words in front -/

/-- **Words of the shell's own** that may stand in front of any text. -/
structure IsFront (front : List Char) : Prop where
  no_bracket : '[' ∉ front
  no_backslash : front.getLast? ≠ some '\\'

theorem IsFront.tail {c : Char} {front : List Char} (h : IsFront (c :: front)) :
    IsFront front where
  no_bracket hm := h.no_bracket (List.mem_cons_of_mem c hm)
  no_backslash := by
    cases front with
    | nil => exact fun hnil => nomatch hnil
    | cons d front => simpa only [List.getLast?_cons_cons] using h.no_backslash

/-- Words in front of words, of which the last ones stand in front of the text. -/
theorem IsFront.append {cs ds : List Char} (hcs : IsFront cs) (hds : IsFront ds) :
    IsFront (cs ++ ds) where
  no_bracket hm := (List.mem_append.mp hm).elim hcs.no_bracket hds.no_bracket
  no_backslash := by
    rw [List.getLast?_append]
    cases hlast : ds.getLast? with
    | none => exact hcs.no_backslash
    | some c => exact fun hc => hds.no_backslash (hlast.trans hc)

/-- What follows words of the shell's own is scanned by itself. -/
theorem scan_front {front : List Char} (h : IsFront front) (cs : List Char) (held : Nat) :
    (front = [] → held = 0) → scan 0 held (front ++ cs) =
      List.replicate held (.char '\\') ++ (front.map .char ++ scan 0 0 cs) := by
  induction front generalizing held with
  | nil =>
    intro hzero
    rw [hzero rfl]
    rfl
  | cons c front ih =>
    intro _
    by_cases hc : c = '\\'
    · subst hc
      have hne : front ≠ [] := fun hnil => h.no_backslash (hnil ▸ rfl)
      rw [List.cons_append, scan_backslash, ih h.tail _ fun hnil => absurd hnil hne,
        List.replicate_succ', List.append_assoc, List.map_cons]
      rfl
    · have hopen : c ≠ '[' := fun hopen => h.no_bracket (hopen ▸ List.mem_cons_self)
      rw [List.cons_append, scan_char hc (tag?_eq_none hopen _), ih h.tail 0 fun _ => rfl]
      rfl

/-- Words of the shell's own are pieces of their own, and the text behind them is as if it stood
alone. -/
theorem pieces_front {front : List Char} (h : IsFront front) (cs : List Char) :
    pieces (front ++ cs) = front.map .char ++ pieces cs :=
  scan_front h cs 0 fun _ => rfl

/-- They are shown as they are, since there is no bracket in them and no backslash in front of the
text. -/
theorem shownOf_front {front : List Char} (h : IsFront front) (ps : List Piece) :
    shownOf (front.map .char ++ ps) = front ++ shownOf ps := by
  induction front with
  | nil => rfl
  | cons c front ih =>
    rw [List.map_cons, List.cons_append, shownOf_char, ih h.tail, List.cons_append]
    rintro rfl hhead
    cases front with
    | nil => exact h.no_backslash rfl
    | cons d front =>
      have hd : d = '[' := Piece.char.inj (Option.some.inj hhead)
      exact h.no_bracket (hd ▸ List.mem_cons_of_mem _ List.mem_cons_self)

/-- Words of the shell's own by themselves are shown as they are. -/
theorem shownOf_pieces_front {front : List Char} (h : IsFront front) :
    shownOf (pieces front) = front := by
  have hpieces := pieces_front h []
  have hshown := shownOf_front h (pieces [])
  rw [List.append_nil] at hpieces
  rw [hpieces, hshown]
  exact List.append_nil front

/-! ## Text that is literal -/

/-- **A text all of which is literal.** -/
def IsLiteralText (cs : List Char) : Prop :=
  ∀ p ∈ pieces cs, p.IsLiteral

/-- Words in front of literal text leave it literal, -/
theorem IsLiteralText.behind {front cs : List Char} (hfront : IsFront front)
    (h : IsLiteralText cs) : IsLiteralText (front ++ cs) := by
  intro p hp
  rw [pieces_front hfront] at hp
  rcases List.mem_append.mp hp with hp | hp
  · obtain ⟨c, -, rfl⟩ := List.mem_map.mp hp
    trivial
  · exact h p hp

/-- **Escaped text is literal.** -/
theorem isLiteralText_escape (s : String) : IsLiteralText (escape s).toList := by
  obtain ⟨closing, hpieces⟩ := pieces_escape s
  intro p hp
  rw [hpieces] at hp
  rcases List.mem_append.mp hp with hp | hp
  · exact Piece.isLiteral_of_mem_literals hp
  · obtain ⟨c, -, rfl⟩ := List.mem_map.mp hp
    trivial

/-- and so do plain words behind it. -/
theorem IsLiteralText.append_plain {cs plain : List Char} (h : IsLiteralText cs)
    (hplain : IsPlain plain) : IsLiteralText (cs ++ plain) := by
  intro p hp
  rw [pieces, scan_append_plain hplain] at hp
  rcases List.mem_append.mp hp with hp | hp
  · exact h p hp
  · obtain ⟨c, -, rfl⟩ := List.mem_map.mp hp
    trivial

/-- Words of the shell's own are literal. -/
theorem IsFront.isLiteralText {front : List Char} (h : IsFront front) : IsLiteralText front := by
  have hnil : IsLiteralText [] := fun _ hp => nomatch hp
  rw [← List.append_nil front]
  exact hnil.behind h

/-- **Escaped text behind words of the shell's own can always be shown**, without any style. -/
theorem render_behind {markup : String} {front : List Char} {s : String} (hfront : IsFront front)
    (hmarkup : markup.toList = front ++ (escape s).toList) :
    render markup = .ok (.ofChars (front ++ shownOf (pieces (escape s).toList))) := by
  have hliteral := (isLiteralText_escape s).behind hfront
  rw [render_of_pieces (r := Rendered.write {} (front ++ shownOf (pieces (escape s).toList)))]
  · simp only [Rendered.write, List.append_nil, List.reverse_reverse]
  · rw [hmarkup, Rendered.pieces_literal_eq _ _ hliteral, pieces_front hfront,
      shownOf_front hfront]
  · rfl
  · rfl

/-- Escaped text by itself is shown as its pieces are. -/
theorem render_escape_eq (s : String) :
    render (escape s) = .ok (.ofChars (shownOf (pieces (escape s).toList))) := by
  have hempty : IsFront [] := ⟨List.not_mem_nil, fun hnil => nomatch hnil⟩
  have hrender := render_behind hempty (List.nil_append (escape s).toList).symm
  rwa [List.nil_append] at hrender

/-- Words of the shell's own at the beginning of a text are shown there when it is escaped. -/
theorem shownOf_escape_front {front : List Char} (hfront : IsFront front) {s : String}
    {cs : List Char} (hs : s.toList = front ++ cs) :
    ∃ rest, shownOf (pieces (escape s).toList) = front ++ rest := by
  have hchars : (front.map Piece.char).flatMap escapePiece = front := by
    rw [List.flatMap_map]
    exact List.flatMap_singleton' _
  have hescaped : ∃ behind, (escape s).toList = front ++ behind := by
    rw [escape, String.toList_ofList, escapeChars, hs, pieces_front hfront, List.flatMap_append,
      hchars]
    rcases closeEnd_cases (front ++ (pieces cs).flatMap escapePiece) with h | h
    · exact ⟨_, h⟩
    · exact ⟨_, h.trans (List.append_assoc ..)⟩
  obtain ⟨behind, hbehind⟩ := hescaped
  exact ⟨_, by rw [hbehind, pieces_front hfront, shownOf_front hfront]⟩

/-- Words of the shell's own are shown as they are. -/
theorem render_front {markup : String} (h : IsFront markup.toList) :
    render markup = .ok (.ofChars markup.toList) := by
  have hempty : (escape "").toList = [] := by
    decide
  rw [render_behind (s := "") h (by rw [hempty, List.append_nil]), hempty]
  exact congrArg (fun cs => Except.ok (Styled.ofChars cs)) (List.append_nil _)

/-! ## Between the tags of a style -/

/-- **The name of a style**, as a tag that is opened and closed by that name. -/
structure IsStyle (name : List Char) (style : Style) : Prop where
  opens : IsTag name
  closes : IsTag ('/' :: name)
  begins : name.head? ≠ some '/' ∧ name.head? ≠ some '@' ∧ name ≠ []
  no_parameters : '=' ∉ name
  stripped : Text.strip name = name
  normal : Style.normalForm name = .ok name
  named : Style.named name = .ok style

namespace IsStyle

variable {name : List Char} {style : Style}

/-- A style is called by its normal form, so the tag that opens it and the one that closes it agree.
-/
theorem normalName_eq (h : IsStyle name style) : Rendered.normalName name = .ok name := by
  rw [Rendered.normalName, h.normal]
  rfl

/-- There are no parameters in its tag, -/
theorem takeWhile_eq (h : IsStyle name style) : name.takeWhile (· ≠ '=') = name := by
  refine List.takeWhile_eq_self_iff.mpr fun c hc => ?_
  exact decide_eq_true fun heq => h.no_parameters (heq ▸ hc)

/-- so nothing is left behind the name. -/
theorem dropWhile_eq (h : IsStyle name style) : name.dropWhile (· ≠ '=') = [] := by
  refine List.dropWhile_eq_nil_iff.mpr fun c hc => ?_
  exact decide_eq_true fun heq => h.no_parameters (heq ▸ hc)

/-- The tag of a style opens it where the rendering has come to. -/
theorem readTag_open (h : IsStyle name style) (r : Rendered) :
    r.readTag name = .ok { r with opened := ⟨name, none, r.length⟩ :: r.opened } := by
  unfold Rendered.readTag
  rw [h.takeWhile_eq, h.dropWhile_eq]
  simp only
  split
  next => exact absurd rfl h.begins.1
  next =>
    rw [Rendered.openTag, h.normalName_eq]
    rfl

/-- And the closing tag ends it, when it is the innermost of those that are open. -/
theorem readTag_close (h : IsStyle name style) (r : Rendered) {start : Nat}
    {others : List OpenTag} (hopened : r.opened = ⟨name, none, start⟩ :: others) :
    r.readTag ('/' :: name) = .ok { r with
      opened := others, ended := ⟨start, r.length, some name⟩ :: r.ended } := by
  have hpartner : r.partner? name = .ok (some ⟨name, none, start⟩) := by
    unfold Rendered.partner?
    rw [hopened, if_neg (by simpa using h.begins.2.2), h.normalName_eq]
    simp only [bind, Except.bind, List.find?_cons_of_pos, beq_self_eq_true]
    rfl
  have haction : (OpenTag.mk name none start).isAction = false :=
    beq_eq_false_iff_ne.mpr h.begins.2.1
  unfold Rendered.readTag
  rw [List.takeWhile_cons_of_pos (by decide), List.dropWhile_cons_of_pos (by decide),
    h.takeWhile_eq, h.dropWhile_eq]
  simp only
  rw [Rendered.closeTag, h.stripped, hpartner]
  simp only [bind, Except.bind, haction, Bool.false_eq_true, if_false, hopened,
    List.erase_cons_head]
  rfl

end IsStyle

/-- **Text in one style** from end to end. -/
def Styled.allOver (style : Style) (chars : List Char) : Styled :=
  { chars, stretches := [⟨0, chars.length, style⟩] }

/-- Markup is shown as its pieces have been rendered. -/
theorem render_of_rendered {markup : String} {r : Rendered} {d : Defined} {stretch : Stretch}
    (h : Rendered.pieces {} (pieces markup.toList) = .ok r) (hdefined : r.defined = [d])
    (hstretch : d.stretch = .ok stretch) :
    render markup = .ok { chars := r.reversed.reverse, stretches := [stretch] } := by
  unfold render
  rw [h]
  simp only [bind, Except.bind, hdefined, List.mapM_cons, List.mapM_nil, hstretch]
  rfl

/-- The backslashes at the end of a text. -/
theorem exists_eq_append_backslashes (cs : List Char) :
    ∃ body k, cs = body ++ List.replicate k '\\' ∧ body.getLast? ≠ some '\\' := by
  induction cs using List.reverseRecOn with
  | nil => exact ⟨[], 0, rfl, fun h => nomatch h⟩
  | append_singleton cs c ih =>
    by_cases hc : c = '\\'
    · obtain ⟨body, k, rfl, hlast⟩ := ih
      exact ⟨body, k + 1, by rw [hc, List.replicate_succ', List.append_assoc], hlast⟩
    · refine ⟨cs ++ [c], 0, (List.append_nil _).symm, ?_⟩
      rw [List.getLast?_concat]
      exact fun h => hc (Option.some.inj h)

/-- The pieces of literal text between tags. -/
theorem pieces_styled {name body : List Char} {style : Style} (h : IsStyle name style) (k : Nat)
    (hlast : body.getLast? ≠ some '\\') :
    pieces (bracketed name ++ (body ++ (List.replicate k '\\' ++ bracketed ('/' :: name)))) =
      .tag 0 name :: (pieces body ++ [.tag k ('/' :: name)]) := by
  have htail : tagTail? (List.replicate k '\\' ++ bracketed ('/' :: name)) = none :=
    tagTail?_append_none (not_mem_backslashes k) rfl
  have hopen : tag? ('[' :: (List.replicate k '\\' ++ bracketed ('/' :: name))) = none := by
    cases k <;> rfl
  have hclose := scan_tag h.closes k []
  rw [List.append_nil] at hclose
  rw [pieces, scan_tag h.opens, scan_append htail hopen 0 body (Or.inr ⟨hlast, fun _ => rfl⟩),
    scan_backslashes, Nat.zero_add, hclose]
  rfl

/-- What the closing tag of a style comes to where that style alone is open, and has been from the
start: the style reaches to the end, whether the tag closes it or is taken for text. -/
theorem pieces_close {name : List Char} {style : Style} (h : IsStyle name style) (k : Nat)
    (cs : List Char) :
    let shown := cs ++ (List.replicate (k / 2) '\\' ++
      if k % 2 = 1 then bracketed ('/' :: name) else [])
    ∃ r, (Rendered.write { opened := [⟨name, none, 0⟩] } cs).pieces [.tag k ('/' :: name)] =
      .ok r ∧ r.reversed.reverse = shown ∧ r.defined = [⟨0, shown.length, some name⟩] := by
  intro shown
  let opened : Rendered := { opened := [⟨name, none, 0⟩] }
  by_cases hodd : k % 2 = 1
  · have hshown : shown =
        cs ++ (List.replicate (k / 2) '\\' ++ bracketed ('/' :: name)) := by
      simp only [shown, if_pos hodd]
    refine ⟨opened.write shown, ?_, ?_, ?_⟩
    · rw [Rendered.pieces, if_pos hodd, Rendered.write_append, Rendered.write_append, ← hshown]
      rfl
    · simp only [opened, Rendered.write, List.append_nil, List.reverse_reverse]
    · simp [opened, Rendered.defined, Rendered.write, Rendered.length, OpenTag.definition]
  · have hshown : shown = cs ++ List.replicate (k / 2) '\\' := by
      simp only [shown, if_neg hodd, List.append_nil]
    refine ⟨{ reversed := shown.reverse, ended := [⟨0, shown.length, some name⟩] }, ?_, ?_, ?_⟩
    · have hopened : (opened.write shown).opened = [⟨name, none, 0⟩] := rfl
      rw [Rendered.pieces_tag _ hodd, Rendered.write_append, ← hshown, h.readTag_close _ hopened]
      simp only [Except.bind, Rendered.pieces, Rendered.write, Rendered.length, opened,
        List.append_nil, List.length_reverse]
    · exact List.reverse_reverse shown
    · simp [Rendered.defined]

/-- **Literal text between the tags of a style** is shown in that style from end to end. Backslashes
at its end come to half as many; when their number is odd, the closing tag is shown behind them. -/
theorem render_styled {markup : String} {name body : List Char} {style : Style} {k : Nat}
    (h : IsStyle name style) (hbody : IsLiteralText body) (hlast : body.getLast? ≠ some '\\')
    (hmarkup : markup.toList =
      bracketed name ++ (body ++ (List.replicate k '\\' ++ bracketed ('/' :: name)))) :
    render markup = .ok (.allOver style (shownOf (pieces body) ++
      (List.replicate (k / 2) '\\' ++ if k % 2 = 1 then bracketed ('/' :: name) else []))) := by
  obtain ⟨r, hr, hreversed, hdefined⟩ := pieces_close h k (shownOf (pieces body))
  have hpieces : Rendered.pieces {} (pieces markup.toList) = .ok r := by
    have hbegins : Rendered.pieces {} (pieces markup.toList) =
        (Rendered.mk [] [⟨name, none, 0⟩] []).pieces
          (pieces body ++ [.tag k ('/' :: name)]) := by
      rw [hmarkup, pieces_styled h k hlast, Rendered.pieces_tag _ (by decide), h.readTag_open]
      rfl
    rw [hbegins, Rendered.pieces_append _ _ (by simp), Rendered.pieces_literal_eq _ _ hbody]
    exact hr
  have hstretch (stop : Nat) : (Defined.mk 0 stop (some name)).stretch = .ok ⟨0, stop, style⟩ := by
    simp only [Defined.stretch, h.named]
    rfl
  rw [render_of_rendered hpieces hdefined (hstretch _), hreversed]
  rfl

theorem isPlain_backslashes (k : Nat) : IsPlain (List.replicate k '\\') := by
  intro c hc
  rw [List.eq_of_mem_replicate hc]
  decide

/-- Literal text stays so without the backslashes at its end. -/
theorem IsLiteralText.of_append_backslashes {body : List Char} {k : Nat}
    (h : IsLiteralText (body ++ List.replicate k '\\')) (hlast : body.getLast? ≠ some '\\') :
    IsLiteralText body := by
  intro p hp
  refine h p ?_
  have hplain := isPlain_backslashes k
  rw [pieces, scan_append hplain.tagTail? hplain.tag? 0 body (Or.inr ⟨hlast, fun _ => rfl⟩)]
  exact List.mem_append_left _ hp

/-- **Any literal text between the tags of a style can be shown**, in that style from end to end.
When no backslash stands at its end, it is shown as what it is. -/
theorem render_between {markup : String} {name cs : List Char} {style : Style}
    (h : IsStyle name style) (hcs : IsLiteralText cs)
    (hmarkup : markup.toList = bracketed name ++ (cs ++ bracketed ('/' :: name))) :
    ∃ shown, render markup = .ok (.allOver style shown) ∧
      (cs.getLast? ≠ some '\\' → shown = shownOf (pieces cs)) := by
  obtain ⟨body, k, rfl, hlast⟩ := exists_eq_append_backslashes cs
  rw [List.append_assoc] at hmarkup
  refine ⟨_, render_styled h (hcs.of_append_backslashes hlast) hlast hmarkup, ?_⟩
  intro hend
  cases k with
  | zero =>
    rw [List.replicate_zero, List.append_nil]
    exact List.append_nil _
  | succ k =>
    rw [List.replicate_succ', ← List.append_assoc, List.getLast?_concat] at hend
    exact absurd rfl hend

/-! ## Text that is shown as it is -/

/-- **A text that is kept** when it is escaped and shown: no backslash in it stands in front of an
opening bracket or at the end. -/
def IsKept (cs : List Char) : Prop :=
  ¬ ['\\', '['] <:+: cs ∧ cs.getLast? ≠ some '\\'

instance (cs : List Char) : Decidable (IsKept cs) :=
  inferInstanceAs (Decidable (_ ∧ _))

/-- A text without backslashes is kept. -/
theorem isKept_of_not_mem {cs : List Char} (h : '\\' ∉ cs) : IsKept cs := by
  constructor
  · intro hin
    exact h (hin.subset List.mem_cons_self)
  · intro hlast
    exact h (List.mem_of_getLast? hlast)

/-- What is kept of a text that is kept, cut off at its front. -/
theorem IsKept.of_append (front : List Char) {cs : List Char} (h : IsKept (front ++ cs)) :
    IsKept cs := by
  refine ⟨fun hin => h.1 (hin.trans (List.suffix_append front cs).isInfix), fun hlast => h.2 ?_⟩
  rw [List.getLast?_append, hlast, Option.some_or]

/-- A bracket in a kept text has no backslash in front of it. -/
theorem IsKept.eq_zero {held : Nat} {rest : List Char}
    (h : IsKept (List.replicate held '\\' ++ '[' :: rest)) : held = 0 := by
  cases held with
  | zero => rfl
  | succ held =>
    refine absurd ⟨List.replicate held '\\', rest, ?_⟩ h.1
    -- the last backslash and the bracket are the two that may not stand together
    rw [List.replicate_succ', List.append_assoc, List.append_assoc]
    rfl

/-- Backslashes in front of a character are shown, except the last one in front of a bracket. -/
theorem shownOf_backslashes {held : Nat} {c : Char} (rest : List Piece) (hc : c ≠ '\\')
    (h : c = '[' → held = 0) :
    shownOf (List.replicate held (.char '\\') ++ .char c :: rest) =
      List.replicate held '\\' ++ c :: shownOf rest := by
  induction held with
  | zero => exact shownOf_char fun heq => absurd heq hc
  | succ held ih =>
    have hopen : c ≠ '[' := fun heq => Nat.succ_ne_zero held (h heq)
    rw [List.replicate_succ, List.cons_append, shownOf_char, ih fun heq => absurd heq hopen]
    · rfl
    · intro _ hhead
      cases held with
      | zero => exact hopen (Piece.char.inj (Option.some.inj hhead))
      | succ held => cases hhead

/-- The pieces of a kept text show it once they have been made literal. -/
theorem shownOf_literals (held : Nat) (cs : List Char) :
    IsKept (List.replicate held '\\' ++ cs) →
      shownOf ((scan 0 held cs).map Piece.literal) = List.replicate held '\\' ++ cs := by
  induction held, cs using scan_induction with
  | nil held =>
    intro h
    cases held with
    | zero => rfl
    | succ held =>
      rw [List.append_nil, List.replicate_succ'] at h
      exact absurd List.getLast?_concat h.2
  | backslash held cs ih =>
    intro h
    have hmove : List.replicate held '\\' ++ '\\' :: cs = List.replicate (held + 1) '\\' ++ cs := by
      rw [List.replicate_succ', List.append_assoc]
      rfl
    rw [hmove] at h ⊢
    rw [scan_backslash, ih h]
  -- a kept text has no backslash in front of a tag, so none is doubled and none is dropped
  | tag held text cs htext ih =>
    intro h
    obtain rfl := h.eq_zero
    have hrest : IsKept cs := IsKept.of_append (bracketed text) h
    rw [scan_tag htext, List.map_cons, Piece.literal, shownOf, ih hrest]
    rfl
  | char held c cs hc htag ih =>
    intro h
    -- only a bracket would lose a backslash
    have hopen : c = '[' → held = 0 := by
      rintro rfl
      exact h.eq_zero
    have hrest : IsKept cs :=
      IsKept.of_append (List.replicate held '\\' ++ [c]) (by simpa using h)
    rw [scan_char hc htag, List.map_append, List.map_cons, List.map_replicate, Piece.literal,
      Piece.literal, shownOf_backslashes _ hc hopen, ih hrest]
    rfl

/-- Escaping keeps the last character of a text. -/
theorem getLast?_escapedFrom (held : Nat) (cs : List Char) :
    (escapedFrom held cs).getLast? = (List.replicate held '\\' ++ cs).getLast? := by
  induction held, cs using scan_induction with
  | nil held => rw [escapedFrom_nil, List.append_nil]
  | backslash held cs ih =>
    rw [escapedFrom_backslash, ih, List.replicate_succ', List.append_assoc]
    rfl
  | tag held text cs htext ih =>
    have hend : (bracketed text).getLast? = some ']' := List.getLast?_concat
    simp only [escapedFrom_tag htext, List.getLast?_append, ih, hend, List.replicate_zero,
      List.nil_append, Option.or_assoc, Option.some_or]
  | char held c cs hc htag ih =>
    simp only [escapedFrom_char hc htag, List.getLast?_append, List.getLast?_cons, ih,
      List.replicate_zero, List.nil_append]

/-- A text that does not end in a backslash is written as its pieces are. -/
theorem toList_escape {s : String} (h : s.toList.getLast? ≠ some '\\') :
    (escape s).toList = escapedFrom 0 s.toList := by
  rw [escape, String.toList_ofList, escapeChars]
  exact closeEnd_of_getLast? fun hlast => h ((getLast?_escapedFrom 0 s.toList).symm.trans hlast)

/-- **A kept text is shown as it is.** -/
theorem shownOf_escape {s : String} (h : IsKept s.toList) :
    shownOf (pieces (escape s).toList) = s.toList := by
  rw [toList_escape h.2, pieces, scan_escaped]
  exact shownOf_literals 0 s.toList h

/-! ## Literal text around a style -/

section

variable {name front body behind : List Char} {style : Style}

/-- **Text of which one part is in a style.** -/
def Styled.within (front : List Char) (style : Style) (body behind : List Char) : Styled :=
  { chars := front ++ (body ++ behind)
    stretches := [⟨front.length, front.length + body.length, style⟩] }

/-- The pieces of literal text around a style and in it. -/
theorem pieces_within (h : IsStyle name style) (hfront : IsFront front)
    (hlast : body.getLast? ≠ some '\\') :
    pieces (front ++ (bracketed name ++ (body ++ (bracketed ('/' :: name) ++ behind)))) =
      front.map .char ++ .tag 0 name :: (pieces body ++ .tag 0 ('/' :: name) :: pieces behind) := by
  have hopen : tag? ('[' :: (bracketed ('/' :: name) ++ behind)) = none := rfl
  rw [pieces_front hfront, pieces, scan_tag h.opens,
    scan_append rfl hopen 0 body (Or.inr ⟨hlast, fun _ => rfl⟩), scan_tag h.closes]
  rfl

/-- **Literal text around a style and in it can be shown**: the tags take no room, and what stands
between them is in the style. -/
theorem render_within {markup : String} (h : IsStyle name style) (hfront : IsFront front)
    (hbody : IsLiteralText body) (hlast : body.getLast? ≠ some '\\')
    (hbehind : IsLiteralText behind)
    (hmarkup : markup.toList =
      front ++ (bracketed name ++ (body ++ (bracketed ('/' :: name) ++ behind)))) :
    render markup =
      .ok (.within front style (shownOf (pieces body)) (shownOf (pieces behind))) := by
  let shown := shownOf (pieces body)
  let opened : Rendered := { reversed := front.reverse, opened := [⟨name, none, front.length⟩] }
  let closed : Rendered := {
    reversed := (front ++ shown).reverse
    ended := [⟨front.length, front.length + shown.length, some name⟩] }
  -- The rendering is followed from piece to piece: `front`, the tag, `body`, the tag, `behind`.
  have hopen : (Rendered.write {} front).readTag name = .ok opened := by
    rw [h.readTag_open]
    simp only [Rendered.write, Rendered.length, List.append_nil, List.length_reverse]
    rfl
  have hclose : (opened.write shown).readTag ('/' :: name) = .ok closed := by
    have hopened : opened.opened = ⟨name, none, front.length⟩ :: [] := rfl
    rw [h.readTag_close (opened.write shown) hopened]
    simp only [opened, closed, Rendered.write, Rendered.length, List.reverse_append,
      List.length_append, List.length_reverse, Nat.add_comm]
  have hfirst : Rendered.pieces {} (front.map .char) = .ok (Rendered.write {} front) := by
    have hshown := shownOf_front hfront []
    rw [List.append_nil] at hshown
    rw [Rendered.pieces_literal_eq, hshown, shownOf, List.append_nil]
    intro p hp
    obtain ⟨c, -, rfl⟩ := List.mem_map.mp hp
    trivial
  have hpieces : Rendered.pieces {} (pieces markup.toList) =
      .ok (closed.write (shownOf (pieces behind))) := by
    rw [hmarkup, pieces_within h hfront hlast, Rendered.pieces_append _ _ (by simp), hfirst]
    change (Rendered.write {} front).pieces (.tag 0 name :: _) = _
    rw [Rendered.pieces_tag _ (by decide)]
    change ((Rendered.write {} front).readTag name).bind _ = _
    rw [hopen]
    change opened.pieces (pieces body ++ .tag 0 ('/' :: name) :: pieces behind) = _
    rw [Rendered.pieces_append _ _ (by simp), Rendered.pieces_literal_eq _ _ hbody]
    change (opened.write shown).pieces (.tag 0 ('/' :: name) :: _) = _
    rw [Rendered.pieces_tag _ (by decide)]
    change ((opened.write shown).readTag ('/' :: name)).bind _ = _
    rw [hclose]
    exact Rendered.pieces_literal_eq closed _ hbehind
  have hdefined : (closed.write (shownOf (pieces behind))).defined =
      [⟨front.length, front.length + shown.length, some name⟩] := by
    simp [closed, Rendered.defined, Rendered.write]
  have hstretch : Defined.stretch ⟨front.length, front.length + shown.length, some name⟩ =
      .ok ⟨front.length, front.length + shown.length, style⟩ := by
    simp only [Defined.stretch, h.named]
    rfl
  rw [render_of_rendered hpieces hdefined hstretch]
  simp [closed, shown, Rendered.write, Styled.within]

/-- Plain words behind literal pieces are shown behind them. -/
theorem shownOf_append_plain {plain : List Char} (hplain : IsPlain plain) (ps : List Piece) :
    shownOf (ps ++ plain.map .char) = shownOf ps ++ plain := by
  have hhead : ∀ cs : List Char, IsPlain cs → (cs.map Piece.char).head? ≠ some (.char '[') := by
    intro cs hcs
    cases cs with
    | nil => nofun
    | cons c cs => simpa using (hcs c List.mem_cons_self).1
  fun_induction shownOf ps with
  | case1 =>
    induction plain with
    | nil => rfl
    | cons c plain ih =>
      have hrest : IsPlain plain := fun d hd => hplain d (List.mem_cons_of_mem c hd)
      rw [List.nil_append, List.map_cons, shownOf_char fun _ => hhead plain hrest]
      exact congrArg (c :: ·) (ih hrest)
  | case2 rest ih =>
    rw [List.cons_append, List.cons_append, shownOf, ih]
    rfl
  | case3 c rest hnot ih =>
    rw [List.cons_append, shownOf_char, ih]
    · rfl
    · intro hc
      cases rest with
      | nil => exact hhead plain hplain
      | cons p rest =>
        intro hp
        exact hnot rest (congrArg (· :: rest) (Option.some.inj hp)) hc
  | case4 backslashes text rest ih =>
    rw [List.cons_append, shownOf, ih, List.append_assoc, List.append_assoc]

end

/-! ## The styles the shell uses -/

/-- The style of what went wrong. -/
def Style.red : Style := { colour := some ⟨"red", .numbered 1⟩ }

/-- The style of a warning. -/
def Style.yellow : Style := { colour := some ⟨"yellow", .numbered 3⟩ }

/-- The style of what matters less. -/
def Style.dim : Style := { switches := [(.dim, true)] }

/-- The style of a link in a listing, -/
def Style.cyan : Style := { colour := some ⟨"cyan", .numbered 6⟩ }

/-- and that of a directory. -/
def Style.boldCyan : Style := { Style.cyan with switches := [(.bold, true)] }

theorem isStyle_red : IsStyle "red".toList .red where
  opens _ := rfl
  closes _ := rfl
  begins := by decide
  no_parameters := by decide
  stripped := by decide
  normal := by rfl
  named := by rfl

theorem isStyle_yellow : IsStyle "yellow".toList .yellow where
  opens _ := rfl
  closes _ := rfl
  begins := by decide
  no_parameters := by decide
  stripped := by decide
  normal := by rfl
  named := by rfl

theorem isStyle_dim : IsStyle "dim".toList .dim where
  opens _ := rfl
  closes _ := rfl
  begins := by decide
  no_parameters := by decide
  stripped := by decide
  normal := by rfl
  named := by rfl

theorem isStyle_cyan : IsStyle "cyan".toList .cyan where
  opens _ := rfl
  closes _ := rfl
  begins := by decide
  no_parameters := by decide
  stripped := by decide
  normal := by decide +kernel
  named := by decide +kernel

theorem isStyle_boldCyan : IsStyle "bold cyan".toList .boldCyan where
  opens _ := rfl
  closes _ := rfl
  begins := by decide
  no_parameters := by decide
  stripped := by decide
  normal := by decide +kernel
  named := by decide +kernel

/-! ## The lines -/

/-- **A line in a style**, of words of the shell's own and a text that has been escaped: it can
always be shown, and shows a kept text as it is. -/
theorem render_report {markup : String} {name front : List Char} {style : Style} {s : String}
    (h : IsStyle name style) (hfront : IsFront front)
    (hmarkup : markup.toList =
      bracketed name ++ (front ++ (escape s).toList ++ bracketed ('/' :: name))) :
    ∃ shown, render markup = .ok (.allOver style shown) ∧
      (IsKept s.toList → shown = front ++ s.toList) := by
  obtain ⟨shown, hrender, hshown⟩ :=
    render_between h ((isLiteralText_escape s).behind hfront) hmarkup
  refine ⟨shown, hrender, fun hkept => ?_⟩
  rw [hshown, pieces_front hfront, shownOf_front hfront, shownOf_escape hkept]
  rw [toList_escape hkept.2, List.getLast?_append, getLast?_escapedFrom]
  cases hlast : s.toList.getLast? with
  | none => simpa [hlast] using hfront.no_backslash
  | some c => simpa [hlast] using hkept.2

/-- Words of the shell's own at the beginning of a line in a style are shown there, whatever the
text behind them is. -/
theorem front_of_render_report {markup : String} {name front shown : List Char} {style : Style}
    {s : String} (h : IsStyle name style) (hfront : IsFront front)
    (hmarkup : markup.toList =
      bracketed name ++ (front ++ (escape s).toList ++ bracketed ('/' :: name)))
    (hrender : render markup = .ok (.allOver style shown)) : front <+: shown := by
  obtain ⟨body, k, hbody, hlast⟩ := exists_eq_append_backslashes (escape s).toList
  have hliteral := (isLiteralText_escape s).behind hfront
  have hend : (front ++ body).getLast? ≠ some '\\' := by
    rw [List.getLast?_append]
    cases hbodyLast : body.getLast? with
    | none => exact hfront.no_backslash
    | some c => exact fun hc => hlast (hbodyLast.trans hc)
  -- the escaped text may end in backslashes, which are counted with the tag and not with the words
  rw [hbody, ← List.append_assoc] at hliteral
  rw [hbody] at hmarkup
  have hstyled := render_styled (k := k) h (hliteral.of_append_backslashes hend) hend
    (hmarkup.trans (by simp only [List.append_assoc]))
  rw [hrender, pieces_front hfront, shownOf_front hfront] at hstyled
  have hshown := congrArg Styled.chars (Except.ok.inj hstyled)
  exact ⟨_, (List.append_assoc ..).symm.trans hshown.symm⟩

end NamenodeShell.Markup
