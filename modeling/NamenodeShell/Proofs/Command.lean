import Mathlib.Data.List.TakeWhile
import NamenodeShell.Command

/-!
# How lines are read that are put together

What is read of a text without its blanks is settled by where the blanks are: the first word is the
first maximal run of other characters (`Text.firstWord_eq_iff`), and a text is stripped when no
blank is left at either end (`Text.strip_eq_iff`).

The reader of lines goes from quote to quote. Behind an even number of quotes it is outside of all
pairs, so what stands there is read as if nothing stood in front of it (`quotedTexts_append`); each
pair gives one text (`length_quotedTexts`), and a text without quotes between two of them is read as
it is (`quotedTexts_closed`). So where a quote stands behind an even number of others, the name and
the arguments in front of it are settled, whatever follows (`ofLine_name`, `ofLine_args`).
-/
set_option autoImplicit false

namespace NamenodeShell

/-! ## Words and blanks -/

namespace Text

/-- Nothing but blanks. -/
def IsBlanks (cs : List Char) : Prop :=
  ∀ c ∈ cs, isBlank c = true

/-- **The first maximal run of characters that are not blank**: blanks in front of it, and behind it
nothing or a blank. It is empty only if there is no other. -/
structure IsFirstWord (word cs : List Char) : Prop where
  solid : ∀ c ∈ word, isBlank c = false
  maximal : ∃ before behind, cs = before ++ (word ++ behind) ∧ IsBlanks before ∧
    (∀ c ∈ behind.head?, isBlank c = true) ∧ (word = [] → behind = [])

/-- **A text without the blanks around it**: no blank is left at either end. -/
structure IsStripped (name cs : List Char) : Prop where
  front : ∀ c ∈ name.head?, isBlank c = false
  back : ∀ c ∈ name.getLast?, isBlank c = false
  cut : ∃ before behind, cs = before ++ (name ++ behind) ∧ IsBlanks before ∧ IsBlanks behind

/-- Blanks are blanks from behind too, which is how the end of a text is stripped. -/
theorem IsBlanks.reverse {cs : List Char} (h : IsBlanks cs) : IsBlanks cs.reverse :=
  fun c hc => h c (List.mem_reverse.mp hc)

/-- Blanks in front of a text are dropped with those it begins with. -/
theorem dropBlanks_append {blanks : List Char} (h : IsBlanks blanks) (cs : List Char) :
    dropBlanks (blanks ++ cs) = dropBlanks cs :=
  List.dropWhile_append_of_pos h

/-- Of nothing but blanks nothing is left. -/
theorem dropBlanks_blanks {blanks : List Char} (h : IsBlanks blanks) : dropBlanks blanks = [] :=
  List.dropWhile_eq_nil_iff.mpr h

/-- Nothing is dropped in front of a character that is not blank. -/
theorem dropBlanks_of_front {cs : List Char} (h : ∀ c ∈ cs.head?, isBlank c = false) :
    dropBlanks cs = cs := by
  cases cs with
  | nil => rfl
  | cons c cs => exact List.dropWhile_cons_of_neg (by rw [h c rfl]; exact Bool.false_ne_true)

/-- The first character that is left does not fall under what is dropped. -/
theorem front_dropWhile (p : Char → Bool) (cs : List Char) :
    ∀ c ∈ (cs.dropWhile p).head?, p c = false := by
  intro c hc
  have hfind : cs.find? (fun c => !p c) = some c := by
    rw [List.find?_eq_head?_dropWhile_not]
    simp only [Bool.not_not]
    exact hc
  simpa only [Bool.not_eq_true'] using List.find?_some hfind

/-- What is dropped are blanks. -/
theorem exists_before (cs : List Char) :
    ∃ before, cs = before ++ dropBlanks cs ∧ IsBlanks before :=
  ⟨cs.takeWhile isBlank, List.takeWhile_append_dropWhile.symm, fun _ => List.mem_takeWhile_imp⟩

/-- **The first word is what its specification says**, and no other word meets that. -/
theorem firstWord_eq_iff {word cs : List Char} : firstWord cs = word ↔ IsFirstWord word cs := by
  constructor
  · rintro rfl
    obtain ⟨before, hcs, hbefore⟩ := exists_before cs
    constructor
    case solid =>
      exact fun c hc => by simpa only [Bool.not_eq_true'] using List.mem_takeWhile_imp hc
    case maximal =>
      refine ⟨before, (dropBlanks cs).dropWhile (fun c => !isBlank c), ?_, hbefore, ?_, ?_⟩
      · rwa [firstWord, List.takeWhile_append_dropWhile]
      · exact fun c hc => by simpa only [Bool.not_eq_false'] using front_dropWhile _ _ c hc
      -- Were the word empty with something left, that would begin with a blank, which would have
      -- been dropped.
      · intro hempty
        cases hrest : dropBlanks cs with
        | nil => rfl
        | cons c rest =>
          have hsolid : isBlank c = false :=
            front_dropWhile isBlank cs c (by rw [← dropBlanks, hrest]; rfl)
          rw [firstWord, hrest, List.takeWhile_cons, hsolid] at hempty
          cases hempty
  · rintro ⟨hsolid, before, behind, rfl, hbefore, hbehind, hempty⟩
    rw [firstWord, dropBlanks_append hbefore]
    cases word with
    | nil => rw [hempty rfl]; rfl
    | cons c word =>
      have hfront : ∀ d ∈ (c :: word ++ behind).head?, isBlank d = false := by
        rintro d ⟨⟩
        exact hsolid c List.mem_cons_self
      rw [dropBlanks_of_front hfront,
        List.takeWhile_append_of_pos fun d hd => by rw [hsolid d hd]; rfl]
      cases behind with
      | nil => rw [List.takeWhile_nil, List.append_nil]
      | cons d behind => rw [List.takeWhile_cons, hbehind d rfl]; exact List.append_nil _

/-- **Stripping is what its specification says**: it takes the blanks from both ends and nothing
else. -/
theorem strip_eq_iff {name cs : List Char} : strip cs = name ↔ IsStripped name cs := by
  constructor
  · rintro rfl
    obtain ⟨before, hcs, hbefore⟩ := exists_before cs
    -- The blanks at the end are those at the front of the reversed text.
    obtain ⟨ahead, hreverse, hahead⟩ := exists_before (dropBlanks cs).reverse
    have hkept : dropBlanks cs = strip cs ++ ahead.reverse := by
      rw [← List.reverse_reverse (dropBlanks cs), hreverse, List.reverse_append]
      rfl
    constructor
    case front =>
      intro c hc
      refine front_dropWhile isBlank cs c ?_
      rw [← dropBlanks, hkept, List.head?_append, hc]
      rfl
    case back =>
      intro c hc
      rw [strip, List.getLast?_reverse] at hc
      exact front_dropWhile isBlank _ c hc
    case cut => exact ⟨before, ahead.reverse, by rw [← hkept, ← hcs], hbefore, hahead.reverse⟩
  · rintro ⟨hfront, hback, before, behind, rfl, hbefore, hbehind⟩
    rw [strip, dropBlanks_append hbefore]
    cases name with
    | nil => rw [List.nil_append, dropBlanks_blanks hbehind]; rfl
    | cons c name =>
      have hkept : dropBlanks (c :: name ++ behind) = c :: name ++ behind :=
        dropBlanks_of_front hfront
      rw [hkept, List.reverse_append, dropBlanks_append hbehind.reverse,
        dropBlanks_of_front (by rwa [List.head?_reverse]), List.reverse_reverse]

end Text

namespace Command

/-! ## Texts between quotes -/

/-- The number of quotes that are open: one inside a pair. -/
def opened : Option (List Char) → Nat
  | none => 0
  | some _ => 1

/-- Outside of all pairs no quote is open. -/
@[simp]
theorem opened_none : opened none = 0 := rfl

/-- Inside a pair one is. -/
@[simp]
theorem opened_some (held : List Char) : opened (some held) = 1 := rfl

/-- **Behind an even number of quotes** what follows is read by itself. -/
theorem quotedTexts_append (held : Option (List Char)) (xs ys : List Char)
    (heven : (opened held + xs.count '"') % 2 = 0) :
    quotedTexts held (xs ++ ys) = quotedTexts held xs ++ quotedTexts none ys := by
  fun_induction quotedTexts held xs with
  | case1 held =>
    cases held with
    | none => rfl
    -- An open quote would make the number odd.
    | some held => cases heven
  | case2 rest ih =>
    rw [List.count_cons_self] at heven
    rw [List.cons_append, quotedTexts, if_pos rfl]
    exact ih (by simp only [opened_none, opened_some] at heven ⊢; omega)
  | case3 c rest hc ih =>
    rw [List.count_cons_of_ne hc] at heven
    rw [List.cons_append, quotedTexts, if_neg hc]
    exact ih heven
  | case4 held rest ih =>
    rw [List.count_cons_self] at heven
    rw [List.cons_append, quotedTexts, if_pos rfl, List.cons_append]
    exact congrArg _ (ih (by simp only [opened_none, opened_some] at heven ⊢; omega))
  | case5 held c rest hc ih =>
    rw [List.count_cons_of_ne hc] at heven
    rw [List.cons_append, quotedTexts, if_neg hc]
    exact ih heven

/-- **Each pair of quotes gives one text.** -/
theorem length_quotedTexts (held : Option (List Char)) (cs : List Char) :
    (quotedTexts held cs).length = (opened held + cs.count '"') / 2 := by
  fun_induction quotedTexts held cs with
  | case1 held => cases held <;> simp
  | case2 rest ih =>
    rw [List.count_cons_self, ih]
    simp only [opened_none, opened_some]
    omega
  | case3 c rest hc ih => rw [List.count_cons_of_ne hc, ih]
  | case4 held rest ih =>
    rw [List.length_cons, List.count_cons_self, ih]
    simp only [opened_none, opened_some]
    omega
  | case5 held c rest hc ih =>
    rw [List.count_cons_of_ne hc, ih]
    rfl

/-- A quote without a partner opens nothing. -/
theorem quotedTexts_of_not_mem (held : Option (List Char)) {cs : List Char} (h : '"' ∉ cs) :
    quotedTexts held cs = [] := by
  -- There are half as many texts as quotes, and half of one is none.
  rw [← List.length_eq_zero_iff, length_quotedTexts, List.count_eq_zero_of_not_mem h]
  cases held <;> simp

/-- **What stands between two quotes** is read as it is. -/
theorem quotedTexts_closed (held : List Char) {cs : List Char} (h : '"' ∉ cs) (rest : List Char) :
    quotedTexts (some held) (cs ++ '"' :: rest) =
      (held.reverse ++ cs) :: quotedTexts none rest := by
  induction cs generalizing held with
  | nil => rw [List.nil_append, quotedTexts, if_pos rfl, List.append_nil]
  | cons c cs ih =>
    rw [List.mem_cons, not_or] at h
    rw [List.cons_append, quotedTexts, if_neg (Ne.symm h.1), ih _ h.2, List.reverse_cons,
      List.append_assoc]
    rfl

/-! ## Lines with a quote in them -/

/-- What is in front of a quote does not depend on what is behind it. -/
theorem takeWhile_quote (front rest : List Char) :
    (front ++ '"' :: rest).takeWhile (· ≠ '"') = front.takeWhile (· ≠ '"') := by
  induction front with
  | nil => rfl
  | cons c front ih =>
    rw [List.cons_append, List.takeWhile_cons, List.takeWhile_cons, ih]

/-- The name on a line is settled by what stands in front of any quote. -/
theorem nameOf_append (front rest : List Char) :
    nameOf (front ++ '"' :: rest) = Text.strip (front.takeWhile (· ≠ '"')) := by
  unfold nameOf
  rw [if_pos (List.mem_append_right _ List.mem_cons_self), takeWhile_quote]

/-- The name on a line with a quote is what is in front of the first one, without the blanks around
it. -/
theorem ofLine_name (front rest : List Char) :
    (ofLine (.ofList (front ++ '"' :: rest))).name =
      .ofList (Text.strip (front.takeWhile (· ≠ '"'))) := by
  simp only [ofLine, String.toList_ofList, nameOf_append]

/-- **The arguments on a line** with a quote behind an even number of others: those in front, and
what is read behind an open quote. -/
theorem ofLine_args {front : List Char} (heven : front.count '"' % 2 = 0) (rest : List Char) :
    (ofLine (.ofList (front ++ '"' :: rest))).args =
      ((quotedTexts none front ++ quotedTexts (some []) rest).take maxArgs).map .ofList := by
  have hopen : quotedTexts none ('"' :: rest) = quotedTexts (some []) rest := by
    rw [quotedTexts, if_pos rfl]
  simp only [ofLine, String.toList_ofList]
  rw [quotedTexts_append _ _ _ (by rwa [opened_none, Nat.zero_add]), hopen]

/-- **What is read behind an open quote** is the argument behind those in front, if there is room
for it. -/
theorem ofLine_args_behind {front rest x : List Char} {xs : List (List Char)}
    (heven : front.count '"' % 2 = 0) (hroom : (quotedTexts none front).length < maxArgs)
    (hread : quotedTexts (some []) rest = x :: xs) :
    (ofLine (.ofList (front ++ '"' :: rest))).args.take (quotedTexts none front).length =
        (quotedTexts none front).map .ofList ∧
      (ofLine (.ofList (front ++ '"' :: rest))).args[(quotedTexts none front).length]? =
        some (.ofList x) := by
  rw [ofLine_args heven, hread]
  constructor
  · rw [← List.map_take, List.take_take, Nat.min_eq_left (Nat.le_of_lt hroom), List.take_left]
  · rw [List.getElem?_map, List.getElem?_take_of_lt hroom,
      List.getElem?_append_right (Nat.le_refl _), Nat.sub_self]
    rfl

/-- The arguments in front are all there are while nothing is closed behind the quote. -/
theorem ofLine_args_open {front rest : List Char} (heven : front.count '"' % 2 = 0)
    (hroom : (quotedTexts none front).length < maxArgs) (hrest : '"' ∉ rest) :
    (ofLine (.ofList (front ++ '"' :: rest))).args = (quotedTexts none front).map .ofList := by
  rw [ofLine_args heven, quotedTexts_of_not_mem _ hrest, List.append_nil,
    List.take_of_length_le (Nat.le_of_lt hroom)]

/-! ## Lines without a quote -/

/-- **Blanks and a word** are read as that word, which has no arguments. -/
theorem ofLine_word {blanks word : List Char} (hblanks : ∀ c ∈ blanks, Text.isBlank c = true)
    (hword : ∀ c ∈ word, Text.isBlank c = false ∧ c ≠ '"') :
    ofLine (.ofList (blanks ++ word)) = ⟨.ofList word, []⟩ := by
  have hquote : '"' ∉ blanks ++ word := by
    rw [List.mem_append, not_or]
    exact ⟨fun h => absurd (hblanks _ h) (by decide), fun h => (hword _ h).2 rfl⟩
  have hfirst : Text.firstWord (blanks ++ word) = word := by
    refine Text.firstWord_eq_iff.mpr ⟨fun c hc => (hword c hc).1, blanks, [], ?_, hblanks, ?_, ?_⟩
    · rw [List.append_nil]
    · exact fun c hc => nomatch hc
    · exact fun _ => rfl
  simp only [ofLine, String.toList_ofList, nameOf, if_neg hquote, hfirst,
    quotedTexts_of_not_mem none hquote]
  rfl

end Command

end NamenodeShell
