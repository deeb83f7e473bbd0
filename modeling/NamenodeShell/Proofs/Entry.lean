import NamenodeShell.Entry

/-!
# Entries in order

The order of texts is one: of two texts one may stand before the other, and what may stand before
something may stand before all that this may stand before (`inOrder_total`, `inOrder_trans`). This
is so because no two characters have one code, a half kept as another character included
(`codeOf_injective`). So entries put in order of names are the same entries, in that order
(`alphabetical_perm`, `alphabetical_sorted`).
-/
set_option autoImplicit false

namespace NamenodeShell

namespace Text

/-- Codes below the halves and above them are no halves. -/
theorem isHalfCode_eq_false {code : Nat} (h : code < 0xD800 ∨ 0xDFFF < code) :
    isHalfCode code = false := by
  simp only [isHalfCode, Bool.and_eq_false_iff, decide_eq_false_iff_not, Nat.not_le]
  exact h

/-- No character has the code of a half for its number. -/
theorem isHalfCode_toNat (c : Char) : isHalfCode c.toNat = false :=
  isHalfCode_eq_false (c.valid.imp_right And.left)

/-- A character that is kept for a half has the code of the half, -/
theorem codeOf_of_half {c : Char} (h : isHalfCode (c.toNat - halfOffset) = true) :
    codeOf c = c.toNat - halfOffset := by
  rw [codeOf, halfCode?, if_pos h, Option.getD_some]

/-- and any other has its own. -/
theorem codeOf_of_not_half {c : Char} (h : isHalfCode (c.toNat - halfOffset) = false) :
    codeOf c = c.toNat := by
  rw [codeOf, halfCode?, if_neg (Bool.eq_false_iff.mp h), Option.getD_none]

/-- **No two characters have one code.** -/
theorem codeOf_injective {c d : Char} (h : codeOf c = codeOf d) : c = d := by
  have hchar (hnat : c.toNat = d.toNat) : c = d := Char.toNat_inj.mp hnat
  -- Each is kept for a half or is not. If just one is, the other would have the code of a half.
  cases hc : isHalfCode (c.toNat - halfOffset) with
  | true =>
    rw [codeOf_of_half hc] at h
    cases hd : isHalfCode (d.toNat - halfOffset) with
    | true =>
      rw [codeOf_of_half hd] at h
      simp only [isHalfCode, Bool.and_eq_true, decide_eq_true_eq] at hc hd
      exact hchar (by omega)
    | false =>
      rw [codeOf_of_not_half hd] at h
      rw [h, isHalfCode_toNat] at hc
      cases hc
  | false =>
    rw [codeOf_of_not_half hc] at h
    cases hd : isHalfCode (d.toNat - halfOffset) with
    | true =>
      rw [codeOf_of_half hd] at h
      rw [← h, isHalfCode_toNat] at hd
      cases hd
    | false => exact hchar (h.trans (codeOf_of_not_half hd))

/-- The first character decides, and where it is the same, what is behind it. -/
theorem inOrder_cons (a b : Char) (as bs : List Char) :
    inOrder (a :: as) (b :: bs) = true ↔ codeOf a < codeOf b ∨ a = b ∧ inOrder as bs = true := by
  rw [inOrder]
  split
  next h => simp [h]
  next h => simp [h]

/-- **Of two texts one may stand before the other.** -/
theorem inOrder_total (as bs : List Char) : inOrder as bs = true ∨ inOrder bs as = true := by
  induction as generalizing bs with
  | nil => exact .inl rfl
  | cons a as ih =>
    cases bs with
    | nil => exact .inr rfl
    | cons b bs =>
      rw [inOrder_cons, inOrder_cons]
      rcases Nat.lt_trichotomy (codeOf a) (codeOf b) with hlt | heq | hgt
      · exact .inl (.inl hlt)
      · have hab := codeOf_injective heq
        exact (ih bs).imp (fun h => .inr ⟨hab, h⟩) (fun h => .inr ⟨hab.symm, h⟩)
      · exact .inr (.inl hgt)

/-- **What may stand before a text may stand before all that this may stand before.** -/
theorem inOrder_trans {as bs cs : List Char} (h : inOrder as bs = true)
    (h' : inOrder bs cs = true) : inOrder as cs = true := by
  induction as generalizing bs cs with
  | nil => rfl
  | cons a as ih =>
    cases bs with
    | nil => cases h
    | cons b bs =>
      cases cs with
      | nil => cases h'
      | cons c cs =>
        rw [inOrder_cons] at h h' ⊢
        rcases h with hlt | ⟨rfl, h⟩
        · rcases h' with hlt' | ⟨rfl, -⟩
          · exact .inl (Nat.lt_trans hlt hlt')
          · exact .inl hlt
        · exact h'.imp_right fun ⟨hac, h'⟩ => ⟨hac, ih h h'⟩

end Text

namespace Entry

/-- Sorting neither loses an entry nor makes one up. -/
theorem alphabetical_perm (entries : List Entry) : (alphabetical entries).Perm entries :=
  List.mergeSort_perm entries byName

/-- **Entries put in order of names are in that order.** -/
theorem alphabetical_sorted (entries : List Entry) :
    (alphabetical entries).Pairwise fun a b => byName a b = true := by
  have htrans (a b c : Entry) : byName a b = true → byName b c = true → byName a c = true :=
    Text.inOrder_trans
  have htotal (a b : Entry) : (byName a b || byName b a) = true :=
    (Bool.or_eq_true _ _).mpr (Text.inOrder_total _ _)
  exact List.pairwise_mergeSort htrans htotal entries

end Entry

end NamenodeShell
