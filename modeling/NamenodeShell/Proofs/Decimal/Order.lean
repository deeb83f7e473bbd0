import Mathlib
import NamenodeShell.Decimal.Binary

/-!
# Doubles in order

Of two doubles neither of which is no number, either the one is at most the other or the other is
less (`not_le_iff`, `not_lt_iff`); what is no number stands in no order to anything
(`isNumber_of_le`). So a check that refuses what is at most zero does not ask for what is above
zero: it also lets pass what is no number.

Taking zero away leaves every double as it is (`sub_zero`), what is no number included, because only
one pattern of bits is kept for that. The difference of two finite doubles need not be finite; it is
when one of them is zero, or when they are the same (`isFinite_zero_sub`, `isFinite_sub_self`).
-/
set_option autoImplicit false

namespace NamenodeShell.Decimal

open Float.Model Float.Model.UnpackedFloat

variable {x y : Float}

/-! ## Comparing -/

theorem compare_swap (a b : UnpackedFloat) : b.compare a = (a.compare b).map Ordering.swap := by
  have hsign (s t : Sign) : compare t s = (compare s t).swap := by
    cases s <;> cases t <;> rfl
  have hfinite (e e' : Int) (m m' : Nat) :
      (compare e' e).then (compare m' m) = ((compare e e').then (compare m m')).swap := by
    rw [Ordering.swap_then, Int.compare_swap, Nat.compare_swap]
  rcases a with ⟨s⟩ | _ | s | ⟨s, m, e, hm⟩ <;> rcases b with ⟨t⟩ | _ | t | ⟨t, m', e', hm'⟩
  case infinity.infinity => exact congrArg some (hsign s t)
  case finite.finite =>
    cases s <;> cases t
    · exact congrArg (some ·.swap) (hfinite e e' m m')
    · rfl
    · rfl
    · exact congrArg some (hfinite e e' m m')
  all_goals first | rfl | (cases s <;> rfl) | (cases t <;> rfl)

theorem compare_eq_none {a b : UnpackedFloat} :
    a.compare b = none ↔ a.isNaN = true ∨ b.isNaN = true := by
  fun_cases UnpackedFloat.compare a b <;> simp_all [UnpackedFloat.isNaN]

theorem lt_iff : x < y ↔ x.toModel.unpack.compare y.toModel.unpack = some .lt := by
  have hlt : x < y ↔ x.toModel < y.toModel := decide_eq_true_iff
  exact hlt.trans beq_iff_eq

theorem le_iff : x ≤ y ↔ (x.toModel.unpack.compare y.toModel.unpack).any (·.isLE) = true :=
  decide_eq_true_iff

/-- **Doubles that are not in order** are in order the other way, or one of them is no number. -/
theorem not_le_iff : ¬ x ≤ y ↔ y < x ∨ x.isNaN = true ∨ y.isNaN = true := by
  have hnone : x.toModel.unpack.compare y.toModel.unpack = none ↔
      x.isNaN = true ∨ y.isNaN = true := compare_eq_none
  rw [← hnone, lt_iff, le_iff, compare_swap x.toModel.unpack]
  cases x.toModel.unpack.compare y.toModel.unpack with
  | none => simp
  | some o => cases o <;> simp

theorem not_lt_iff : ¬ x < y ↔ y ≤ x ∨ x.isNaN = true ∨ y.isNaN = true := by
  have hnone : x.toModel.unpack.compare y.toModel.unpack = none ↔
      x.isNaN = true ∨ y.isNaN = true := compare_eq_none
  rw [← hnone, lt_iff, le_iff, compare_swap x.toModel.unpack]
  cases x.toModel.unpack.compare y.toModel.unpack with
  | none => simp
  | some o => cases o <;> simp

/-- What is no number is at most nothing, and nothing is at most it. -/
theorem isNumber_of_le (h : x ≤ y) : x.isNaN = false ∧ y.isNaN = false := by
  have hnumbers := fun hnan => not_le_iff.mpr (.inr hnan) h
  simpa using hnumbers

theorem isNumber_of_lt (h : x < y) : x.isNaN = false ∧ y.isNaN = false := by
  have hnumbers := fun hnan => not_lt_iff.mpr (.inr hnan) h
  simpa using hnumbers

/-- What is a number is at most itself. -/
theorem le_self (h : x.isNaN = false) : x ≤ x := by
  have hself := compare_swap x.toModel.unpack x.toModel.unpack
  rw [le_iff]
  cases hcompare : x.toModel.unpack.compare x.toModel.unpack with
  | none =>
    have hnan : x.isNaN = true := (compare_eq_none.mp hcompare).elim id id
    cases h.symm.trans hnan
  | some o =>
    rw [hcompare] at hself
    cases o <;> simp at hself ⊢

/-! ## Zero -/

/-- A double taken apart and put together again is the same. -/
theorem pack_unpack (x : Float.Model) : Float.Model.pack x.unpack = x := by
  obtain ⟨bits, hvalid⟩ := x
  have hbits : UnpackedFloat.pack .binary64 (UnpackedFloat.unpack .binary64 bits.toBitVec) =
      bits.toBitVec := pack_unpack_of_valid hvalid
  simp only [Float.Model.pack, Float.Model.unpack, hbits]

theorem unpack_zero : (0.0 : Float).toModel.unpack = .zero .positive := by
  have hbits : (0.0 : Float).toModel.toBits = 0 := by
    decide +kernel
  rw [Float.Model.unpack, hbits]
  rfl

theorem isNaN_zero : (0.0 : Float).isNaN = false := by
  change (0.0 : Float).toModel.unpack.isNaN = false
  rw [unpack_zero]
  rfl

/-- **What is not at most zero** is above it, or no number. -/
theorem not_le_zero_iff : ¬ x ≤ 0.0 ↔ 0.0 < x ∨ x.isNaN = true := by
  rw [not_le_iff, isNaN_zero]
  simp only [Bool.false_eq_true, or_false]

/-- What is not below zero is at least zero, or no number. -/
theorem not_lt_zero_iff : ¬ x < 0.0 ↔ 0.0 ≤ x ∨ x.isNaN = true := by
  rw [not_lt_iff, isNaN_zero]
  simp only [Bool.false_eq_true, or_false]

/-- **Taking zero away changes nothing.** -/
theorem sub_zero (x : Float) : x - 0.0 = x := by
  have hunpacked (a : UnpackedFloat) : UnpackedFloat.sub .binary64 a (.zero .positive) = a := by
    rcases a with ⟨s⟩ | _ | s | ⟨s, m, e, hm⟩
    case zero => cases s <;> rfl
    all_goals rfl
  have hmodel : x.toModel - (0.0 : Float).toModel = x.toModel := by
    change Float.Model.pack (UnpackedFloat.sub .binary64 x.toModel.unpack _) = x.toModel
    rw [unpack_zero, hunpacked, pack_unpack]
  exact congrArg Float.ofModel hmodel

/-! ## Finite differences -/

/-- What is finite shows in the exponent field alone, which then has not all its bits. -/
theorem isFinite_unpack (bits : BitVec Format.binary64.numBits) :
    (UnpackedFloat.unpack .binary64 bits).isFinite = true ↔ unpackExponent bits ≠ -1#_ := by
  unfold UnpackedFloat.unpack
  dsimp only
  split
  next hall =>
    refine iff_of_false ?_ (not_not_intro hall)
    split <;> exact Bool.false_ne_true
  next hnot =>
    refine iff_of_true ?_ hnot
    split
    next => split <;> rfl
    next => rfl

/-- The sign is in a field of its own. -/
theorem unpackExponent_pack_sign (s t : Sign) (m : Nat) (e : Int) (hm : 0 < m) :
    unpackExponent (UnpackedFloat.pack .binary64 (.finite s m e hm)) =
      unpackExponent (UnpackedFloat.pack .binary64 (.finite t m e hm)) := by
  simp only [UnpackedFloat.pack]
  split
  next => simp only [packedInfinity, unpackExponent_packComponents]
  next => split <;> simp only [unpackExponent_packComponents]

/-- Both zeros are finite. -/
theorem isFinite_pack_zero (s : Sign) : (Float.Model.pack (.zero s)).isFinite = true := by
  cases s <;> decide +kernel

/-- **A finite double has a finite difference** to zero: its sign is turned round. -/
theorem isFinite_zero_sub (h : x.isFinite = true) : (0.0 - x).isFinite = true := by
  change (Float.Model.pack (UnpackedFloat.sub .binary64 (0.0 : Float).toModel.unpack
    x.toModel.unpack)).isFinite = true
  have hfinite : x.toModel.unpack.isFinite = true := h
  have hpacked := pack_unpack x.toModel
  rw [unpack_zero]
  cases hx : x.toModel.unpack with
  | notANumber => rw [hx] at hfinite; cases hfinite
  | infinity s => rw [hx] at hfinite; cases hfinite
  | zero s => cases s <;> exact isFinite_pack_zero _
  | finite s m e hm =>
    -- The same double with its sign turned round.
    rw [hx] at hpacked
    change (UnpackedFloat.unpack .binary64 (UnpackedFloat.pack .binary64
      (.finite (-s) m e hm))).isFinite = true
    rw [isFinite_unpack, unpackExponent_pack_sign (-s) s, ← isFinite_unpack]
    change (Float.Model.pack (.finite s m e hm)).isFinite = true
    rw [hpacked]
    exact h

/-- A finite double less itself is zero. -/
theorem isFinite_sub_self (h : x.isFinite = true) : (x - x).isFinite = true := by
  change (Float.Model.pack (UnpackedFloat.sub .binary64 x.toModel.unpack
    x.toModel.unpack)).isFinite = true
  have hfinite : x.toModel.unpack.isFinite = true := h
  cases hx : x.toModel.unpack with
  | notANumber => rw [hx] at hfinite; cases hfinite
  | infinity s => rw [hx] at hfinite; cases hfinite
  | zero s => cases s <;> exact isFinite_pack_zero _
  | finite s m e hm =>
    have hsub : UnpackedFloat.sub .binary64 (.finite s m e hm) (.finite s m e hm) =
        .zero .positive := by
      simp [UnpackedFloat.sub, UnpackedFloat.normalize]
    rw [hsub]
    exact isFinite_pack_zero _

/-- What is finite is a number. -/
theorem isNumber_of_isFinite (h : x.isFinite = true) : x.isNaN = false := by
  change x.toModel.unpack.isNaN = false
  have hfinite : x.toModel.unpack.isFinite = true := h
  cases hx : x.toModel.unpack with
  | notANumber => rw [hx] at hfinite; cases hfinite
  | _ => rfl

/-- **What is at most something finite** and not below zero is finite itself. -/
theorem isFinite_of_le (hle : x ≤ y) (hy : y.isFinite = true) (hx : ¬ x < 0.0) :
    x.isFinite = true := by
  rw [le_iff] at hle
  rw [lt_iff, unpack_zero] at hx
  change x.toModel.unpack.isFinite = true
  have hfinite : y.toModel.unpack.isFinite = true := hy
  cases hunpacked : x.toModel.unpack with
  | zero s => rfl
  | finite s m e hm => rfl
  | notANumber =>
    rw [hunpacked] at hle
    cases hle
  | infinity s =>
    rw [hunpacked] at hle hx
    cases s with
    | negative => exact absurd rfl hx
    | positive =>
      -- Nothing finite is as much as infinity.
      cases hother : y.toModel.unpack with
      | notANumber => rw [hother] at hfinite; cases hfinite
      | infinity s => rw [hother] at hfinite; cases hfinite
      | zero s => rw [hother] at hle; exact absurd hle Bool.false_ne_true
      | finite s m e hm => rw [hother] at hle; exact absurd hle Bool.false_ne_true

end NamenodeShell.Decimal
