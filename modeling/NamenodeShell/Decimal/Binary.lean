/-!
# A floating-point number taken apart

A finite double is a whole number of halves, quarters or larger powers of two. This module reads
sign, mantissa and exponent off the sixty-four bits; everything exact that is said of a double is
said of these three.
-/
set_option autoImplicit false

namespace NamenodeShell.Decimal

/-- **What a double is**: a finite value `mantissa · 2 ^ exponent` with a sign, an infinity with a
sign, or no number at all. -/
inductive Binary where
  | finite (negative : Bool) (mantissa : Nat) (exponent : Int)
  | infinite (negative : Bool)
  | notANumber
  deriving DecidableEq

/-- The number of values of the fifty-two bits of the fraction, and the mantissa of a power of
two. -/
def Binary.fractions : Nat := 4503599627370496

/-- The number of values of the eleven bits of the exponent. -/
def Binary.exponents : Nat := 2048

/-- The three fields of the bits, the fraction lowest, then the exponent, then the sign. An exponent
field of zero marks the values that have no leading one, the largest one what is not finite. -/
def Binary.ofBits (bits : Nat) : Binary :=
  let negative := decide (exponents * fractions ≤ bits)
  let field := bits / fractions % exponents
  let fraction := bits % fractions
  if field = exponents - 1 then
    if fraction = 0 then .infinite negative else .notANumber
  else if field = 0 then .finite negative fraction (-1074)
  else .finite negative (fractions + fraction) ((field : Int) - 1075)

/-- A double taken apart. -/
def Binary.ofFloat (x : Float) : Binary :=
  .ofBits x.toBits.toNat

end NamenodeShell.Decimal
