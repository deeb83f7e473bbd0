/-!
# Powers with any exponent

The power of a whole number with an exponent of either sign is a fraction of two powers of which at
least one is 1. Everything exact that is said of doubles and of decimals is said through such
fractions, so that no number but whole ones is ever calculated with.
-/
set_option autoImplicit false

namespace NamenodeShell.Decimal

/-- The numerator of a power. -/
def powerNum (base : Nat) (exponent : Int) : Nat := base.pow exponent.toNat

/-- The denominator of a power. -/
def powerDen (base : Nat) (exponent : Int) : Nat := base.pow (-exponent).toNat

end NamenodeShell.Decimal
