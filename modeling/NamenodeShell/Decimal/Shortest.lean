import NamenodeShell.Decimal.Binary
import NamenodeShell.Decimal.Power

/-!
# The shortest decimal that reads back

A double stands for all real numbers nearer to it than to any other double: an interval around it.
Among the decimals in that interval those with the fewest digits are taken, and among these the
nearest. The grids of one digit, two digits and so on are tried in turn; on each only the two points
next to the value can be nearest, and by the seventeenth one of them is always inside.

All comparisons are made on whole numbers: the value is `4 · mantissa · up / (4 · down)` with `up`
and `down` powers of two, so that the ends of its interval, a half or a quarter of a unit away, are
whole numbers over the same denominator.
-/
set_option autoImplicit false

namespace NamenodeShell.Decimal

/-- **The reals that round to a positive double**, as whole numbers over `den`. The ends belong to
the interval when `closed` holds. -/
structure Interval where
  low : Nat
  value : Nat
  high : Nat
  den : Nat
  closed : Bool

/-- The interval of `mantissa · 2 ^ exponent`. Below a power of two the next double down is only
half as far away, unless the values there are the smallest of all. -/
def Interval.of (mantissa : Nat) (exponent : Int) : Interval :=
  let up := powerNum 2 exponent
  let below := if mantissa = Binary.fractions ∧ -1074 < exponent then 1 else 2
  { low := (4 * mantissa - below) * up
    value := 4 * mantissa * up
    high := (4 * mantissa + 2) * up
    den := 4 * powerDen 2 exponent
    closed := mantissa % 2 = 0 }

/-- Whether the fraction `num / den` lies in the interval. -/
def Interval.holds (i : Interval) (num den : Nat) : Bool :=
  if i.closed then decide (i.low * den ≤ num * i.den) && decide (num * i.den ≤ i.high * den)
  else decide (i.low * den < num * i.den) && decide (num * i.den < i.high * den)

/-- A decimal `digits · 10 ^ scale`. -/
structure Scaled where
  digits : Nat
  scale : Int
  deriving DecidableEq

/-- A decimal as a fraction of whole numbers. -/
def Scaled.num (s : Scaled) : Nat := s.digits * powerNum 10 s.scale

@[inherit_doc Scaled.num]
def Scaled.den (s : Scaled) : Nat := powerDen 10 s.scale

/-- The grid point at or below the value, for the grid with step `10 ^ scale`. -/
def Interval.floorOn (i : Interval) (scale : Int) : Nat :=
  i.value * powerDen 10 scale / (i.den * powerNum 10 scale)

/-- How far a decimal is from the value, over a denominator that depends only on the scale. -/
def Interval.distance (i : Interval) (s : Scaled) : Nat :=
  let a := i.value * s.den
  let b := s.num * i.den
  (a - b) + (b - a)

/-- The point of the grid that lies in the interval, the nearer one if both neighbours of the value
do, the even one if they are equally near. -/
def Interval.onGrid? (i : Interval) (scale : Int) : Option Scaled :=
  let down : Scaled := ⟨i.floorOn scale, scale⟩
  let up : Scaled := ⟨i.floorOn scale + 1, scale⟩
  match i.holds down.num down.den, i.holds up.num up.den with
  | true, true =>
    if i.distance down < i.distance up then some down
    else if i.distance up < i.distance down then some up
    else some (if down.digits % 2 = 0 then down else up)
  | true, false => some down
  | false, true => some up
  | false, false => none

/-- The decimal exponent of the leading digit, found by stepping down from the largest one. -/
def Interval.leading (i : Interval) : (steps : Nat) → Int → Int
  | 0, e => e
  | steps + 1, e => if i.floorOn e = 0 then i.leading steps (e - 1) else e

/-- The first grid, from coarse to fine, with a point in the interval. -/
def Interval.firstGrid (i : Interval) : (grids : Nat) → Int → Scaled
  | 0, scale => ⟨i.floorOn scale, scale⟩
  | grids + 1, scale =>
    match i.onGrid? scale with
    | some s => s
    | none => i.firstGrid grids (scale - 1)

/-- **The shortest decimal of a positive double.** The largest double has 309 digits, the smallest
begins at the 324th place, so 634 steps reach every leading digit. -/
def shortest (mantissa : Nat) (exponent : Int) : Scaled :=
  let i := Interval.of mantissa exponent
  i.firstGrid 17 (i.leading 634 309)

end NamenodeShell.Decimal
