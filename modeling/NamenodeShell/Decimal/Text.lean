import NamenodeShell.Decimal.Shortest

/-!
# Numbers as text

How the shell writes seconds and other doubles. `text` gives the shortest decimal that reads back:
positional, with at least one digit after the point, while the leading digit stands between the
fourth place after the point and the sixteenth before it, and otherwise with an exponent of at least
two digits. `whole` rounds to no places, a half going to the even neighbour.
-/
set_option autoImplicit false

namespace NamenodeShell.Decimal

/-- The digits of a whole number, without the zeros at its end, and how many those were. -/
def trimmed (n : Nat) : List Char × Nat :=
  let ds := (Nat.toDigits 10 n).reverse
  let kept := (ds.dropWhile (· == '0')).reverse
  (kept, (ds.takeWhile (· == '0')).length)

/-- The exponent of a leading digit in scientific form: a sign and at least two digits. -/
def exponentText (e : Int) : List Char :=
  let ds := Nat.toDigits 10 e.natAbs
  (if e < 0 then '-' else '+') :: (if ds.length < 2 then '0' :: ds else ds)

/-- Digits with the point after the first `point` of them, zeros filling either gap. -/
def positional (ds : List Char) (point : Int) : List Char :=
  if point ≤ 0 then '0' :: '.' :: List.replicate (-point).toNat '0' ++ ds
  else if point < ds.length then ds.take point.toNat ++ '.' :: ds.drop point.toNat
  else ds ++ List.replicate (point.toNat - ds.length) '0' ++ ['.', '0']

/-- The first digit, the others after a point, and the exponent. -/
def scientific (ds : List Char) (leading : Int) : List Char :=
  match ds with
  | [] => []
  | [d] => d :: 'e' :: exponentText leading
  | d :: rest => d :: '.' :: rest ++ 'e' :: exponentText leading

/-- A positive double as text. -/
def positiveText (mantissa : Nat) (exponent : Int) : List Char :=
  let s := shortest mantissa exponent
  let (ds, zeros) := trimmed s.digits
  let point := s.scale + zeros + ds.length
  if -4 ≤ point - 1 ∧ point - 1 < 16 then positional ds point
  else scientific ds (point - 1)

/-- A sign in front of a text. -/
def signed (negative : Bool) (cs : List Char) : String :=
  .ofList (if negative then '-' :: cs else cs)

/-- **A double as text.** -/
def text (x : Float) : String :=
  match Binary.ofFloat x with
  | .notANumber => "nan"
  | .infinite negative => signed negative ['i', 'n', 'f']
  | .finite negative mantissa exponent =>
    if mantissa = 0 then signed negative ['0', '.', '0']
    else signed negative (positiveText mantissa exponent)

/-- The fraction `num / den` to the nearest whole number, a half to the even one. -/
def roundHalfEven (num den : Nat) : Nat :=
  let q := num / den
  let twice := 2 * (num % den)
  if twice < den then q else if den < twice then q + 1 else q + q % 2

/-- **A double rounded to a whole number**, as text. -/
def whole (x : Float) : String :=
  match Binary.ofFloat x with
  | .notANumber => "nan"
  | .infinite negative => signed negative ['i', 'n', 'f']
  | .finite negative mantissa exponent =>
    signed negative
      (Nat.toDigits 10 (roundHalfEven (mantissa * powerNum 2 exponent) (powerDen 2 exponent)))

end NamenodeShell.Decimal
