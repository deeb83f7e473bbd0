import NamenodeShell.Text.Blank
import NamenodeShell.Text.Digit

/-!
# Numbers read from text

The two readers of settings: whole numbers and doubles. Both forgive blanks around the number, a
sign, single underscores between digits and the digits of any script. The reader of doubles also
takes a point, an exponent, and the words for infinity and for no number, in either case.
-/
set_option autoImplicit false

namespace NamenodeShell.Decimal

open NamenodeShell.Text

/-- The blanks a number may stand between: all of them but the information separators. -/
def isMargin (c : Char) : Bool :=
  isBlank c && !(0x1C ≤ c.toNat && c.toNat ≤ 0x1F)

/-- The text between the margins. -/
def withoutMargins (cs : List Char) : List Char :=
  ((cs.dropWhile isMargin).reverse.dropWhile isMargin).reverse

/-- A digit of any script as the digit the rest of this module reads, all else as it is. -/
def plainDigit (c : Char) : Char :=
  if c.toNat < 128 then c
  else match digitValue? c with
    | some d => Char.ofNat (48 + d)
    | none => c

/-- The text without its underscores, provided each of them stands between two digits. -/
def joinGroups? : (last : Char) → List Char → Option (List Char)
  | last, [] => if last == '_' then none else some []
  | last, c :: rest =>
    if c == '_' then if last.isDigit then joinGroups? c rest else none
    else if last == '_' && !c.isDigit then none
    else (joinGroups? c rest).map (c :: ·)

/-- A sign taken off the front: whether it was a minus, and the rest. -/
def takeSign : List Char → Bool × List Char
  | '-' :: rest => (true, rest)
  | '+' :: rest => (false, rest)
  | cs => (false, cs)

/-- The number written by decimal digits. -/
def natOfDigits (ds : List Char) : Nat :=
  ds.foldl (fun n d => 10 * n + (d.toNat - 48)) 0

/-- The text that the reader of doubles looks at: margins off, digits plain, groups joined. -/
def prepared? (s : String) : Option (List Char) :=
  joinGroups? ' ' ((withoutMargins s.toList).map plainDigit)

/-- The most digits a whole number may be written with. -/
def maxDigits : Nat := 4300

/-- What is said of a number with too many digits. -/
def overlongMessage (digits : Nat) : String :=
  s!"Exceeds the limit ({maxDigits} digits) for integer string conversion: " ++
    s!"value has {digits} digits; use sys.set_int_max_str_digits() to increase the limit"

/-- Why a text is no whole number. -/
inductive WholeProblem where
  /-- It begins with more digits than a whole number may have. -/
  | tooManyDigits (digits : Nat)
  | malformed
  deriving DecidableEq, Repr

/-- The digits a text begins with, without the underscores between them, and what stands behind
them; nothing when an underscore does not stand between two digits. -/
def takeGroups? : (last : Char) → List Char → Option (List Char × List Char)
  | last, [] => if last == '_' then none else some ([], [])
  | last, c :: rest =>
    if c == '_' then if last.isDigit then takeGroups? c rest else none
    else if c.isDigit then (takeGroups? c rest).map fun (ds, behind) => (c :: ds, behind)
    else if last == '_' then none
    else some ([], c :: rest)

/-- **Reads a whole number.** The digits are counted before what stands behind them is looked at. -/
def readWhole (s : String) : Except WholeProblem Int :=
  let (negative, cs) := takeSign ((s.toList.dropWhile isMargin).map plainDigit)
  match takeGroups? ' ' cs with
  | none => .error .malformed
  | some (ds, behind) =>
    if ds.isEmpty then .error .malformed
    else if maxDigits < ds.length then .error (.tooManyDigits ds.length)
    else if behind.all isMargin then
      .ok (if negative then -(natOfDigits ds : Int) else natOfDigits ds)
    else .error .malformed

/-- A whole number, when a text is one. -/
def readInt? (s : String) : Option Int :=
  (readWhole s).toOption

/-- The decimal `digits · 10 ^ scale` as the nearest double. Digits and scale far outside the range
of doubles give infinity or zero without being multiplied out. -/
def floatOf (digits : Nat) (scale : Int) : Float :=
  if digits = 0 then 0.0
  else
    let size := (Nat.toDigits 10 digits).length
    if 400 < size + scale then 1.0 / 0.0
    else if size + scale < -400 then 0.0
    else Float.ofScientific digits (decide (scale < 0)) scale.natAbs

/-- An exponent: nothing, or an E with an optional sign and at least one digit. -/
def readExponent? : List Char → Option Int
  | [] => some 0
  | c :: rest => do
    guard (c == 'e' || c == 'E')
    let (negative, ds) := takeSign rest
    guard (!ds.isEmpty && ds.all Char.isDigit)
    return if negative then -(natOfDigits ds : Int) else natOfDigits ds

/-- Digits with at most one point among them, and an exponent. -/
def readMagnitude? (cs : List Char) : Option Float := do
  let before := cs.takeWhile Char.isDigit
  let rest := cs.dropWhile Char.isDigit
  let (after, rest) := match rest with
    | '.' :: rest => (rest.takeWhile Char.isDigit, rest.dropWhile Char.isDigit)
    | rest => ([], rest)
  guard (!(before.isEmpty && after.isEmpty))
  let e ← readExponent? rest
  return floatOf (natOfDigits (before ++ after)) (e - after.length)

/-- **Reads a double.** -/
def readFloat? (s : String) : Option Float := do
  let (negative, cs) := takeSign (← prepared? s)
  let word := String.ofList (cs.map Char.toLower)
  let magnitude ←
    if word == "inf" || word == "infinity" then some (1.0 / 0.0)
    else if word == "nan" then some (0.0 / 0.0)
    else readMagnitude? cs
  return if negative then -magnitude else magnitude

end NamenodeShell.Decimal
