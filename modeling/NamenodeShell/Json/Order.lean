import NamenodeShell.Decimal.Power
import NamenodeShell.Failure

/-!
# The order of JSON values

Numbers are in order among themselves whatever their form, truth and falsehood being one and zero;
so are texts; so are lists, by the first elements that differ. No other two values are in order, and
`before` says of which kinds they are. Two values can always be told to be the same or not.
-/
set_option autoImplicit false

namespace NamenodeShell

namespace Decimal.Binary

/-- A finite value as a multiple of a power of two. -/
def multiple (negative : Bool) (mantissa : Nat) (exponent unit : Int) : Int :=
  let size : Int := mantissa * powerNum 2 (exponent - unit)
  if negative then -size else size

/-- Whether one value is less than another, which no number is never. -/
def isLess : Binary → Binary → Bool
  | finite n m e, finite n' m' e' =>
    decide (multiple n m e (min e e') < multiple n' m' e' (min e e'))
  | finite .., infinite negative => !negative
  | infinite negative, finite .. => negative
  | infinite negative, infinite negative' => negative && !negative'
  | _, _ => false

/-- Whether two values are equal; no number is taken for equal to itself. -/
def isSame : Binary → Binary → Bool
  | finite n m e, finite n' m' e' => multiple n m e (min e e') == multiple n' m' e' (min e e')
  | infinite negative, infinite negative' => negative == negative'
  | notANumber, notANumber => true
  | _, _ => false

end Decimal.Binary

namespace Json

/-- What a value is worth as a number. -/
def number? : Json → Option Decimal.Binary
  | bool b => some (.finite false (if b then 1 else 0) 0)
  | int n => some (.finite (decide (n < 0)) n.natAbs 0)
  | float x => some (.ofFloat x)
  | _ => none

/-- Whether two values that hold no others are the same. -/
def isSameScalar (v w : Json) : Bool :=
  match v, w with
  | null, null => true
  | text s, text t => s == t
  | v, w =>
    match v.number?, w.number? with
    | some a, some b => a.isSame b
    | _, _ => false

mutual

/-- **Whether two values are the same**: members in any order, numbers in any form. -/
def isSame : Json → Json → Bool
  | list vs, list ws => vs.length == ws.length && areSame vs ws
  | object ms, object ns => ms.length == ns.length && haveSame ms ns
  | list _, _ | object _, _ => false
  | v, w => isSameScalar v w

/-- Whether the elements of two lists of one length are the same. -/
def areSame : List Json → List Json → Bool
  | v :: vs, w :: ws => isSame v w && areSame vs ws
  | _, _ => true

/-- Whether every one of some members is the same among others. -/
def haveSame : List (String × Json) → List (String × Json) → Bool
  | [], _ => true
  | (name, v) :: ms, ns =>
    (match ns.lookup name with
      | some w => isSame v w
      | none => false) && haveSame ms ns

end

/-- Whether one of two values that are not lists stands before the other. -/
def beforeScalar (v w : Json) : Except Failure Bool :=
  match v, w with
  | text s, text t => .ok (!Text.inOrder t.toList s.toList)
  | v, w =>
    match v.number?, w.number? with
    | some a, some b => .ok (a.isLess b)
    | _, _ => .error (.unordered v.kindName w.kindName)

mutual

/-- **Whether one value stands before another.** -/
def before : Json → Json → Except Failure Bool
  | list vs, list ws => beforeElements vs ws
  | v, w => beforeScalar v w

/-- Whether one list stands before another. -/
def beforeElements : List Json → List Json → Except Failure Bool
  | [], ws => .ok !ws.isEmpty
  | _ :: _, [] => .ok false
  | v :: vs, w :: ws => if isSame v w then beforeElements vs ws else before v w

end

end Json

end NamenodeShell
