import NamenodeShell.Failure

/-!
# Looking into values

How the client takes the bodies of answers apart without having been promised their shape. There are
two ways to a member: `sub` insists on it, `get` does with its absence; each fails in its own way on
values that have no members. `each` goes through a list, `whole` makes a whole number of anything
that can be read as one.
-/
set_option autoImplicit false

namespace NamenodeShell.Json

/-- A member that has to be there. -/
def sub (name : String) : Json → Except Failure Json
  | object members =>
    match members.lookup name with
    | some v => .ok v
    | none => .error (.missing name)
  | list _ => .error (.notAKey "list")
  | text _ => .error (.notAKey "str")
  | v => .error (.notSubscriptable v.kindName)

/-- A member that may be absent. -/
def get (name : String) : Json → Except Failure (Option Json)
  | object members => .ok (members.lookup name)
  | v => .error (.noMembers v.kindName "get")

/-- What a value holds, one after the other: elements of a list, names of an object, characters of a
text. -/
def each : Json → Except Failure (List Json)
  | list elements => .ok elements
  | object members => .ok (members.map fun (n, _) => text n)
  | text s => .ok (s.toList.map fun c => text (.ofList [c]))
  | v => .error (.notIterable v.kindName)

/-- A value that may be looked up in a table: anything but lists and objects. -/
def key : Json → Except Failure Json
  | list _ => .error (.unhashable "list")
  | object _ => .error (.unhashable "dict")
  | v => .ok v

/-- The whole part of a double. -/
def truncated (x : Float) : Except Failure Int :=
  match Decimal.Binary.ofFloat x with
  | .notANumber => .error (.noWholePart false)
  | .infinite _ => .error (.noWholePart true)
  | .finite negative mantissa exponent =>
    let n : Int := mantissa * Decimal.powerNum 2 exponent / Decimal.powerDen 2 exponent
    .ok (if negative then -n else n)

/-- A value as a whole number. -/
def whole : Json → Except Failure Int
  | int n => .ok n
  | bool b => .ok (if b then 1 else 0)
  | float x => truncated x
  | text s =>
    match Decimal.readWhole s with
    | .ok n => .ok n
    | .error problem => .error (.badInteger s problem)
  | v => .error (.notANumber v.kindName)

end NamenodeShell.Json
