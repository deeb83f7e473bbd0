import NamenodeShell.Decimal.Text
import NamenodeShell.Text.Quoted

/-!
# JSON values

What the bodies of answers hold. Whole numbers and doubles are different values; an object keeps its
members in the order in which their names first appeared, each name once.

Besides the values themselves, this module holds the three questions the client asks of any value
without knowing its shape: whether it counts as true, what its kind is called, and how it reads
inside a message.
-/
set_option autoImplicit false

namespace NamenodeShell

/-- **A JSON value.** -/
inductive Json where
  | null
  | bool (b : Bool)
  | int (n : Int)
  | float (x : Float)
  | text (s : String)
  | list (elements : List Json)
  | object (members : List (String × Json))
  deriving Inhabited

namespace Json

/-- The members of an object with one more written: a name that is already there keeps its place
and takes the new value. -/
def insert (name : String) (value : Json) : List (String × Json) → List (String × Json)
  | [] => [(name, value)]
  | (n, v) :: rest => if n == name then (n, value) :: rest else (n, v) :: insert name value rest

/-- A member of an object, and nothing of any other value. -/
def member? (name : String) : Json → Option Json
  | object members => members.lookup name
  | _ => none

/-- **Whether a value counts as true**: everything but nothing, false, zero and what is empty. -/
def truthy : Json → Bool
  | null => false
  | bool b => b
  | int n => n != 0
  | float x => x != 0.0
  | text s => !s.isEmpty
  | list elements => !elements.isEmpty
  | object members => !members.isEmpty

/-- Whether a value is a text. -/
def isText : Json → Bool
  | text _ => true
  | _ => false

/-- What messages call the kind of a value. -/
def kindName : Json → String
  | null => "NoneType"
  | bool _ => "bool"
  | int _ => "int"
  | float _ => "float"
  | text _ => "str"
  | list _ => "list"
  | object _ => "dict"

mutual

/-- A value inside a list or an object of a message: texts in quotes. -/
def nested : Json → String
  | null => "None"
  | bool true => "True"
  | bool false => "False"
  | int n => toString n
  | float x => Decimal.text x
  | text s => Text.quoted s
  | list elements => "[" ++ nestedElements elements ++ "]"
  | object members => "\x7b" ++ nestedMembers members ++ "\x7d"

/-- The elements of a list, separated by commas. -/
def nestedElements : List Json → String
  | [] => ""
  | [v] => nested v
  | v :: rest => nested v ++ ", " ++ nestedElements rest

/-- The members of an object, separated by commas. -/
def nestedMembers : List (String × Json) → String
  | [] => ""
  | [(n, v)] => Text.quoted n ++ ": " ++ nested v
  | (n, v) :: rest => Text.quoted n ++ ": " ++ nested v ++ ", " ++ nestedMembers rest

end

/-- **A value as a message**: a text is itself, anything else reads as inside a list. -/
def message : Json → String
  | text s => s
  | v => nested v

end Json

end NamenodeShell
