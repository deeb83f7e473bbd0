import NamenodeShell.Json.Basic

/-!
# Writing JSON

A value as a text of ASCII characters on one line: a blank after each comma and colon, every
character beyond ASCII as one escape or, above the basic plane, as a pair of them; one half of a
pair is an escape of its own.
-/
set_option autoImplicit false

namespace NamenodeShell.Json

/-- An escape by code. -/
def unicodeEscape (n : Nat) : List Char :=
  '\\' :: 'u' :: Text.hexDigits 4 n

/-- One character inside a text. -/
def printedChar (c : Char) : List Char :=
  if c == '"' then ['\\', '"']
  else if c == '\\' then ['\\', '\\']
  else if c == '\n' then ['\\', 'n']
  else if c == '\r' then ['\\', 'r']
  else if c == '\t' then ['\\', 't']
  else if c == '\x08' then ['\\', 'b']
  else if c == '\x0c' then ['\\', 'f']
  else
    let n := Text.codeOf c
    if 0x20 ≤ n ∧ n < 0x7F then [c]
    else if n < 0x10000 then unicodeEscape n
    else unicodeEscape (0xD800 + (n - 0x10000) / 0x400) ++
      unicodeEscape (0xDC00 + (n - 0x10000) % 0x400)

/-- A text between its quotes. -/
def printedText (s : String) : String :=
  .ofList ('"' :: s.toList.flatMap printedChar ++ ['"'])

/-- A double: its shortest decimal, or a word where it has none. -/
def printedFloat (x : Float) : String :=
  match Decimal.Binary.ofFloat x with
  | .notANumber => "NaN"
  | .infinite true => "-Infinity"
  | .infinite false => "Infinity"
  | .finite .. => Decimal.text x

mutual

/-- **A value as text.** -/
def print : Json → String
  | null => "null"
  | bool true => "true"
  | bool false => "false"
  | int n => toString n
  | float x => printedFloat x
  | text s => printedText s
  | list elements => "[" ++ printElements elements ++ "]"
  | object members => "\x7b" ++ printMembers members ++ "\x7d"

/-- The elements of a list. -/
def printElements : List Json → String
  | [] => ""
  | [v] => print v
  | v :: rest => print v ++ ", " ++ printElements rest

/-- The members of an object. -/
def printMembers : List (String × Json) → String
  | [] => ""
  | [(n, v)] => printedText n ++ ": " ++ print v
  | (n, v) :: rest => printedText n ++ ": " ++ print v ++ ", " ++ printMembers rest

end

end NamenodeShell.Json
