import NamenodeShell.Text.Blank

/-!
# Typed lines

What a line typed at the prompt asks for. Without a double quote only the first word counts. With
one, everything in front of the first quote, blanks off its ends, is the name, and the texts between
the quotes taken in pairs are the arguments, two at most and exactly as typed; a last quote without
a partner opens nothing, and whatever stands outside the pairs is passed over.
-/
set_option autoImplicit false

namespace NamenodeShell

/-- **What a line asks for**: the name of a command and its arguments. -/
structure Command where
  name : String
  args : List String
  deriving DecidableEq, Repr

namespace Command

/-- The most arguments taken from a line. -/
def maxArgs : Nat := 2

/-- The texts between paired quotes. Outside a pair nothing is kept; inside one, `held` is what has
been read of it so far, in reverse. -/
def quotedTexts : (held : Option (List Char)) → List Char → List (List Char)
  | _, [] => []
  | none, c :: rest => if c = '"' then quotedTexts (some []) rest else quotedTexts none rest
  | some held, c :: rest =>
    if c = '"' then held.reverse :: quotedTexts none rest else quotedTexts (some (c :: held)) rest

/-- The name on a line. -/
def nameOf (cs : List Char) : List Char :=
  if '"' ∈ cs then Text.strip (cs.takeWhile (· ≠ '"')) else Text.firstWord cs

/-- **Reads a typed line.** -/
def ofLine (line : String) : Command :=
  let cs := line.toList
  { name := .ofList (nameOf cs)
    args := ((quotedTexts none cs).take maxArgs).map .ofList }

end Command

end NamenodeShell
