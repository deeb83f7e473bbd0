import NamenodeShell.Text.Blank

/-!
# Pieces of a text

A text cut at every occurrence of one character, and the words of a text, which blanks separate.
-/
set_option autoImplicit false

namespace NamenodeShell.Text

/-- A text cut at every occurrence of a character: always one piece more than there are cuts. -/
def piecesBetween (sep : Char) : List Char → List (List Char)
  | [] => [[]]
  | c :: rest =>
    if c = sep then [] :: piecesBetween sep rest
    else match piecesBetween sep rest with
      | [] => [[c]]
      | piece :: pieces => (c :: piece) :: pieces

/-- The words of a text behind the beginning of one, which is held in reverse. -/
def wordsBehind : (held : List Char) → List Char → List (List Char)
  | held, [] => if held.isEmpty then [] else [held.reverse]
  | held, c :: rest =>
    if isBlank c then
      if held.isEmpty then wordsBehind [] rest else held.reverse :: wordsBehind [] rest
    else wordsBehind (c :: held) rest

/-- **The words of a text**, none of them empty. -/
def words (cs : List Char) : List (List Char) :=
  wordsBehind [] cs

end NamenodeShell.Text
