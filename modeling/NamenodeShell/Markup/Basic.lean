/-!
# Markup

Text with style tags in square brackets. A tag is an opening bracket, one of the characters that may
begin a tag, and then everything up to the next closing bracket with no opening bracket in between;
the backslashes in front of it belong to it. This module cuts markup into its pieces and writes a
text as markup that shows it.
-/
set_option autoImplicit false

namespace NamenodeShell.Markup

/-- The characters that may follow the opening bracket of a tag. -/
def beginsTag (c : Char) : Bool :=
  ('a' ≤ c && c ≤ 'z') || c == '#' || c == '/' || c == '@'

/-- The rest of a tag up to its closing bracket. -/
def tagTail? : List Char → Option (List Char)
  | [] => none
  | c :: rest =>
    if c = ']' then some []
    else if c = '[' then none
    else (tagTail? rest).map (c :: ·)

/-- The text between the brackets of a tag that begins right here. -/
def tag? : List Char → Option (List Char)
  | '[' :: c :: rest => if beginsTag c then (tagTail? rest).map (c :: ·) else none
  | _ => none

/-- **A piece of markup**: a character on its own, or a tag with the backslashes in front of it. -/
inductive Piece where
  | char (c : Char)
  | tag (backslashes : Nat) (text : List Char)
  deriving DecidableEq, Repr

/-- Markup cut into pieces. `skip` counts the characters still to pass over because a tag has
already taken them, `held` the backslashes seen right before this place. -/
def scan : (skip held : Nat) → List Char → List Piece
  | _, held, [] => List.replicate held (.char '\\')
  | skip + 1, held, _ :: rest => scan skip held rest
  | 0, held, c :: rest =>
    if c = '\\' then scan 0 (held + 1) rest
    else match tag? (c :: rest) with
      | some text => .tag held text :: scan (text.length + 1) 0 rest
      | none => List.replicate held (.char '\\') ++ .char c :: scan 0 0 rest

/-- The characters a piece takes up. -/
def Piece.width : Piece → Nat
  | char _ => 1
  | tag backslashes text => backslashes + text.length + 2

/-- The pieces of a text. -/
def pieces (cs : List Char) : List Piece :=
  scan 0 0 cs

/-- A tag with its brackets. -/
def bracketed (text : List Char) : List Char :=
  '[' :: text ++ [']']

/-- A piece written so that it is shown: a tag gets its backslashes doubled and one more. -/
def escapePiece : Piece → List Char
  | .char c => [c]
  | .tag backslashes text => List.replicate (2 * backslashes + 1) '\\' ++ bracketed text

/-- A single backslash at the end doubled, so that it does not join what is put behind it. -/
def closeEnd (cs : List Char) : List Char :=
  match cs.reverse with
  | '\\' :: '\\' :: _ => cs
  | '\\' :: _ => cs ++ ['\\']
  | _ => cs

/-- **A text as markup.** -/
def escapeChars (cs : List Char) : List Char :=
  closeEnd ((pieces cs).flatMap escapePiece)

@[inherit_doc escapeChars]
def escape (s : String) : String :=
  .ofList (escapeChars s.toList)

end NamenodeShell.Markup
