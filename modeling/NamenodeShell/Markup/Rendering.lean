import NamenodeShell.Markup.Action
import NamenodeShell.Markup.Basic
import NamenodeShell.Markup.Styled

/-!
# Markup as styled text

`render` turns markup into styled text. An odd number of backslashes makes a tag literal, and each
pair of them stands for one. Outside tags a backslash in front of an opening bracket is dropped.

A tag is a name and, behind an equals sign, parameters; the two together define a style. A closing
tag ends the innermost open tag whose name has the same normal form, or the innermost of all when it
has no name; tags still open at the end reach to the end. Of two stretches of text the one that
begins later, or begins where the other begins and ends earlier, is the inner one.
-/
set_option autoImplicit false

namespace NamenodeShell.Markup

/-- Why markup cannot be shown. -/
inductive BadMarkup where
  /-- A closing tag has nothing to close. -/
  | nothingToClose
  /-- The arguments of an action are not values. -/
  | badAction
  /-- A part of a colour is no number. -/
  | badPart (part : BadPart)
  deriving DecidableEq, Repr

/-- A tag that is open: its name in normal form, its parameters, and where its stretch begins. -/
structure OpenTag where
  name : List Char
  parameters : Option (List Char)
  start : Nat
  deriving DecidableEq, Repr

namespace OpenTag

/-- Whether the tag ties an action to its stretch. -/
def isAction (tag : OpenTag) : Bool :=
  tag.name.head? == some '@'

/-- The definition of the style: the name, and the parameters as more words. -/
def definition (tag : OpenTag) : List Char :=
  match tag.parameters with
  | none => tag.name
  | some parameters => tag.name ++ ' ' :: parameters

end OpenTag

/-- A stretch of text with the definition of its style; none for an action, which does not show. -/
structure Defined where
  start : Nat
  stop : Nat
  definition : Option (List Char)
  deriving DecidableEq, Repr

/-- **What has been rendered**: the characters in reverse, the tags that are open, innermost first,
and the stretches that have ended, the last of them first. -/
structure Rendered where
  reversed : List Char := []
  opened : List OpenTag := []
  ended : List Defined := []
  deriving DecidableEq, Repr

namespace Rendered

/-- How many characters there are. -/
def length (r : Rendered) : Nat := r.reversed.length

/-- The rendering with more characters. -/
def write (r : Rendered) (cs : List Char) : Rendered :=
  { r with reversed := cs.reverse ++ r.reversed }

/-- A name in normal form. -/
def normalName (name : List Char) : Except BadMarkup (List Char) :=
  (Style.normalForm name).mapError .badPart

/-- The rendering with a tag opened. -/
def openTag (r : Rendered) (name : List Char) (parameters : Option (List Char)) :
    Except BadMarkup Rendered := do
  let tag : OpenTag := { name := ← normalName name, parameters, start := r.length }
  return { r with opened := tag :: r.opened }

/-- The tag that a closing one ends: the innermost, or the innermost of a name. -/
def partner? (r : Rendered) (name : List Char) : Except BadMarkup (Option OpenTag) := do
  if name.isEmpty then return r.opened.head?
  let normal ← normalName name
  return r.opened.find? fun tag => tag.name == normal

/-- The rendering with a tag closed. -/
def closeTag (r : Rendered) (name : List Char) : Except BadMarkup Rendered := do
  match ← r.partner? (Text.strip name) with
  | none => throw .nothingToClose
  | some tag =>
    if tag.isAction then
      match tag.parameters with
      | none => pure ()
      | some parameters =>
        unless parameters.isEmpty || Action.isReadable parameters do
          throw .badAction
    let definition := if tag.isAction then none else some tag.definition
    return {
      r with
      opened := r.opened.erase tag
      ended := ⟨tag.start, r.length, definition⟩ :: r.ended }

/-- The rendering with a tag read. -/
def readTag (r : Rendered) (text : List Char) : Except BadMarkup Rendered :=
  let name := text.takeWhile (· ≠ '=')
  let parameters := match text.dropWhile (· ≠ '=') with
    | [] => none
    | _ :: parameters => some parameters
  match name with
  | '/' :: name => r.closeTag name
  | name => r.openTag name parameters

/-- The rendering of more pieces. -/
def pieces (r : Rendered) : List Piece → Except BadMarkup Rendered
  | [] => .ok r
  | .char '\\' :: .char '[' :: rest => pieces (r.write ['[']) rest
  | .char c :: rest => pieces (r.write [c]) rest
  | .tag backslashes text :: rest =>
    let r := r.write (List.replicate (backslashes / 2) '\\')
    if backslashes % 2 = 1 then pieces (r.write (bracketed text)) rest
    else
      match r.readTag text with
      | .ok r => pieces r rest
      | .error e => .error e

/-- All stretches, the open ones reaching to the end, in the order in which they begin; of those
that begin together the one that ends last goes first. -/
def defined (r : Rendered) : List Defined :=
  let atEnd := r.opened.map fun tag => ⟨tag.start, r.length, some tag.definition⟩
  (atEnd.reverse ++ r.ended).mergeSort fun a b => decide (a.start ≤ b.start)

end Rendered

/-- A stretch with its style. -/
def Defined.stretch (d : Defined) : Except BadMarkup Stretch := do
  match d.definition with
  | none => return ⟨d.start, d.stop, .plain⟩
  | some definition =>
    let style ← (Style.named definition).mapError .badPart
    return ⟨d.start, d.stop, style⟩

/-- **Markup as styled text.** Tags, their styles and the backslashes before brackets are worked
off. Names between colons stay as they are, although a console may set pictures in their place, and
no line is broken, however wide the console is. -/
def render (markup : String) : Except BadMarkup Styled := do
  let r ← Rendered.pieces {} (pieces markup.toList)
  return { chars := r.reversed.reverse, stretches := ← r.defined.mapM Defined.stretch }

end NamenodeShell.Markup
