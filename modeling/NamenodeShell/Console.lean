import NamenodeShell.Markup.Rendering
import NamenodeShell.Text.Width

/-!
# The console

What reaches the terminal of styled text. Some controls are dropped, tabs become spaces up to the
next multiple of eight columns, and on a terminal that shows colours every run of one look is put
between the codes that switch to it and back; a look does not run on over the end of a line or over
a tab stop, where it is switched off and on again.
-/
set_option autoImplicit false

namespace NamenodeShell.Console

open NamenodeShell.Markup

/-- Bell, backspace, vertical tab, form feed and carriage return, which are never written. -/
def isDropped (c : Char) : Bool :=
  c.toNat == 7 || c.toNat == 8 || c.toNat == 11 || c.toNat == 12 || c.toNat == 13

/-- The columns of a stop. -/
def tabStop : Nat := 8

/-- The places behind every character that is `last`, counted from `start` on. -/
def placesBehind (last : Char) : (start : Nat) → List Char → List Nat
  | _, [] => []
  | start, c :: rest =>
    if c = last then (start + 1) :: placesBehind last (start + 1) rest
    else placesBehind last (start + 1) rest

/-- Styled text cut at places, given in ascending order; text that is not cut stays as it is. -/
def cutAt (t : Styled) (places : List Nat) : List Styled :=
  if places.isEmpty then [t]
  else (List.zip (0 :: places) (places ++ [t.chars.length])).map fun (start, stop) =>
    t.part start stop

/-- A part of a line that begins in a column and ends in a tab, with spaces up to the next stop in
its place. What reaches over the tab reaches over the spaces. -/
def expandTab (column : Nat) (t : Styled) : Styled :=
  let body := t.chars.dropLast ++ [' ']
  let reached := column + Text.columns body
  let spaces := (tabStop - reached % tabStop) % tabStop
  { chars := body ++ List.replicate spaces ' '
    stretches := t.stretches.map fun s =>
      if t.chars.length ≤ s.stop then { s with stop := s.stop + spaces } else s }

/-- The parts of a line, each up to and with a tab, written with spaces and put together. `column`
is where the next one begins. -/
def expandTabs : (column : Nat) → List Styled → Styled
  | _, [] => {}
  | column, t :: rest =>
    if t.chars.getLast? = some '\t' then
      let t := expandTab column t
      t.append (expandTabs (column + Text.columns t.chars) rest)
    else t.append (expandTabs (column + Text.columns t.chars) rest)

/-- The codes of a style, separated by semicolons. -/
def codesText (codes : List Nat) : List Char :=
  [';'].intercalate (codes.map (Nat.toDigits 10))

/-- One run as it is written. -/
def runText (ansi : Bool) : Style × List Char → List Char
  | (look, cs) =>
    if ansi && !look.codes.isEmpty then
      '\x1b' :: '[' :: codesText look.codes ++ 'm' :: cs ++ ['\x1b', '[', '0', 'm']
    else cs

/-- One line as it is written, without its end. -/
def lineText (ansi : Bool) (line : Styled) : List Char :=
  (expandTabs 0 (cutAt line (placesBehind '\t' 0 line.chars))).runs.flatMap (runText ansi)

/-- The lines of styled text, without their ends. -/
def lines (t : Styled) : List Styled :=
  (cutAt t (placesBehind '\n' 0 t.chars)).map fun line =>
    if line.chars.getLast? = some '\n' then line.part 0 (line.chars.length - 1) else line

/-- **Styled text as it is written**, with a line end behind it. -/
def written (ansi : Bool) (text : Styled) : String :=
  .ofList <| (lines (text.filter fun c => !isDropped c)).flatMap fun line =>
    lineText ansi line ++ ['\n']

end NamenodeShell.Console
