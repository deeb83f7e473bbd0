import NamenodeShell.Text.Half
import NamenodeShell.Text.Hex
import NamenodeShell.Text.Printable

/-!
# Quoted text

How a text is shown inside a message: between quotes, with what cannot be printed spelled out. A
single quote marks both ends unless the text holds a single quote and no double one. Backslash and
the mark are preceded by a backslash; tab, line feed and carriage return have letters of their own;
every other character that does not print is written by its code, with two, four or eight digits,
and so is one half of a pair.
-/
set_option autoImplicit false

namespace NamenodeShell.Text

/-- One character between the marks. -/
def quotedChar (mark c : Char) : List Char :=
  if c == '\\' || c == mark then ['\\', c]
  else if c == '\t' then ['\\', 't']
  else if c == '\n' then ['\\', 'n']
  else if c == '\r' then ['\\', 'r']
  else if isPrintable c then [c]
  else
    let code := codeOf c
    if code < 0x100 then '\\' :: 'x' :: hexDigits 2 code
    else if code < 0x10000 then '\\' :: 'u' :: hexDigits 4 code
    else '\\' :: 'U' :: hexDigits 8 code

/-- The mark that stands at both ends. -/
def quoteMark (cs : List Char) : Char :=
  if cs.contains '\x27' && !cs.contains '"' then '"' else '\x27'

/-- **A text as a message shows it.** -/
def quoted (s : String) : String :=
  let mark := quoteMark s.toList
  .ofList (mark :: s.toList.flatMap (quotedChar mark) ++ [mark])

end NamenodeShell.Text
