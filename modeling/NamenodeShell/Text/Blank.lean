/-!
# Blanks

Which characters count as white space in what a person types, and the three cuts made at them:
leading blanks dropped, both ends stripped, and the first word taken. The set is the one of the
Unicode property *White_Space* with the four information separators added; the zero-width
characters and NUL are not in it.
-/
set_option autoImplicit false

namespace NamenodeShell.Text

/-- **A blank**: the controls from TAB to CR, the information separators, the space, NEL, and the
spaces and separators beyond Latin-1. -/
def isBlank (c : Char) : Bool :=
  let n := c.toNat
  (9 ≤ n && n ≤ 13) || (0x1C ≤ n && n ≤ 0x20) || n == 0x85 || n == 0xA0 || n == 0x1680 ||
    (0x2000 ≤ n && n ≤ 0x200A) || n == 0x2028 || n == 0x2029 || n == 0x202F || n == 0x205F ||
    n == 0x3000

/-- The text without its leading blanks. -/
def dropBlanks (cs : List Char) : List Char :=
  cs.dropWhile isBlank

/-- The text without the blanks at either end; blanks between other characters stay. -/
def strip (cs : List Char) : List Char :=
  (dropBlanks (dropBlanks cs).reverse).reverse

/-- The first maximal run of characters that are not blank, empty when there is none. -/
def firstWord (cs : List Char) : List Char :=
  (dropBlanks cs).takeWhile fun c => !isBlank c

end NamenodeShell.Text
