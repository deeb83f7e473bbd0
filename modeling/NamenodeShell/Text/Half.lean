/-!
# Halves of pairs

A code from D800 to DFFF is one half of a pair and stands for no character. A text that comes from
elsewhere may still hold such a half on its own. It is kept as the character of the last private
plane that lies 100000 above its code; whoever orders texts or quotes them asks here for the code.

So the characters from 10D800 to 10DFFF, which are private and stand for nothing, are set aside: a
text that really holds one of them is ordered and quoted as if it held the half. A path in a URL
does not ask for the code and has the bytes of the character itself (`Url.encoded`).
-/
set_option autoImplicit false

namespace NamenodeShell.Text

/-- What lies between the code of a half and the character it is kept as. -/
def halfOffset : Nat := 0x100000

/-- Whether a code is that of a half. -/
def isHalfCode (code : Nat) : Bool :=
  0xD800 ≤ code && code ≤ 0xDFFF

/-- **The character of a code**, where a half is kept as the character set aside for it. -/
def charOfCode (code : Nat) : Char :=
  if isHalfCode code then Char.ofNat (halfOffset + code) else Char.ofNat code

/-- The code of a half, when a character is kept for one. -/
def halfCode? (c : Char) : Option Nat :=
  if isHalfCode (c.toNat - halfOffset) then some (c.toNat - halfOffset) else none

/-- The code of a character, that of a half being its own. The character that is set aside for a
half has the code of the half, also where it was meant. -/
def codeOf (c : Char) : Nat :=
  (halfCode? c).getD c.toNat

end NamenodeShell.Text
