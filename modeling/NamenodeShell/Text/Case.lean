/-!
# Upper and lower case

The letters of the words this library knows, in either case. Besides the ASCII letters three others
have an ASCII letter as their partner: the dotless i and the long s going up, the sign of the kelvin
going down.
-/
set_option autoImplicit false

namespace NamenodeShell.Text

/-- A letter in upper case. -/
def upper (c : Char) : Char :=
  if c = 'ı' then 'I' else if c = 'ſ' then 'S' else c.toUpper

/-- A letter in lower case. -/
def lower (c : Char) : Char :=
  if c = '\u212A' then 'k' else c.toLower

end NamenodeShell.Text
