import NamenodeShell.Text.Hex

/-!
# Paths in URLs

A path as it stands in a URL: letters, digits, the marks that need no escape and slashes as they
are, everything else as its UTF-8, each byte a percent sign and two digits.
-/
set_option autoImplicit false

namespace NamenodeShell.Url

/-- The characters that stand for themselves. -/
def isPlain (c : Char) : Bool :=
  c.isAlphanum || c == '_' || c == '.' || c == '-' || c == '~' || c == '/'

/-- A byte as an escape. -/
def escapedByte (b : UInt8) : List Char :=
  ['%', Text.upperHexDigit (b.toNat / 16), Text.upperHexDigit (b.toNat % 16)]

/-- One character of a path. -/
def encodedChar (c : Char) : List Char :=
  if isPlain c then [c] else (String.utf8EncodeChar c).flatMap escapedByte

/-- **A path as it stands in a URL.** Every character has its own bytes in UTF-8, the characters
that are set aside for halves of pairs included; a half itself has no UTF-8 and would not be sent.
-/
def encoded (path : String) : String :=
  .ofList (path.toList.flatMap encodedChar)

end NamenodeShell.Url
