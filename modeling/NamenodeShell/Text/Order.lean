import NamenodeShell.Text.Half

/-!
# The order of texts

Texts are put in order code by code; a text stands before its continuations.
-/
set_option autoImplicit false

namespace NamenodeShell.Text

/-- **Whether one text may stand before another.** -/
def inOrder : List Char → List Char → Bool
  | [], _ => true
  | _ :: _, [] => false
  | a :: as, b :: bs => if a = b then inOrder as bs else decide (codeOf a < codeOf b)

end NamenodeShell.Text
