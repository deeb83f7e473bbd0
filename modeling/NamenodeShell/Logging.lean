import NamenodeShell.Text.Case
import NamenodeShell.Text.Quoted

/-!
# Levels of the log

The level a name stands for. A name is looked up in upper case among the terms of the log; those
that are levels give theirs, a name that is no term stands for warnings and worse, and a term that
is no level is refused.
-/
set_option autoImplicit false

namespace NamenodeShell.Logging

/-- The level of warnings. -/
def warning : Nat := 30

/-- **What a term of the log is.** -/
inductive Term where
  | level (number : Nat)
  /-- The layout of a line. -/
  | layout (text : String)
  /-- The kinds of layout. -/
  | layouts
  deriving DecidableEq, Repr

/-- The terms of the log. -/
def terms : List (String × Term) :=
  [("NOTSET", .level 0), ("DEBUG", .level 10), ("INFO", .level 20), ("WARN", .level warning),
    ("WARNING", .level warning), ("ERROR", .level 40), ("FATAL", .level 50),
    ("CRITICAL", .level 50), ("BASIC_FORMAT", .layout "%(levelname)s:%(name)s:%(message)s"),
    ("_STYLES", .layouts)]

/-- Why a name gives no level: it is the term for something else. -/
inductive NotALevel where
  | layout (text : String)
  | layouts
  deriving DecidableEq, Repr

/-- The wording of a refusal. -/
def NotALevel.message : NotALevel → String
  | layout text => "Unknown level: " ++ Text.quoted text
  | layouts => "Level not an integer or a valid string"

/-- **The level a name stands for.** -/
def level (name : String) : Except NotALevel Nat :=
  match terms.lookup (.ofList (name.toList.map Text.upper)) with
  | none => .ok warning
  | some (.level number) => .ok number
  | some (.layout text) => .error (.layout text)
  | some .layouts => .error .layouts

end NamenodeShell.Logging
