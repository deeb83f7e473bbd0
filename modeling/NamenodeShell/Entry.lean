import NamenodeShell.Text.Order

/-!
# Entries of a directory

An entry is a name and a kind, wherever the directory is. A listing shows the kinds in a fixed
order, and within a kind the names in the order of their code points; entries that agree in both
keep the order they came in.
-/
set_option autoImplicit false

namespace NamenodeShell

/-- What an entry is. -/
inductive Kind where
  | directory
  | symlink
  | file
  | other
  deriving DecidableEq, Repr

/-- The place of a kind in a listing. -/
def Kind.rank : Kind → Nat
  | directory => 0
  | symlink => 1
  | file => 2
  | other => 3

/-- What a kind is called. -/
def Kind.word : Kind → String
  | directory => "directory"
  | symlink => "symlink"
  | file => "file"
  | other => "other"

/-- **An entry of a directory.** -/
structure Entry where
  name : String
  kind : Kind
  deriving DecidableEq, Repr

namespace Entry

/-- Whether one entry may stand before another in order of names. -/
def byName (a b : Entry) : Bool :=
  Text.inOrder a.name.toList b.name.toList

/-- Whether one entry may stand before another in a listing. -/
def byKind (a b : Entry) : Bool :=
  if a.kind = b.kind then byName a b else decide (a.kind.rank < b.kind.rank)

/-- **Entries in the order of a listing.** -/
def grouped (entries : List Entry) : List Entry :=
  entries.mergeSort byKind

/-- Entries in order of names, whatever their kind. -/
def alphabetical (entries : List Entry) : List Entry :=
  entries.mergeSort byName

end Entry

end NamenodeShell
