import NamenodeShell.Json.Order
import NamenodeShell.Listing
import NamenodeShell.Sorting

/-!
# Listings as the service reports them

The service gives a kind and, in place of a name, any JSON value. Rows whose names are all texts are
entries. Other rows are put in order as far as their names have one and then shown as far as these
are texts; it is said here what fails first.
-/
set_option autoImplicit false

namespace NamenodeShell.Listing

/-- **What the service reports of an entry.** -/
abbrev Row := Json × Kind

/-- A row as an entry, when its name is a text. -/
def Row.entry? : Row → Option Entry
  | (.text name, kind) => some { name, kind }
  | _ => none

/-- Rows as entries, when all their names are texts. -/
def entries? (rows : List Row) : Option (List Entry) :=
  rows.mapM Row.entry?

/-- Whether one row stands before another in a listing. Rows of one kind whose names are the same
are level, even where names of that kind have no order. -/
def Row.before : Row → Row → Except Failure Bool
  | (a, kind), (b, kind') =>
    if kind ≠ kind' then .ok (decide (kind.rank < kind'.rank))
    else if a.isSame b then .ok false
    else a.before b

/-- Whether the name of one row stands before that of another. -/
def Row.nameBefore : Row → Row → Except Failure Bool
  | (a, _), (b, _) => a.before b

/-- The lines of rows up to the first whose name is no text. -/
def linesUpTo : List Row → List String × Option Failure
  | [] => ([], none)
  | (.text name, kind) :: rest =>
    let (lines, failure) := linesUpTo rest
    (line { name, kind } :: lines, failure)
  | (v, _) :: _ => ([], some (.notText v.kindName))

/-- **The lines of reported rows**, up to the failure that keeps the rest from being shown. -/
def reportedLines (rows : List Row) : List String × Option Failure :=
  match entries? rows with
  | some entries => (lines entries, none)
  | none =>
    match Sorting.sort Row.before rows with
    | .ok rows => linesUpTo rows
    | .error failure => ([], some failure)

end NamenodeShell.Listing
