import NamenodeShell.Session

/-!
# Completion

What the shell offers for a line that is still being typed. Before the first quote it offers
commands; inside a quoted argument that stands for an entry it offers the entries of the directory
on that side whose names begin with what has been typed, directories alone where only a directory
will do. A directory that cannot be listed offers nothing.
-/
set_option autoImplicit false

namespace NamenodeShell

/-- **An offer**: the text to put in place of the last `replaced` characters, and what is shown for
it. -/
structure Completion where
  text : String
  replaced : Nat
  display : String
  deriving DecidableEq, Repr

namespace Completion

/-- The side on which an argument of a command names an entry. -/
inductive Side where
  | remote
  | «local»
  deriving DecidableEq, Repr

/-- The side of the argument at a position. -/
def side? : Verb → Nat → Option Side
  | .get, 0 | .delete, 0 | .cd, 0 | .append, 1 => some .remote
  | .put, 0 | .lcd, 0 | .append, 0 => some .local
  | _, _ => none

/-- Whether a command takes nothing but directories. -/
def wantsDirectory : Verb → Bool
  | .cd | .lcd => true
  | _ => false

/-- The commands that begin with a word. -/
def commands (text : List Char) : List Completion :=
  let word := Text.dropBlanks text
  if word.contains ' ' then []
  else
    (Verb.all.filter fun v => word.isPrefixOf v.word.toList).map fun v =>
      { text := v.word, replaced := word.length, display := v.word }

/-- What follows the last quote. -/
def partialName (text : List Char) : List Char :=
  (text.reverse.takeWhile (· ≠ '"')).reverse

/-- The entries that continue a partial name. -/
def ofEntries (v : Verb) (partialName : List Char) (entries : List Entry) : List Completion :=
  let fitting := (Entry.alphabetical entries).filter fun e =>
    (!wantsDirectory v || e.kind = .directory) && partialName.isPrefixOf e.name.toList
  fitting.map fun e =>
    { text := e.name ++ "\"", replaced := partialName.length
      display := if e.kind = .directory then e.name ++ "/" else e.name }

/-- What fails first when rows that are not all entries are put in order and looked through. -/
def oddRows (v : Verb) (rows : List Listing.Row) : Except Failure (List Completion) := do
  let rows ← Sorting.sort Listing.Row.nameBefore rows
  match rows.filter fun (_, kind) => !wantsDirectory v || kind = .directory with
  | [] => return []
  | (name, _) :: _ => throw (.noMembers name.kindName "startswith")

/-- The offers for an argument on the remote side. -/
def remoteOffers (s : Session) (v : Verb) (partialName : List Char) : Shell (List Completion) := do
  let rows ← s.client.list (← s.remote.here)
  match Listing.entries? rows with
  | some entries => return ofEntries v partialName entries
  | none => oddRows v rows

/-- The offers for an argument on the local side. -/
def localOffers (s : Session) (v : Verb) (partialName : List Char) : Shell (List Completion) := do
  return ofEntries v partialName (← Session.localEntries s.localDir)

/-- The offers, or none when the failure to find them is one the shell expects. -/
def orNone (offers : Shell (List Completion)) : Shell (List Completion) :=
  tryCatch offers fun e => if e.isExpected then return [] else throw e

/-- **The offers for a text in front of the cursor.** -/
def offers (s : Session) (text : String) : Shell (List Completion) :=
  let cs := text.toList
  let quotes := cs.count '"'
  if quotes = 0 then return commands cs
  else if quotes % 2 = 0 then return []
  else
    let name := String.ofList (Text.strip (cs.takeWhile (· ≠ '"')))
    match Verb.ofWord? name with
    | none => return []
    | some v =>
      match side? v (quotes / 2) with
      | some .remote => orNone (remoteOffers s v (partialName cs))
      | some .local => orNone (localOffers s v (partialName cs))
      | none => return []

end Completion

end NamenodeShell
