import NamenodeShell.Entry
import NamenodeShell.Markup.Basic

/-!
# Listings

The lines `ls` and `lls` show. Each entry is one line with a sign for its kind, its name escaped so
that no part of it is taken for a tag; a directory without entries has a line of its own.
-/
set_option autoImplicit false

namespace NamenodeShell.Listing

/-- **The line of an entry**, as markup. -/
def line (e : Entry) : String :=
  let name := Markup.escape e.name
  match e.kind with
  | .directory => s!"    📁 [bold cyan]{name}/[/bold cyan]"
  | .symlink => s!"    📂 [cyan]{name}@[/cyan]"
  | .file => s!"    📄 {name}"
  | .other => s!"    [yellow]?[/yellow] {name} (neither file nor directory)"

/-- What is shown of a directory without entries. -/
def emptyLine : String := "    (empty)"

/-- **The lines of a listing**, as markup. -/
def lines (entries : List Entry) : List String :=
  match Entry.grouped entries with
  | [] => [emptyLine]
  | es => es.map line

end NamenodeShell.Listing
