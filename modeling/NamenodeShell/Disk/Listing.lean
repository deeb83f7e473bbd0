import NamenodeShell.Disk.Basic

/-!
# What a local directory holds

The entries of a directory with links followed: a link counts as what it leads to, and one that
leads to nothing is neither file nor directory. A link is followed from the start of the path that
names it, so the links on the way to the directory count too. One that cannot be followed for any
other reason stops the listing with that reason and the path of the link.
-/
set_option autoImplicit false

namespace NamenodeShell.Disk

/-- The kind of what is at the end of all links. -/
def kindOf : Node → Kind
  | .directory => .directory
  | .file _ => .file
  | _ => .other

/-- The kind of the entry of a directory that a path names. -/
def entryKind (d : Disk) (path : String) : Node → Except Cause Kind
  | .link _ =>
    match d.look path with
    | .ok (_, node) => .ok (kindOf node)
    | .error .notFound => .ok .other
    | .error cause => .error cause
  | node => .ok (kindOf node)

/-- **The entries of the directory a path names**, or the cause of the refusal with the path it is
about. -/
def list (d : Disk) (path : String) : Except (Cause × String) (List Entry) :=
  match d.look path with
  | .error cause => .error (cause, path)
  | .ok (place, .directory) =>
    (d.children place).mapM fun (name, node) =>
      match d.entryKind (Path.join path name) node with
      | .ok kind => .ok { name, kind }
      | .error cause => .error (cause, Path.join path name)
  | .ok _ => .error (.notDirectory, path)

end NamenodeShell.Disk
