import NamenodeShell.Bytes
import NamenodeShell.Entry
import NamenodeShell.Path

/-!
# The local disk

A tree of directories, files, symbolic links and devices, and the walk that takes a path through it.
A place is the list of names that leads from the root to it through directories alone; the tree is
the list of the places where something is. `find` is the one walk: it goes from the root or the
working directory name by name, through links in the middle of a path always and through one at its
end if asked, forty links at most.
-/
set_option autoImplicit false

namespace NamenodeShell

/-- What is at a place. -/
inductive Node where
  | directory
  | file (content : Bytes)
  | link (target : String)
  | device
  deriving DecidableEq, Repr

/-- The names that lead from the root to a place. -/
abbrev Place := List String

/-- **The local disk**: what is where, and the directory that paths without a root begin at. The
root is a directory whether it is listed or not. -/
structure Disk where
  tree : List (Place × Node)
  cwd : Place := []

/-- Why the disk refuses a path. -/
inductive Cause where
  | notFound
  | taken
  | notDirectory
  | isDirectory
  | nameTooLong
  | tooManyLinks
  /-- The path holds the character that ends a path on its way to the disk. -/
  | nul
  deriving DecidableEq, Repr

/-- The number the system gives a cause. -/
def Cause.number : Cause → Nat
  | notFound => 2
  | taken => 17
  | notDirectory => 20
  | isDirectory => 21
  | nameTooLong => 36
  | tooManyLinks => 40
  | nul => 22

/-- What the system calls a cause. -/
def Cause.message : Cause → String
  | notFound => "No such file or directory"
  | taken => "File exists"
  | notDirectory => "Not a directory"
  | isDirectory => "Is a directory"
  | nameTooLong => "File name too long"
  | tooManyLinks => "Too many levels of symbolic links"
  | nul => "embedded null byte"

/-- **Where a walk ends**: at something, or in a directory that has no entry of the last name of the
path. `slash` tells whether slashes follow that name. -/
inductive Found where
  | at (place : Place) (node : Node)
  | absent (parent : Place) (name : String) (slash : Bool)
  deriving DecidableEq, Repr

namespace Disk

/-- The most bytes of one name, the NAME_MAX of the system. -/
def maxName : Nat := 255

/-- The most bytes of a path: the PATH_MAX of the system, less the NUL that ends a path there. -/
def maxPath : Nat := 4095

/-- The most links of one walk. One more is taken for a loop, ELOOP. -/
def maxLinks : Nat := 40

/-- What is at a place. -/
def nodeAt? (d : Disk) (place : Place) : Option Node :=
  if place = [] then some .directory else d.tree.lookup place

/-- The names of a path, with an empty one for every slash too many. -/
def namesOf (path : String) : List String :=
  (Path.pieces path.toList).map .ofList

/-- The place that the names of a path are counted from. -/
def start (path : String) (here : Place) : Place :=
  if Path.isRooted path.toList then [] else here

/-- A walk over names from a directory. `onward` goes on from a link, given the directory it is in,
its target and the names after it; `through` tells whether a link at the end counts as its
target. -/
def walkWith (d : Disk) (through : Bool)
    (onward : Place → String → List String → Except Cause Found) :
    Place → List String → Except Cause Found
  | here, [] => .ok (.at here .directory)
  | here, name :: rest =>
    if name = "" ∨ name = "." then walkWith d through onward here rest
    else if name = ".." then walkWith d through onward here.dropLast rest
    else if maxName < name.utf8ByteSize then .error .nameTooLong
    else match d.nodeAt? (here ++ [name]) with
      | none =>
        if rest.all (· == "") then .ok (.absent here name !rest.isEmpty) else .error .notFound
      | some .directory => walkWith d through onward (here ++ [name]) rest
      | some (.link target) =>
        if rest.isEmpty && !through then .ok (.at (here ++ [name]) (.link target))
        else onward here target rest
      | some node => if rest.isEmpty then .ok (.at (here ++ [name]) node) else .error .notDirectory

/-- A walk through at most so many links. -/
def walk (d : Disk) (through : Bool) : (links : Nat) → Place → List String → Except Cause Found
  | 0 => d.walkWith through fun _ _ _ => .error .tooManyLinks
  | links + 1 => d.walkWith through fun here target rest =>
    d.walk through links (start target here) (namesOf target ++ rest)

/-- Where names lead that are those of a path or some of them. -/
def findNames (d : Disk) (through : Bool) (path : String) (names : List String) :
    Except Cause Found :=
  if path.toList.contains '\x00' then .error .nul
  else if path = "" then .error .notFound
  else if maxPath < path.utf8ByteSize then .error .nameTooLong
  else d.walk through maxLinks (start path d.cwd) names

/-- **Where a path leads.** -/
def find (d : Disk) (through : Bool) (path : String) : Except Cause Found :=
  d.findNames through path (namesOf path)

/-- What a path names, and where, with all links followed. -/
def look (d : Disk) (path : String) : Except Cause (Place × Node) := do
  match ← d.find true path with
  | .at place node => return (place, node)
  | .absent .. => throw .notFound

/-- **Whether a path names a directory**, links followed. -/
def isDirectory (d : Disk) (path : String) : Bool :=
  match d.look path with
  | .ok (_, .directory) => true
  | _ => false

/-- Whether a path names a regular file, links followed. -/
def isFile (d : Disk) (path : String) : Bool :=
  match d.look path with
  | .ok (_, .file _) => true
  | _ => false

/-- Whether a path names anything at all, a link at its end being something itself. -/
def isPresent (d : Disk) (path : String) : Bool :=
  match d.find false path with
  | .ok (.at ..) => true
  | _ => false

/-- Where the file is that a path names, for whoever opens it to read. -/
def openForReading (d : Disk) (path : String) : Except Cause Place := do
  match ← d.look path with
  | (_, .directory) => throw .isDirectory
  | (place, _) => return place

/-- The bytes of the file at a place. -/
def contentAt (d : Disk) (place : Place) : Bytes :=
  match d.nodeAt? place with
  | some (.file content) => content
  | _ => []

/-- The disk with something put at a place. -/
def set (d : Disk) (place : Place) (node : Node) : Disk :=
  if (d.tree.lookup place).isSome then
    { d with tree := d.tree.map fun (p, n) => if p == place then (p, node) else (p, n) }
  else { d with tree := d.tree ++ [(place, node)] }

/-- The names in front of the last one of a path, when slashes follow that one and it is no dot
entry. Only a directory can have such a path. -/
def aboveSlashed? (path : String) : Option (List String) :=
  match (namesOf path).reverse with
  | "" :: rest =>
    match rest.dropWhile (· = "") with
    | [] => none
    | last :: above => if last = "." ∨ last = ".." then none else some above.reverse
  | _ => none

/-- **A file created under a path that named nothing before**, with its content. A path that ends in
a slash is refused once the way to its last name has been gone, whatever that name is. -/
def create (d : Disk) (path : String) (content : Bytes) : Except Cause Disk := do
  match aboveSlashed? path with
  | some above =>
    match ← d.findNames true path above with
    | .at _ .directory => throw .isDirectory
    | .at .. => throw .notDirectory
    | .absent .. => throw .notFound
  | none =>
    match ← d.find false path with
    | .at .. => throw .taken
    | .absent parent name _ => return d.set (parent ++ [name]) (.file content)

/-- A directory created under a path that named nothing before. -/
def makeDirectory (d : Disk) (path : String) : Except Cause Disk := do
  match ← d.find false path with
  | .at .. => throw .taken
  | .absent parent name _ => return d.set (parent ++ [name]) .directory

/-- Whether a path leads to anything, links followed. -/
def leadsSomewhere (d : Disk) (path : String) : Bool :=
  match d.look path with
  | .ok _ => true
  | .error _ => false

/-- A directory made, where one that is there already will do. -/
def ensureDirectory (d : Disk) (path : String) : Disk × Option Cause :=
  match d.makeDirectory path with
  | .ok d => (d, none)
  | .error cause => if d.isDirectory path then (d, none) else (d, some cause)

/-- A directory made, and those on the way to it where they are missing; what was made before a
refusal stays. Each step up the path spends one unit of fuel and leaves a shorter path. -/
def ensureDirectories : (fuel : Nat) → Disk → String → Disk × Option Cause
  | 0, d, _ => (d, none)
  | fuel + 1, d, path =>
    let stem := if Path.base path = "" then Path.parent path else path
    let above := Path.parent stem
    if above = "" ∨ Path.base stem = "" ∨ d.leadsSomewhere above then d.ensureDirectory path
    else
      match ensureDirectories fuel d above with
      | (d, some cause) => if cause = .taken then finish stem path d else (d, some cause)
      | (d, none) => finish stem path d
where
  /-- The last step, once all above is there. -/
  finish (stem path : String) (d : Disk) : Disk × Option Cause :=
    if Path.base stem = "." then (d, none) else d.ensureDirectory path

/-- The file a path names opened for adding to it, and created when there is none. -/
def openForAppend (d : Disk) (path : String) : Except Cause Disk := do
  match ← d.find true path with
  | .at _ .directory => throw .isDirectory
  | .at .. => return d
  | .absent _ _ true => throw .isDirectory
  | .absent parent name false => return d.set (parent ++ [name]) (.file [])

/-- The file a path names emptied, and created when there is none; a path that cannot name a file is
let be. -/
def touch (d : Disk) (path : String) : Disk :=
  match d.find true path with
  | .ok (.at place (.file _)) => d.set place (.file [])
  | .ok (.absent parent name false) => d.set (parent ++ [name]) (.file [])
  | _ => d

/-- The entries of a directory: the names right below it, and what is there. -/
def children (d : Disk) (place : Place) : List (String × Node) :=
  d.tree.filterMap fun (p, node) =>
    match p.getLast? with
    | some name => if p.dropLast = place then some (name, node) else none
    | none => none

/-- What lies below a place, at any depth. -/
def below (d : Disk) (place : Place) : List (Place × Node) :=
  d.tree.filter fun (p, _) => place.isPrefixOf p && place.length < p.length

/-- The disk without a place and all below it. -/
def erase (d : Disk) (place : Place) : Disk :=
  { d with tree := d.tree.filter fun (p, _) => !place.isPrefixOf p }

/-- Something put at a place, with directories made on the way to it where nothing is. -/
def plant (d : Disk) (place : Place) (node : Node) : Disk :=
  let onTheWay := (List.range place.length).tail.map place.take
  let d := onTheWay.foldl (fun d p => if (d.nodeAt? p).isSome then d else d.set p .directory) d
  d.set place node

/-- The working directory as a path. -/
def cwdPath (d : Disk) : String :=
  "/" ++ "/".intercalate d.cwd

end Disk

end NamenodeShell
