import NamenodeShell.Text.Pieces

/-!
# Paths

Slash-separated paths and the names in them. `join` puts a name under a directory, `normalize` works
off the dots of a path without asking any disk, and `remoteChild`, which is both with at most one
slash left at the front, is how every remote path of a session comes about. The functions work on
lists of characters; `String` is their public face.
-/
set_option autoImplicit false

namespace NamenodeShell.Path

/-- The pieces of a path between its slashes. -/
def pieces (p : List Char) : List (List Char) :=
  Text.piecesBetween '/' p

/-- Pieces with a slash between each two. -/
def glue (parts : List (List Char)) : List Char :=
  ['/'].intercalate parts

/-- Whether a path begins at the root. -/
def isRooted (p : List Char) : Bool :=
  p.head? == some '/'

/-- A path put under a directory: a rooted one replaces it. -/
def joinChars (dir p : List Char) : List Char :=
  if isRooted p then p
  else if dir.isEmpty || dir.getLast? == some '/' then dir ++ p
  else dir ++ '/' :: p

/-- One piece worked into the pieces kept so far, innermost first. Nothing and a single dot change
nothing; two dots take the innermost piece away, except that a path without a root keeps those that
would lead above its start. -/
def keep (rooted : Bool) (kept : List (List Char)) (piece : List Char) : List (List Char) :=
  if piece = [] ∨ piece = ['.'] then kept
  else if piece ≠ ['.', '.'] then piece :: kept
  else match kept with
    | [] => if rooted then [] else [piece]
    | top :: rest => if top = ['.', '.'] then piece :: kept else rest

/-- The slashes that a normal form keeps in front: two when there are exactly two, otherwise one
when there is any. -/
def rootSlashes (p : List Char) : Nat :=
  match (p.takeWhile (· = '/')).length with
  | 0 => 0
  | 2 => 2
  | _ => 1

/-- A path without empty pieces, single dots, or double dots that have something to take away; the
empty path is a single dot. -/
def normalizeChars (p : List Char) : List Char :=
  let slashes := rootSlashes p
  let kept := (pieces p).foldl (keep (slashes != 0)) []
  match List.replicate slashes '/' ++ glue kept.reverse with
  | [] => ['.']
  | q => q

/-- **The remote path of a name typed in a directory**: normal, with a single slash in front. -/
def remoteChildChars (cwd name : List Char) : List Char :=
  let p := normalizeChars (joinChars cwd name)
  if ['/', '/'].isPrefixOf p then '/' :: p.dropWhile (· = '/') else p

/-- What follows the last slash. -/
def baseChars (p : List Char) : List Char :=
  (p.reverse.takeWhile (· ≠ '/')).reverse

/-- What precedes the last slash, without slashes at its end unless it is nothing else. -/
def parentChars (p : List Char) : List Char :=
  let head := (p.reverse.dropWhile (· ≠ '/')).reverse
  if head.all (· == '/') then head else (head.reverse.dropWhile (· = '/')).reverse

@[inherit_doc joinChars]
def join (dir p : String) : String :=
  .ofList (joinChars dir.toList p.toList)

@[inherit_doc normalizeChars]
def normalize (p : String) : String :=
  .ofList (normalizeChars p.toList)

@[inherit_doc remoteChildChars]
def remoteChild (cwd name : String) : String :=
  .ofList (remoteChildChars cwd.toList name.toList)

/-- **The local path of a name typed in a directory**: joined and left as it is. -/
def localChild (cwd name : String) : String :=
  join cwd name

@[inherit_doc baseChars]
def base (p : String) : String :=
  .ofList (baseChars p.toList)

@[inherit_doc parentChars]
def parent (p : String) : String :=
  .ofList (parentChars p.toList)

/-- A path made rooted by putting it under a directory, and normal. -/
def absolute (cwd p : String) : String :=
  normalize (join cwd p)

/-- **A bare name**: the name of one entry of a directory, neither a path nor a dot entry. -/
def isBare (name : String) : Bool :=
  name != "" && name != "." && name != ".." && !name.toList.contains '/'

/-- Whether a path begins with a drive letter and a colon, the form that is absolute on some
systems whatever the current directory is. -/
def hasDrive (p : String) : Bool :=
  match p.toList with
  | c :: ':' :: _ => ('a' ≤ c && c ≤ 'z') || ('A' ≤ c && c ≤ 'Z')
  | _ => false

/-- A path that begins with a tilde and then a slash, or is a tilde, with the home directory in its
place. The home directory loses the slashes at its end; if nothing is left the path is the root. A
tilde in front of a name stays: whose home that is only the list of users of a system could tell,
and no user is taken to be in it. -/
def expandHome (home p : String) : String :=
  let under (rest : List Char) : String :=
    match (home.toList.reverse.dropWhile (· = '/')).reverse ++ rest with
    | [] => "/"
    | q => .ofList q
  match p.toList with
  | ['~'] => under []
  | '~' :: '/' :: rest => under ('/' :: rest)
  | _ => p

end NamenodeShell.Path
