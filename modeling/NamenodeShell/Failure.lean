import NamenodeShell.Disk.Basic
import NamenodeShell.Markup.Rendering
import NamenodeShell.Service

/-!
# Failures

Every reason for which something asked of the shell is not done, as a cause with what it is about.
`Failure.message` words each cause and `Failure.category` sorts them; nothing else depends on the
wording.
-/
set_option autoImplicit false

namespace NamenodeShell

/-- What kind of failure it is. -/
inductive Category where
  /-- Something asked for is not there. -/
  | notFound
  /-- Something is in the way. -/
  | alreadyExists
  /-- What was typed cannot be used. -/
  | invalidInput
  /-- The service refuses. -/
  | remote
  /-- The service cannot be reached. -/
  | unavailable
  /-- A body is not JSON. -/
  | badJson
  /-- A body breaks off while it is read as JSON. -/
  | brokenOff (b : Break)
  /-- A body is nested too deeply. -/
  | tooDeep
  /-- The local system refuses, with the number it gives. -/
  | system (number : Nat)
  /-- A value is of no use where it stands. -/
  | badValue
  /-- A number is too large. -/
  | overflow
  /-- An object lacks a member. -/
  | missingMember
  /-- A value is of the wrong kind. -/
  | wrongKind
  /-- A value of the wrong kind is asked for a member. -/
  | noMembers
  /-- Text cannot be shown. -/
  | markup
  /-- The person at the terminal interrupts. -/
  | interrupted
  deriving DecidableEq, Repr

/-- **Why something is not done.** -/
inductive Failure where
  -- what was typed
  | notBare (name : String)
  | notRemoteDirectory (path : String)
  | noRemoteDirectory (path : String)
  | noLocalDirectory (target : String)
  -- what is there and what is not
  | absent (path : String)
  | present (path : String)
  | directoryPresent (path : String)
  -- the service
  | unreachable (host : String) (port : Int)
  | timedOut (seconds : Float)
  | bareRefusal
  | refused (status : Nat)
  | reported (name : Json) (text : Json)
  | fault (text : String)
  | noLocation (operation path : String)
  -- the bodies of its answers
  | unreadable (why : Unreadable)
  | missing (member : String)
  | notSubscriptable (kind : String)
  | notAKey (kind : String)
  | noMembers (kind member : String)
  | notIterable (kind : String)
  | unhashable (kind : String)
  | notANumber (kind : String)
  | badInteger (text : String) (problem : Decimal.WholeProblem)
  | noWholePart (infinite : Bool)
  | unordered (left right : String)
  | notText (kind : String)
  | notAPath (kind : String)
  | notBytes
  -- the local disk
  | disk (cause : Cause) (path : String)
  -- the terminal
  | badMarkup (problem : Markup.BadMarkup)
  | interrupted

namespace Failure

/-- The category of a refusal by status alone. -/
def statusCategory (status : Nat) : Category :=
  if status = 404 then .notFound
  else if status = 502 ∨ status = 503 then .unavailable
  else .remote

/-- What a refusal by status alone is called. -/
def statusMessage (status : Nat) : String :=
  if status = 404 then "No such file or directory"
  else if status = 403 then "Permission denied"
  else if status = 500 then "Internal server error"
  else if status = 502 ∨ status = 503 then "Bad Gateway - backend service unavailable"
  else s!"HTTP error {status}"

/-- The category of a failure the service reports by name. -/
def reportCategory : Json → Category
  | .text "FileNotFoundException" => .notFound
  | .text "FileAlreadyExistsException" => .alreadyExists
  | _ => .remote

/-- **What kind of failure it is.** -/
def category : Failure → Category
  | notBare _ | notRemoteDirectory _ => .invalidInput
  | noRemoteDirectory _ | noLocalDirectory _ | absent _ => .notFound
  | present _ | directoryPresent _ => .alreadyExists
  | unreachable .. | timedOut _ => .unavailable
  | bareRefusal | fault _ | noLocation .. => .remote
  | refused status => statusCategory status
  | reported name _ => reportCategory name
  | unreadable (.brokenOff b) => .brokenOff b
  | unreadable (.notJson e) =>
    match e.problem with
    | .tooManyDigits _ => .badValue
    | .tooDeep _ => .tooDeep
    | _ => .badJson
  | missing _ => .missingMember
  | noMembers .. => .noMembers
  | notSubscriptable _ | notAKey _ | notIterable _ | unhashable _ | notANumber _ | unordered ..
  | notText _ | notAPath _ | notBytes => .wrongKind
  | badInteger .. | noWholePart false => .badValue
  | noWholePart true => .overflow
  | disk .nul _ => .badValue
  | disk cause _ => .system cause.number
  | badMarkup (.badPart _) => .badValue
  | badMarkup _ => .markup
  | interrupted => .interrupted

/-- What is said of a text that is no whole number. -/
def integerMessage (text : String) : Decimal.WholeProblem → String
  | .tooManyDigits digits => Decimal.overlongMessage digits
  | .malformed =>
    let shown := String.ofList ((Text.quoted text).toList.take 200)
    s!"invalid literal for int() with base 10: {shown}"

/-- What is said of markup that cannot be shown. -/
def markupMessage : Markup.BadMarkup → String
  | .nothingToClose => "closing tag has nothing to close"
  | .badAction => "arguments of an action cannot be read"
  | .badPart part => integerMessage part.text part.problem

/-- **The wording of a failure.** -/
def message : Failure → String
  | notBare name => s!"'{name}' is not a file name"
  | notRemoteDirectory path => s!"{path}: Not a directory"
  | noRemoteDirectory path => s!"{path}: No such directory"
  | noLocalDirectory target => s!"{target}: No such local directory"
  | absent path => s!"File {path} does not exist"
  | present path => s!"File {path} already exists"
  | directoryPresent path => s!"Dir {path} already exists"
  | unreachable host port => s!"Connection refused - namenode not reachable at {host}:{port}"
  | timedOut seconds =>
    let written := Decimal.text seconds
    s!"Request timeout after {written}s"
  | bareRefusal => "HTTP error"
  | refused status => statusMessage status
  | reported name text => if text.truthy then text.message else name.message
  | fault text => text
  | noLocation operation path => s!"{operation}: namenode returned no datanode location for {path}"
  | unreadable why => why.message
  | missing member => Text.quoted member
  | notSubscriptable kind => s!"'{kind}' object is not subscriptable"
  | notAKey "str" => "string indices must be integers, not 'str'"
  | notAKey kind => s!"{kind} indices must be integers or slices, not str"
  | noMembers kind member => s!"'{kind}' object has no attribute '{member}'"
  | notIterable kind => s!"'{kind}' object is not iterable"
  | unhashable kind => s!"unhashable type: '{kind}'"
  | notANumber kind =>
    s!"int() argument must be a string, a bytes-like object or a real number, not '{kind}'"
  | badInteger text problem => integerMessage text problem
  | noWholePart false => "cannot convert float NaN to integer"
  | noWholePart true => "cannot convert float infinity to integer"
  | unordered left right => s!"'<' not supported between instances of '{left}' and '{right}'"
  | notText kind => s!"expected string or bytes-like object, got '{kind}'"
  | notAPath kind => s!"expected str, bytes or os.PathLike object, not {kind}"
  | notBytes => "quote_from_bytes() expected bytes"
  | disk .nul _ => Cause.nul.message
  | disk cause path =>
    let number := cause.number
    let words := cause.message
    let shown := Text.quoted path
    s!"[Errno {number}] {words}: {shown}"
  | badMarkup problem => markupMessage problem
  | interrupted => ""

/-- Whether the failure is one of those the shell itself tells apart. -/
def isOwn (f : Failure) : Bool :=
  match f.category with
  | .notFound | .alreadyExists | .invalidInput | .remote | .unavailable => true
  | _ => false

/-- Whether the failure comes from the local system, as which a body counts that is not JSON or
breaks off. -/
def isSystem (f : Failure) : Bool :=
  match f.category with
  | .system _ | .badJson | .brokenOff _ => true
  | _ => false

/-- Whether a command reports the failure under its own name. -/
def isExpected (f : Failure) : Bool :=
  f.isOwn || f.isSystem

end Failure

end NamenodeShell
