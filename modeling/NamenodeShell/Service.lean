import NamenodeShell.Disk.Basic
import NamenodeShell.Json.Reader
import NamenodeShell.Reader

/-!
# Requests and answers

What passes between the shell and the service. A request is an operation on a path, sent to the
namenode, or the upload of data to the location the namenode gave. An answer is a response, whose
body may be a stream that breaks off, or a fault on the way.
-/
set_option autoImplicit false

namespace NamenodeShell

/-- The method of a request. -/
inductive Method where
  | get
  | put
  | post
  | delete
  deriving DecidableEq, Repr

/-- A method as it is sent. -/
def Method.word : Method → String
  | get => "GET"
  | put => "PUT"
  | post => "POST"
  | delete => "DELETE"

/-- **What the namenode is asked to do** with a path. -/
inductive Operation where
  | home
  | status
  | list
  | makeDirectory
  | delete
  | create
  | append
  | openFile
  | setReplication
  | serverDefaults
  | blockLocations
  deriving DecidableEq, Repr

namespace Operation

/-- An operation as it is sent. -/
def word : Operation → String
  | home => "GETHOMEDIRECTORY"
  | status => "GETFILESTATUS"
  | list => "LISTSTATUS"
  | makeDirectory => "MKDIRS"
  | delete => "DELETE"
  | create => "CREATE"
  | append => "APPEND"
  | openFile => "OPEN"
  | setReplication => "SETREPLICATION"
  | serverDefaults => "GETSERVERDEFAULTS"
  | blockLocations => "GET_BLOCK_LOCATIONS"

/-- The method an operation is sent with. -/
def method : Operation → Method
  | home | status | list | openFile | serverDefaults | blockLocations => .get
  | makeDirectory | create | setReplication => .put
  | append => .post
  | delete => .delete

/-- Whether a redirection is to be followed. The two operations that write want to see it: it names
the place that takes the data. -/
def followsRedirects : Operation → Bool
  | create | append => false
  | _ => true

/-- Whether the body is read piece by piece. -/
def isStreamed : Operation → Bool
  | openFile => true
  | _ => false

end Operation

/-- **The data of an upload.** -/
inductive Payload where
  /-- Pieces that are there. -/
  | parts (data : List Bytes)
  /-- The file at a place, which is read in pieces of one size when the service takes them. -/
  | file (place : Place) (size : Nat)
  deriving DecidableEq, Repr

/-- The pieces of a payload as a disk gives them. -/
def Payload.taken (d : Disk) : Payload → List Bytes
  | parts data => data
  | file place size => (Reader.opened (d.contentAt place) size).pieces

/-- **A request.** -/
inductive Request where
  /-- An operation on the path in `url`, with what the query says. -/
  | operation (op : Operation) (url : String) (query : List (String × String)) (timeout : Float)
  /-- Data sent to a location. -/
  | upload (method : Method) (location : Json) (data : Payload) (timeout : Float)

/-- A request with the pieces that the service takes of its data. -/
def Request.taken (d : Disk) : Request → Request
  | upload method location data timeout => upload method location (.parts (data.taken d)) timeout
  | request => request

/-- **Trouble on the way**, as far as it can be told what it is: trouble with the connection, with
the time it takes, or a refusal that came without a response; and the words of whoever noticed it.
It may be more than one of these. A connection that does not come about in time is trouble with the
connection and with the time. -/
structure Trouble where
  ofConnection : Bool := false
  ofTime : Bool := false
  ofRefusal : Bool := false
  text : String
  deriving DecidableEq, Repr

/-- What can go wrong on the way to the service and back. -/
inductive Fault where
  /-- No connection, or the end of one. -/
  | connection
  /-- No answer in time. -/
  | timeout
  /-- A refusal that came without a response. -/
  | bare
  /-- Anything else, in the words of whoever noticed it. -/
  | other (text : String)
  deriving DecidableEq, Repr

/-- **What trouble counts as.** Trouble with the connection is that before anything else, and
trouble with the time before a refusal. -/
def Trouble.fault (t : Trouble) : Fault :=
  if t.ofConnection then .connection
  else if t.ofTime then .timeout
  else if t.ofRefusal then .bare
  else .other t.text

/-- How a stream breaks off. -/
inductive Break where
  /-- The other side drops the connection. -/
  | reset
  /-- What comes cannot be decoded. -/
  | garbled
  /-- Nothing comes any more. -/
  | stalled
  /-- Anything else that goes wrong on the way while a body comes. -/
  | failed (trouble : Trouble)
  deriving DecidableEq, Repr

/-- The trouble that breaks a stream off. -/
def Break.trouble : Break → Trouble
  | reset => { text := "Connection broken: reset" }
  | garbled => { text := "bad encoding" }
  | stalled => { ofConnection := true, text := "None: Read timed out." }
  | failed trouble => trouble

/-- What is said of a break. -/
def Break.message (b : Break) : String :=
  b.trouble.text

/-- The fault that a break is to whoever reads the stream. -/
def Break.fault (b : Break) : Fault :=
  b.trouble.fault

/-- **The body of a response**: there as a whole, or coming in pieces that may break off. -/
inductive Body where
  | whole (content : Bytes)
  | pieces (parts : List Bytes) (ending : Option Break)
  deriving DecidableEq, Repr

/-- All the bytes of a body, when they come. -/
def Body.content : Body → Except Break Bytes
  | whole content => .ok content
  | pieces parts none => .ok parts.flatten
  | pieces _ (some b) => .error b

/-- The pieces in which a body is read when so many bytes are asked for at a time, and the break
that ends them. When no number of bytes is asked for, a body that is there comes as one piece. -/
def Body.stream (size : Option Nat) : Body → List Bytes × Option Break
  | whole content =>
    match size with
    | some n => (Bytes.chunks n content, none)
    | none => ([content], none)
  | pieces parts ending => (parts, ending)

/-- Why a body cannot be read as JSON. -/
inductive Unreadable where
  | brokenOff (b : Break)
  | notJson (e : Json.SyntaxError)
  deriving DecidableEq

namespace Unreadable

/-- What is said of a body that cannot be read. -/
def message : Unreadable → String
  | brokenOff b => b.message
  | notJson e => e.message

/-- Whether the body came and is something other than JSON. A body that breaks off is not known to
be, nor is one that is nested too deeply. -/
def isOtherText : Unreadable → Bool
  | notJson e =>
    match e.problem with
    | .tooDeep _ => false
    | _ => true
  | brokenOff _ => false

end Unreadable

/-- **A response.** -/
structure Response where
  status : Nat
  /-- Names and values; case does not count in names. -/
  headers : List (String × String)
  body : Body

namespace Response

/-- Whether the service refuses by this response. -/
def isRefusal (r : Response) : Bool :=
  400 ≤ r.status && r.status < 600

/-- The value of a header. Of several of one name the last counts. -/
def header? (r : Response) (name : String) : Option String :=
  (r.headers.reverse.find? fun (n, _) => n.toLower == name.toLower).map (·.2)

/-- **The body read as JSON.** The bytes are always taken for UTF-8. A service that names another
encoding in its headers, or sends UTF-16 or UTF-32 as could be told from the first bytes, is read as
if it had sent UTF-8 too. -/
def json (r : Response) : Except Unreadable Json :=
  match r.body.content with
  | .error b => .error (.brokenOff b)
  | .ok content => (Json.read (Bytes.text content)).mapError .notJson

end Response

/-- What comes back for a request. -/
inductive Reply where
  | response (r : Response)
  | fault (f : Fault)
  /-- The person at the terminal would not wait. -/
  | interrupted

/-- **An answer of the service**, and the file that somebody else creates before it comes. -/
structure Answer where
  reply : Reply
  created : Option String := none

end NamenodeShell
