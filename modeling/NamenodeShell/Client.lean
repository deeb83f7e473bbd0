import NamenodeShell.Json.Access
import NamenodeShell.Shell
import NamenodeShell.Url

/-!
# The client of the service

The operations of the namenode's service as computations of the shell. `Client.send` is the one way
out: it turns faults and refusing responses into failures. What writes does so in two steps: the
namenode says where the data is to go, then the data is sent there.
-/
set_option autoImplicit false

namespace NamenodeShell

/-- **A client**: whom it talks to, for whom, and with what patience. `replication` is what `append`
restores; when it is not given the namenode is asked. -/
structure Client where
  host : String
  port : Int
  user : String
  scheme : String := "http"
  timeout : Float := 30.0
  replication : Option Int := none

namespace Client

/-- Bytes asked for at a time, in either direction. -/
def bufferSize : Nat := 8192

/-- The replication that is restored when nobody can say which. -/
def fallbackReplication : Int := 3

/-- What all URLs of operations begin with. -/
def apiBase (c : Client) : String :=
  let scheme := c.scheme
  let host := c.host
  let port := c.port
  s!"{scheme}://{host}:{port}/webhdfs/v1"

/-- **The URL of a path.** -/
def url (c : Client) (path : String) : String :=
  c.apiBase ++ Url.encoded path

/-! ## Failures of an exchange -/

/-- What a fault on the way means. -/
def faultFailure (c : Client) : Fault → Failure
  | .connection => .unreachable c.host c.port
  | .timeout => .timedOut c.timeout
  | .bare => .bareRefusal
  | .other text => .fault text

/-- What the service reports in the body of a refusal: the class of the failure and its text. -/
def reportFailure (status : Nat) : Json → Failure
  | .object members =>
    match (members.lookup "RemoteException").filter Json.truthy with
    | none => .refused status
    | some (.object report) =>
      match ((report.lookup "exception").getD .null).key with
      | .ok name => .reported name ((report.lookup "message").getD .null)
      | .error e => e
    | some v => .noMembers v.kindName "get"
  | v => .noMembers v.kindName "get"

/-- **What a refusing response means**: what its body reports, or what its status says when the body
is not JSON. -/
def refusal (r : Response) : Failure :=
  match r.json with
  | .ok body => reportFailure r.status body
  | .error why => if why.isOtherText then .refused r.status else .unreadable why

/-- **Sends a request** and gives the response that accepts it. -/
def send (c : Client) (request : Request) : Shell Response := do
  match ← Shell.exchange request with
  | .ok r => if r.isRefusal then throw (refusal r) else return r
  | .error f => throw (c.faultFailure f)

/-! ## Operations -/

/-- The request for an operation on a path. -/
def request (c : Client) (op : Operation) (path : String) (more : List (String × String) := []) :
    Request :=
  .operation op (c.url path) (("op", op.word) :: ("user.name", c.user) :: more) c.timeout

/-- **Asks for an operation on a path.** -/
def perform (c : Client) (op : Operation) (path : String) (more : List (String × String) := []) :
    Shell Response :=
  c.send (c.request op path more)

/-- The body of a response as JSON. -/
def bodyOf (r : Response) : Shell Json :=
  match r.json with
  | .ok v => pure v
  | .error why => throw (.unreadable why)

/-- Whether the body of a response says yes. -/
def agrees (r : Response) : Shell Bool := do
  return (((← (← bodyOf r).get "boolean").getD (.bool false))).truthy

/-- The home directory of the user, as the service gives it. -/
def home (c : Client) : Shell Json := do
  (← bodyOf (← c.perform .home "/")).sub "Path"

/-- What the service knows of a path. -/
def status (c : Client) (path : String) : Shell Json := do
  (← bodyOf (← c.perform .status path)).sub "FileStatus"

/-- The computation, or `false` when what it asks for is not there. -/
def orAbsent (ask : Shell Bool) : Shell Bool :=
  tryCatch ask fun e => if e.category = .notFound then return false else throw e

/-- **Whether something is at a path.** -/
def «exists» (c : Client) (path : String) : Shell Bool :=
  orAbsent do
    let _ ← c.status path
    return true

/-- Whether a status is that of a directory. -/
def isDirectoryStatus (status : Json) : Except Failure Bool := do
  match ← status.get "type" with
  | some (.text word) => return word == "DIRECTORY"
  | _ => return false

/-- **Whether a directory is at a path.** -/
def isDirectory (c : Client) (path : String) : Shell Bool :=
  orAbsent do isDirectoryStatus (← c.status path)

/-- The kind of an entry, from the word the service has for it. -/
def kindOf : Option Json → Except Failure Kind
  | some v => do
    match ← v.key with
    | .text "DIRECTORY" => return .directory
    | .text "SYMLINK" => return .symlink
    | .text "FILE" => return .file
    | _ => return .other
  | none => .ok .other

/-- One entry of a listing. What stands in place of its name need not be a text. -/
def entryOf (v : Json) : Except Failure (Json × Kind) := do
  let name := (← v.get "pathSuffix").getD (.text "")
  return (name, ← kindOf (← v.get "type"))

/-- The entries in the body of a listing. -/
def entriesOf (body : Json) : Except Failure (List (Json × Kind)) := do
  let statuses ← ((← body.get "FileStatuses").getD (.object [])).get "FileStatus"
  match statuses.filter Json.truthy with
  | none => return []
  | some v => (← v.each).mapM entryOf

/-- **The entries of a directory**, in the order the service gives them. -/
def list (c : Client) (path : String) : Shell (List (Json × Kind)) := do
  entriesOf (← bodyOf (← c.perform .list path))

/-- Makes a directory and those on the way to it. -/
def makeDirectories (c : Client) (path : String) : Shell Bool := do
  agrees (← c.perform .makeDirectory path)

/-- Removes what is at a path. -/
def delete (c : Client) (path : String) (recursive : Bool := false) : Shell Bool := do
  agrees (← c.perform .delete path [("recursive", if recursive then "true" else "false")])

/-- Sets how many copies are kept of a file. -/
def setReplication (c : Client) (path : String) (n : Int) : Shell Bool := do
  agrees (← c.perform .setReplication path [("replication", toString n)])

/-! ## Writing -/

/-- The location in the body of a response that has none in its headers. -/
def bodyLocation (r : Response) : Except Failure (Option Json) :=
  match r.json with
  | .ok body => body.get "Location"
  | .error why => if why.isOtherText then .ok none else .error (.unreadable why)

/-- **Where the namenode wants the data**: a header, or else a member of the body. -/
def location (r : Response) : Except Failure (Option Json) :=
  match (r.header? "Location").filter (· ≠ "") with
  | some text => .ok (some (.text text))
  | none => do return (← bodyLocation r).filter Json.truthy

/-- **Writes in two steps.** -/
def write (c : Client) (op : Operation) (path : String) (more : List (String × String))
    (data : Payload) : Shell Unit := do
  match ← location (← c.perform op path more) with
  | none => throw (.noLocation op.word path)
  | some target =>
    let _ ← c.send (.upload op.method target data c.timeout)

/-- Creates a file, never in the place of another. -/
def create (c : Client) (path : String) (data : Payload) : Shell Unit :=
  c.write .create path [("overwrite", "false")] data

/-- Adds to a file. -/
def append (c : Client) (path : String) (data : Payload) : Shell Unit :=
  c.write .append path [] data

/-! ## Reading -/

/-- **A stream that is open**: where the log tells of its opening, and its body. -/
structure Download where
  stream : Nat
  body : Body

/-- Opens a file for reading. -/
def openFile (c : Client) (path : String) : Shell Download := do
  let stream ← Shell.place
  let r ← c.perform .openFile path
  return { stream, body := r.body }

/-- **Reads a stream to its end** and closes it: the pieces that came, empty ones left out, and the
failure that ended them early. -/
def readAll (c : Client) (d : Download) (size : Option Nat := some bufferSize) :
    Shell (List Bytes × Option Failure) := do
  let (parts, ending) := d.body.stream size
  Shell.note (.closed d.stream)
  return (parts.filter (!·.isEmpty), ending.map fun b => c.faultFailure b.fault)

/-! ## Replication and leases -/

/-- The replication the namenode gives new blocks. -/
def serverReplication (c : Client) (path : String) : Shell Int := do
  let body ← bodyOf (← c.perform .serverDefaults path)
  (← (← body.sub "FsServerDefaults").sub "replication").whole

/-- Whether a failure to learn the namenode's replication is made up for. -/
def isForgiven (f : Failure) : Bool :=
  match f.category with
  | .remote | .badJson | .badValue | .missingMember | .wrongKind => true
  | _ => false

/-- **The replication to restore**: the one the client was given, the namenode's, or the usual one
with a warning. -/
def defaultReplication (c : Client) (path : String) : Shell Int :=
  match c.replication with
  | some n => pure n
  | none => tryCatch (c.serverReplication path) fun e => do
    if isForgiven e then
      let reason := e.message
      let n := fallbackReplication
      Shell.warn .client
        (s!"server defaults unavailable ({reason}), using replication {n}; " ++
          "pass --replication to override")
      return n
    else throw e

/-- Whether the blocks of a file say that no writer holds it. -/
def closedStatus (body : Json) : Except Failure Bool := do
  match (← body.get "LocatedBlocks").filter Json.truthy with
  | none => return true
  | some blocks => return !(((← blocks.get "isUnderConstruction").getD (.bool false)).truthy)

/-- **Whether a file is closed.** -/
def isClosed (c : Client) (path : String) : Shell Bool := do
  closedStatus (← bodyOf (← c.perform .blockLocations path))

/-- Asks for the lease on a file to be given up. The service has no such operation and reclaims
leases on its own, so this only learns whether the file is closed already. -/
def recoverLease (c : Client) (path : String) : Shell Bool :=
  c.isClosed path

end Client

end NamenodeShell
