import NamenodeShell.Lease.Wait

/-!
# Transfers

Files on their way between the local disk and the service. `put` and `get` create and never replace:
each asks first whether something is at its destination, and creates in a way that fails if
something has come there meanwhile. `append` restores the replication of the file, adds to it, and
waits until it is closed. Data goes in pieces of `Client.bufferSize` bytes.
-/
set_option autoImplicit false

namespace NamenodeShell

/-- Which way a transfer goes. -/
inductive Direction where
  | put
  | get
  | append
  deriving DecidableEq, Repr

/-- What a direction is called. -/
def Direction.word : Direction → String
  | put => "put"
  | get => "get"
  | append => "append"

/-- **A transfer that has been carried out.** -/
structure Transfer where
  source : String
  dest : String
  direction : Direction
  size : Nat
  lease : Option Lease.Outcome := none
  deriving DecidableEq, Repr

namespace Transfer

/-- Fails unless a local path names a regular file. -/
def needFile (path : String) : Shell Unit := do
  unless (← Shell.disk).isFile path do
    throw (.absent path)

/-- What a reader of the file at a place has counted at the end. Right after an upload it is the
number of bytes that went out, for the file is read when the service takes it. -/
def sizeAt (place : Place) : Shell Nat := do
  return (Reader.opened ((← Shell.disk).contentAt place) Client.bufferSize).last.size

/-- **Uploads a local file** into a remote directory under its own name. -/
def put (c : Client) (source remoteDir : String) : Shell Transfer := do
  needFile source
  let dest := Path.remoteChild remoteDir (Path.base source)
  if ← c.exists dest then
    throw (.present dest)
  let place ← Shell.onDisk source (·.openForReading source)
  c.create dest (.file place Client.bufferSize)
  return { source, dest, direction := .put, size := ← sizeAt place }

/-- Creates a local file. -/
def createLocal (dest : String) (content : Bytes) : Shell Disk := do
  match (← Shell.disk).create dest content with
  | .ok d => return d
  | .error .taken => throw (.present dest)
  | .error cause => throw (.disk cause dest)

/-- **Downloads a remote file** into a local directory under its own name. Nothing is created until
the remote file is open; what has come of it stays when the stream breaks off. -/
def get (c : Client) (source localDir : String) : Shell Transfer := do
  unless ← c.exists source do
    throw (.absent source)
  let dest := Path.localChild localDir (Path.base source)
  if (← Shell.disk).isPresent dest then
    throw (.present dest)
  let download ← c.openFile source
  let _ ← createLocal dest []
  let (parts, failure) ← c.readAll download
  Shell.setDisk (← createLocal dest parts.flatten)
  match failure with
  | some f => throw f
  | none => return { source, dest, direction := .get, size := parts.flatten.length }

/-- **Adds a local file to a remote one** and waits until that is closed. -/
def append (c : Client) (patience : Lease.Patience) (source dest : String) : Shell Transfer := do
  needFile source
  unless ← c.exists dest do
    throw (.absent dest)
  let replication ← c.defaultReplication dest
  let _ ← c.setReplication dest replication
  let place ← Shell.onDisk source (·.openForReading source)
  c.append dest (.file place Client.bufferSize)
  let size ← sizeAt place
  let outcome ← Lease.await c patience dest
  return { source, dest, direction := .append, size, lease := some outcome }

end Transfer

end NamenodeShell
