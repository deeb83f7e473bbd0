import NamenodeShell.Client

/-!
# Going to another directory

Where `cd` and `lcd` lead. A remote target is put under the current directory and has to be a
directory there. A local target is tried under the current directory first and then as the system
takes it, from the working directory of the process; a rooted target, or one with a drive letter, is
only taken as it is. What is tried is the path as typed; what comes out is its normal form.
-/
set_option autoImplicit false

namespace NamenodeShell.Navigation

/-- **Where a remote target leads.** -/
def remote (c : Client) (current target : String) : Shell String := do
  if target = "" then
    return current
  let candidate := Path.remoteChild current target
  if ← c.isDirectory candidate then
    return candidate
  if ← c.exists candidate then
    throw (.notRemoteDirectory candidate)
  throw (.noRemoteDirectory candidate)

/-- The paths a local target may mean, in the order in which they are tried. -/
def candidates (current target : String) : List String :=
  if Path.hasDrive target || Path.isRooted target.toList then [target]
  else [Path.join current target, target]

/-- **Where a local target leads.** -/
def «local» (d : Disk) (current target : String) : Except Failure String :=
  if target = "" then .ok current
  else match (candidates current target).find? d.isDirectory with
    | some candidate => .ok (Path.absolute d.cwdPath candidate)
    | none => .error (.noLocalDirectory target)

end NamenodeShell.Navigation
