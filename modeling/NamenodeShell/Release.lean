/-!
# The release

The name of the program and the number of this release.
-/
set_option autoImplicit false

namespace NamenodeShell.Release

/-- The name under which the program is started. -/
def program : String := "hdfs-shell"

/-- The number of the release. -/
def number : String := "1.0.0"

/-- **The program and its release.** -/
def text : String := s!"{program} {number}"

end NamenodeShell.Release
