import Recheck.Disk.Lookup
import Recheck.Failure

/-!
# Probing paths

A probe tells whether a path names a file or a directory, or why that cannot be told: a path can
be too long to be looked up. What cannot be found for any other reason is not there.
-/

namespace Recheck.Disk

/-- What a test says of a path, unless the path is too long to be looked up. -/
def probe (disk : Disk) (test : Disk → Text → Bool) (path : Text) : Except Failure Bool :=
  if disk.isTooLong path then .error (.pathTooLong path) else .ok (test disk path)

def probeFile (disk : Disk) (path : Text) : Except Failure Bool := disk.probe isFile path

def probeDirectory (disk : Disk) (path : Text) : Except Failure Bool := disk.probe isDirectory path

end Recheck.Disk
