import Stylesheet.Disk.Lookup
import Stylesheet.FileSystem.Basic
import Stylesheet.Package.Resolver

set_option autoImplicit false

/-! # A disk as a file system

A path at which nothing exists is absent; any other failed check is reported as such.
-/

namespace Stylesheet.Disk

variable (d : Disk)

def probe (p : Path) : Probe :=
  match d.nodeAt p with
  | .ok _ => .found
  | .error .notFound => .absent
  | .error why => .failed why

/-- The disk as a file system. The number of paths is bounded by their length. -/
def toFileSystem : FileSystem where
  probe := d.probe
  read p := (d.readText p).mapError IoErrorKind.error
  capacity := Nat.pow UInt8.size (maxPath + 1)

/-- The disk as the search for packages sees it. -/
def forPackages : Package.Disk where
  isDirectory := d.isDirectory
  text? p := (d.readText p).toOption

end Stylesheet.Disk
