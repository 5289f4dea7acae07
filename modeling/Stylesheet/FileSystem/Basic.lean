import Stylesheet.Failure
import Stylesheet.Trace

set_option autoImplicit false

/-! # File systems

All that resolution and loading ask of a file system: whether something exists at a path, and
the text of a file. A check that fails, for instance for lack of permission, counts as
nothing being there (`FileSystem.found`).
-/

namespace Stylesheet

inductive Probe
  | found
  | absent
  /-- The check itself failed. -/
  | failed (kind : IoErrorKind)
deriving DecidableEq, Repr

/-- A file system as far as stylesheets need one: it is asked whether something exists at a path,
and for the text of a file. Neither changes it. -/
structure FileSystem where
  probe : Path → Probe
  read : Path → Except IoError String
  /-- No fewer than the different paths at which something exists. -/
  capacity : Nat

namespace FileSystem

/-- Whether something is known to exist at a path. A check that fails counts as one that finds
nothing. -/
def found (fs : FileSystem) (p : Path) : Bool := fs.probe p = .found

def check (fs : FileSystem) (p : Path) : Traced Bool := do
  Traced.emit (.probed p)
  return fs.found p

@[simp] theorem value_check (fs : FileSystem) (p : Path) : (fs.check p).value = fs.found p := rfl

@[simp] theorem events_check (fs : FileSystem) (p : Path) :
    (fs.check p).events = [.probed p] := rfl

@[simp] theorem probes_check (fs : FileSystem) (p : Path) : (fs.check p).probes = [p] := rfl

end FileSystem

end Stylesheet
