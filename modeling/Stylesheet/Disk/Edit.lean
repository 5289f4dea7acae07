import Stylesheet.Disk.Lookup

set_option autoImplicit false

/-! # Making files

Whatever is made is made together with the directories above it. Links on the way are
followed as far as they lead anywhere.
-/

namespace Stylesheet.Disk

/-- The place that names will lead to from a directory once what is missing is made. -/
def settle (d : Disk) (dir : Place) : List Name → Place
  | [] => dir
  | n :: rest =>
    settle d
      -- A name that leads nowhere yet is where the next one will be made.
      (match d.follow maxLinks dir [n] with
        | .ok place => place
        | .error _ => if h : n.IsStep ∧ n ≠ Name.up then dir ++ [⟨n, h⟩] else dir) rest

/-- The place of a path that may not exist: what is missing on the way lies where making it would
put it. -/
def settlePath (d : Disk) (p : Path) : Place :=
  d.settle (startOf d.workingDirectory p) (namesOf p)

def putAt (d : Disk) (place : Place) (node : Node) : Disk :=
  { d with root := d.root.put place node }

def writeFile (d : Disk) (p : Path) (bytes : List UInt8) : Disk :=
  d.putAt (d.settlePath p) (.file bytes)

def makeDirectory (d : Disk) (p : Path) : Disk :=
  let place := d.settlePath p
  match d.node? place with
  | some _ => d
  | none => d.putAt place .nothing

/-- Makes a link that stands for a target, which need not exist. -/
def makeLink (d : Disk) (p : Path) (target : Path) : Disk :=
  d.putAt (d.settlePath p) (.link target)

end Stylesheet.Disk
