import Stylesheet.Disk.Node
import Stylesheet.Failure

set_option autoImplicit false

/-! # Following paths on a disk

A path is followed name by name. `..` leads to the directory above the one reached, so after
a link it leads above the link's target; a link is replaced by its target, at most forty
times on the way; and everything before the last name must be a directory, also when only a
separator follows. The place that a path leads to has no links on the way.
-/

namespace Stylesheet

/-- A disk, seen from a working directory. -/
structure Disk where
  root : Disk.Node := .nothing
  /-- Where relative paths start. -/
  workingDirectory : Disk.Place := []

namespace Disk

/-- How far names lead before a link has to be followed. -/
inductive Progress
  | arrived (place : Place)
  | stopped (why : IoErrorKind)
  | atLink (dir : Place) (target : Path) (rest : List Name)

def maxName : Nat := 255

def maxPath : Nat := 4095

def maxLinks : Nat := 40

variable (d : Disk)

def node? (place : Place) : Option Node := d.root.lookup place

/-- Follows names from a directory up to the first link. What comes after a file, be it only noise
at the end of a path, asks for a directory that is not there. -/
def advance (dir : Place) : List Name → Progress
  | [] => .arrived dir
  | n :: rest =>
    if n = Name.up then advance dir.dropLast rest
    else if h : n.IsStep ∧ n ≠ Name.up then
      if maxName < n.length then .stopped .invalidFilename
      else match d.node? (dir ++ [⟨n, h⟩]) with
        | none => .stopped .notFound
        | some (.directory _) => advance (dir ++ [⟨n, h⟩]) rest
        | some (.file _) =>
          if rest = [] then .arrived (dir ++ [⟨n, h⟩]) else .stopped .notADirectory
        | some (.link target) => .atLink dir target rest
    -- A piece of a path that names nothing is noise.
    else advance dir rest

def namesOf (p : Path) : List Name := Text.pieces (· == Path.separator) p.bytes

/-- Where a path read in a directory starts. -/
def startOf (dir : Place) (p : Path) : Place := if p.isAbsolute then [] else dir

/-- Follows names from a directory and at most so many links. -/
def follow : Nat → Place → List Name → Except IoErrorKind Place
  | links, dir, names =>
    match d.advance dir names with
    | .arrived place => .ok place
    | .stopped why => .error why
    | .atLink dir target rest =>
      match links with
      | 0 => .error .filesystemLoop
      -- A relative target is read from the directory that holds the link.
      | links + 1 => follow links (startOf dir target) (namesOf target ++ rest)

/-- The place that a path leads to, links followed, or what keeps it from being one. -/
def locate (p : Path) : Except IoErrorKind Place :=
  if p.bytes.contains 0 then .error .invalidInput
  else if p.bytes = [] then .error .notFound
  else if maxPath < p.bytes.length then .error .invalidFilename
  else d.follow maxLinks (startOf d.workingDirectory p) (namesOf p)

def nodeAt (p : Path) : Except IoErrorKind Node :=
  match d.locate p with
  | .error why => .error why
  | .ok place =>
    match d.node? place with
    | some node => .ok node
    | none => .error .notFound

def pathOf (place : Place) : Path := Anchor.root.path place.names

/-- The absolute path without links that leads where a path does. -/
def canonical? (p : Path) : Option Path := (d.locate p).toOption.map pathOf

def isPresent (p : Path) : Bool := (d.nodeAt p).isOk

def isDirectory (p : Path) : Bool :=
  match d.nodeAt p with
  | .ok (.directory _) => true
  | _ => false

def isFile (p : Path) : Bool :=
  match d.nodeAt p with
  | .ok (.file _) => true
  | _ => false

def readBytes (p : Path) : Except IoErrorKind (List UInt8) :=
  match d.nodeAt p with
  | .ok (.file bytes) => .ok bytes
  | .ok (.directory _) => .error .isADirectory
  | .ok (.link _) => .error .notFound
  | .error why => .error why

def readText (p : Path) : Except IoErrorKind String :=
  match d.readBytes p with
  | .error why => .error why
  | .ok bytes =>
    if Utf8.isValid bytes then .ok (Utf8.toStringLossy bytes) else .error .invalidData

end Disk

end Stylesheet
