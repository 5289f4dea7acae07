import Stylesheet.Path.Basic

set_option autoImplicit false

/-! # What lies on a disk

A disk is a tree of directories. Its leaves are files, symbolic links, which hold the path
that they stand for, and empty directories. Only what can name an entry does so (`EntryName`):
`..` and pieces that are noise lead somewhere and are never the names of what lies there.
`Node.lookup` goes down the tree by names alone and takes links for what they are; `Node.put`
changes what it finds (`lookup_put`).
-/

namespace Stylesheet.Disk

/-- The name of an entry in a directory. That it is a step and not `..` is part of it, so that a
place read as a path is a clean one whatever the disk is made of. -/
def EntryName : Type := { n : Name // n.IsStep ∧ n ≠ Name.up }
deriving DecidableEq

/-- Where something lies on a disk: the names from the root down to it. -/
abbrev Place := List EntryName

def Place.names (place : Place) : List Name := place.map Subtype.val

theorem Place.isStep_of_mem_names {place : Place} {n : Name} (h : n ∈ place.names) : n.IsStep := by
  obtain ⟨entry, -, rfl⟩ := List.mem_map.1 h
  exact entry.2.1

inductive Node
  | file (bytes : List UInt8)
  | link (target : Path)
  | directory (entries : List (EntryName × Node))
deriving Inhabited

namespace Node

def nothing : Node := .directory []

def isDirectory : Node → Bool
  | directory _ => true
  | _ => false

def child? (n : EntryName) : List (EntryName × Node) → Option Node
  | [] => none
  | (m, node) :: rest => if m = n then some node else child? n rest

def setChild (n : EntryName) (node : Node) : List (EntryName × Node) → List (EntryName × Node)
  | [] => [(n, node)]
  | (m, old) :: rest => if m = n then (n, node) :: rest else (m, old) :: setChild n node rest

/-- The node at a place below another. Links are not followed, so nothing lies below one. -/
def lookup : Place → Node → Option Node
  | [], node => some node
  | n :: rest, .directory entries =>
    match child? n entries with
    | some node => lookup rest node
    | none => none
  | _ :: _, _ => none

/-- The tree with `new` at a place, and directories on the way there. -/
def put : Place → Node → Node → Node
  | [], _, new => new
  | n :: rest, .directory entries, new =>
    .directory (setChild n (put rest ((child? n entries).getD nothing) new) entries)
  | n :: rest, _, new => .directory [(n, put rest nothing new)]

theorem child?_setChild (n : EntryName) (node : Node) (entries : List (EntryName × Node)) :
    child? n (setChild n node entries) = some node := by
  induction entries with
  | nil => simp [setChild, child?]
  | cons e rest ih =>
    obtain ⟨m, old⟩ := e
    by_cases h : m = n <;> simp [setChild, child?, h, ih]

/-- What was put somewhere is found there. -/
theorem lookup_put (place : Place) (node new : Node) :
    lookup place (put place node new) = some new := by
  induction place generalizing node with
  | nil => rfl
  | cons n rest ih =>
    cases node <;> simp [put, lookup, child?_setChild, child?, ih]

end Node

end Stylesheet.Disk
