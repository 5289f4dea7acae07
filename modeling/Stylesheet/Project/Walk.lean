import Stylesheet.Ignore.Layers

set_option autoImplicit false

/-! # Walking through a project

A walk visits everything below a directory that no ignore rule hides, in the order in which
it stands there. Links are visited but not followed, except that the walk may start at one.
Nothing below an ignored directory is visited. What is visited is named from the start of
the walk.
-/

namespace Stylesheet.Project

open Disk Ignore

structure Guide where
  start : Place
  layer : Place → Layer

namespace Guide

mutual

def visit (g : Guide) (layers : List Layer) (below : Place) : Node → List Place
  | .file _ => [below]
  | .link _ => [below]
  | .directory entries =>
    below :: visitAll g (g.layer (g.start ++ below) :: layers) below entries

/-- Visits the entries of a directory that are not ignored. -/
def visitAll (g : Guide) (layers : List Layer) (below : Place) :
    List (EntryName × Node) → List Place
  | [] => []
  | (n, node) :: rest =>
    (if isIgnored layers (g.start ++ (below ++ [n])).names node.isDirectory then []
      else visit g layers (below ++ [n]) node)
    ++ visitAll g layers below rest

end

end Guide

/-- The path of what is visited under some names when the walk starts at a path. -/
def pathBelow (root : Path) (names : List Name) : Path :=
  names.foldl (fun p n => p.join ⟨n⟩) root

def standardInput : Path := Path.ofString "-"

/-- Visits everything at and below a path and gives the names from there down to it; standard input
has nothing to visit. Rules from above the start with which something is wrong are an error, but
only a directory has rules to go by. -/
def walk (d : Disk) (root : Path) : Except Failure (List (List Name)) :=
  if root.same standardInput then .ok []
  else
    match d.locate root with
    | .error why => .error (.unsearchable root why)
    | .ok start =>
      match d.node? start with
      | none => .error (.unsearchable root .notFound)
      -- Only a walk through a directory asks what the directories above it say.
      | some (.directory entries) =>
        let (layers, problems) := layersAbove d start
        let guide : Guide := { start, layer := fun place => (layerAt d place).1 }
        if problems ≠ [] then .error (.badIgnoreRules problems)
        else .ok ((guide.visit layers [] (.directory entries)).map Place.names)
      | some _ => .ok [[]]

end Stylesheet.Project
