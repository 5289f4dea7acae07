import Stylesheet.Package.Resolver
import Stylesheet.Trace

set_option autoImplicit false

/-! # Configuration

What is set once for all renders: where imports are searched besides the importing
directory, how packages are found, hooks on contents and paths, who listens to diagnostics,
and what the compiler is told.
-/

namespace Stylesheet

inductive Listener
  | everything
  | warningsOnly
deriving DecidableEq, Repr

def Listener.takes : Listener → Diagnostic → Bool
  | everything, _ => true
  | warningsOnly, d => d.isWarning

/-- The settings of a renderer. Hooks are functions of their arguments, so asking one twice gives
one answer. -/
structure Config where
  /-- Directories searched after the importing one, in order. -/
  searchRoots : List Path := []
  packages : PackageResolver
  /-- Applied to the contents of a stylesheet before anything reads them; the flag tells
  whether it is the entry. -/
  preprocess : Option (String → Path → Bool → Except Failure String) := none
  /-- Applied to an import path before it is looked up. -/
  redirect : Option (Path → Path) := none
  /-- Receives diagnostics besides the result of a render. -/
  listener : Option Listener := none
  sourceMap : Bool := false
  /-- Options for the compiler, sorted by key. -/
  options : List (String × Json) := []

namespace Config

/-- Options with one more; a key that is there already gets the new value. -/
def insertOption (key : String) (value : Json) : List (String × Json) → List (String × Json)
  | [] => [(key, value)]
  | (k, v) :: rest =>
    if key = k then (key, value) :: rest
    else if key < k then (key, value) :: (k, v) :: rest
    else (k, v) :: insertOption key value rest

def withOption (c : Config) (key : String) (value : Json) : Config :=
  { c with options := insertOption key value c.options }

def preprocessed (c : Config) (content : String) (p : Path) (isEntry : Bool) :
    Traced (Except Failure String) :=
  match c.preprocess with
  | some hook => do
    Traced.emit (.preprocessed p isEntry)
    return hook content p isEntry
  | none => return .ok content

def redirected (c : Config) (p : Path) : Traced Path :=
  match c.redirect with
  | some hook => do
    Traced.emit (.redirected p)
    return hook p
  | none => return p

end Config

end Stylesheet
