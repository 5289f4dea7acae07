import Stylesheet.CommandLine.Arguments
import Stylesheet.Importer.Basic
import Stylesheet.Report.Tree

set_option autoImplicit false

/-! # Running commands

A command looks at a disk and prints lines. The program ends with 0 if everything imported
was found, with 1 if something was not or went wrong, and with 2 if the arguments are no
command.
-/

namespace Stylesheet.CommandLine

open Text

/-- What a run leaves behind: its exit code and the lines on both outputs, with their styles. -/
structure Outcome where
  code : UInt32
  out : List (List Segment) := []
  err : List (List Segment) := []

def plainLine (text : String) : List Segment := [.plain text]

def failureLines (e : Failure) : List String :=
  ("Error: " ++ e.message) ::
    match e.causes with
    | [] => []
    | [cause] => ["", "Caused by:", "    " ++ cause]
    | causes =>
      ["", "Caused by:"] ++ causes.mapIdx fun k cause => "    " ++ toString k ++ ": " ++ cause

def failed (e : Failure) : Outcome := { code := 1, err := (failureLines e).map plainLine }

def usage : List (List Segment) :=
  [ "Tools for resolving stylesheet imports", "",
    "  resolve SPECIFIER --from FILE [-I DIR]...",
    "  deps [--root DIR] [-I DIR]... [--entry-glob TEXT]" ].map plainLine

/-- The configuration of a command that searches the given directories. -/
def configFor (d : Disk) (roots : List Path) : Config :=
  { searchRoots := roots
    packages := Package.resolver d.forPackages [Package.defaultDirectory] }

def runResolve (d : Disk) (specifier : String) (source : Path) (includePaths : List Path) :
    Traced Outcome := do
  let here := Disk.pathOf d.workingDirectory
  let source := here.join source
  let dir := Project.entryDirectory source
  let i : Importer :=
    { config := configFor d (includePaths.map here.join), fs := d.toFileSystem, entryDir := dir }
  match ← i.canonicalPath specifier dir with
  | .error e => return failed e
  | .ok (some p) =>
    return { code := 0, out := [[.styled (.boldColour .green) "✓", .plain (" " ++ p.display)]] }
  | .ok none =>
    return { code := 1, out := [[.styled (.boldColour .red) "✗",
      .plain " Could not resolve '", .styled (.colour .red) specifier,
      .plain ("' from " ++ source.display)]] }

def finished (elapsed : String) (filesAnalyzed : Nat) : List Segment :=
  [ .styled (.colour .brightBlue) "●", .plain " Finished in ",
    .styled (.colour .cyan) elapsed, .plain "ms on ",
    Report.number (.colour .cyan) filesAnalyzed, .plain " files." ]

/-- Tells what the entries of a project need. The exit code is 1 if some import leads nowhere, and
the tree is told all the same. -/
def runDeps (d : Disk) (options : Project.Options) (elapsed : String) : Traced Outcome := do
  match ← Project.scan d options with
  | .error e => return failed e
  | .ok r =>
    return {
      code := if r.hasUnresolved then 1 else 0
      out := Report.tree r.root r
        ++ (if r.hasUnresolved then [] else [Report.allResolved r.entries.length])
        ++ [[], finished elapsed r.filesAnalyzed] }

/-- Runs the program. `elapsed` is the number of milliseconds that it will have taken. -/
def run (d : Disk) (args : List String) (elapsed : String) : Traced Outcome :=
  match Command.ofArguments args with
  | .error .help => return { code := 0, out := usage }
  | .error .wrong => return { code := 2, err := usage }
  | .ok (.resolve specifier source includePaths) => runResolve d specifier source includePaths
  | .ok (.deps options) => runDeps d options elapsed

end Stylesheet.CommandLine
