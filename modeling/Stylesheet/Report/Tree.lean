import Stylesheet.Dependency.ScanResult
import Stylesheet.Path.Relative
import Stylesheet.Text.Styled

set_option autoImplicit false

/-! # The dependency report

A report has a block for each entry and then a summary. A block begins with the entry and
the number of its files, goes on with a branch for each further file and for each import
that leads nowhere, and ends with an empty line. Paths below the root are shown from there.
-/

namespace Stylesheet.Report

open Text Dependency

abbrev Line := List Segment

def number (style : Style) (n : Nat) : Segment := .styled style (toString n)

def header (root : Path) (e : EntryDeps) : Line :=
  [.styled (.colour .blue) (root.displayFrom e.entry), .plain " (",
    number (.boldColour .cyan) e.files.length, .plain " files)"]

/-- An import that leads nowhere, with the reason why. -/
def missing (root : Path) (u : Unresolved) : Line :=
  [.styled (.boldColour .red) "✗", .plain " ", .styled (.colour .red) u.specifier,
    .plain (" (" ++ u.reason.getD "no matching file" ++ " in "
      ++ root.displayFrom u.fromFile ++ ")")]

/-- Lines as the branches of a tree, of which the last one is drawn as such. -/
def branches : List Line → List Line
  | [] => []
  | [l] => [.styled .dimmed "└──" :: .plain "  " :: l]
  | l :: rest => (.styled .dimmed "├──" :: .plain "  " :: l) :: branches rest

def dependencies (e : EntryDeps) : List Path := e.files.drop 1

def leaves (root : Path) (e : EntryDeps) : List Line :=
  (dependencies e).map (fun p => [.plain (root.displayFrom p)])
    ++ e.unresolved.map (missing root)

def block (root : Path) (e : EntryDeps) : List Line :=
  header root e :: branches (leaves root e) ++ [[]]

def rule : Line := [.styled .dimmed (String.ofList (List.replicate 60 '─'))]

def summary (root : Path) (r : ScanResult) : List Line :=
  [ rule,
    [.styled .bold "Summary"],
    [.plain "  Entries: ", number (.boldColour .cyan) r.entries.length],
    [.plain "  Stylesheets analyzed: ", number (.colour .cyan) r.filesAnalyzed] ]
  -- Without entries there is no largest one.
  ++ (match r.largest? with
    | some e =>
      [[.plain "  Largest entry: ", number (.colour .yellow) e.files.length, .plain " files - ",
        .styled (.colour .blue) (root.displayFrom e.entry)]]
    | none => [])
  ++ (if 0 < r.countUnresolved then
      [[.plain "  Unresolved imports: ", number (.boldColour .red) r.countUnresolved]]
    else [])

/-- The whole report, as lines: a block for each entry, in the order of the result, and the summary
behind them. -/
def tree (root : Path) (r : ScanResult) : List Line :=
  r.entries.flatMap (block root) ++ summary root r

/-- What is told when every import leads somewhere. -/
def allResolved (entries : Nat) : Line :=
  [.styled (.boldColour .green) "✓",
    .plain (" All imports resolved across " ++ toString entries ++ " entries")]

end Stylesheet.Report
