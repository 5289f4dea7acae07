import Stylesheet.CommandLine.Arguments

set_option autoImplicit false

/-! # What a command looks at

A command depends on a disk only through the places it looks at. Its trace tells most of
them (`Event.places`); before that, a scan walks through a project and reads the ignore rules
around it. A copy of those places is as good as the disk.
-/

namespace Stylesheet

/-- The paths that the search for a package looks at: the package in each directory above,
and its manifest. -/
def Package.places (specifier : String) (dir : Path) : List Path :=
  match Specifier.parse? specifier with
  | none => []
  | some s =>
    dir.ancestors.flatMap fun above =>
      let root := rootIn above defaultDirectory s.package
      [root, root.join (Path.ofString manifestName)]

/-- The paths that an event looks at. -/
def Event.places : Event → List Path
  | probed p => [p]
  | packageLookup specifier dir => Package.places specifier dir
  | _ => []

namespace CommandLine

/-- The files that may bring ignore rules to what lies below a directory. -/
def ruleFiles (dir : Path) : List Path :=
  [".ignore", ".gitignore", ".git", ".git/info/exclude", ".jj"].map fun name =>
    dir.join (Path.ofString name)

/-- The project that a command walks through, if it does. -/
def Command.project? (here : Path) : Command → Option Path
  | .resolve .. => none
  | .deps options => some (here.join (options.root.getD Path.empty))

/-- Whether a walk through a project has to know what is in a file. -/
def isReadInWalk (name : Name) : Bool :=
  [".ignore", ".gitignore", ".git", "exclude", "commondir"].any (Name.ofString · = name)
    || [".scss", ".sass", ".css"].any fun ending => (Name.ofString ending).isSuffixOf name

/-- Whether text is to be coloured: if that is forced, or else unless it is forbidden on a
terminal. The arguments are the variables that force and forbid colours, the one that leaves
them to the terminal, and whether there is one. -/
def wantsColours (force forbid leave : Option String) (isTerminal : Bool) : Bool :=
  if force.any (· ≠ "0") then true
  else if forbid.isSome then false
  else leave.all (· ≠ "0") && isTerminal

end CommandLine

end Stylesheet
