import Stylesheet.Ignore.Rules
import Stylesheet.Url.Host

set_option autoImplicit false

/-! # Failures

What ends an operation, each with its cause. `Failure.message` is what is told first, and
`Failure.causes` what lies behind it, the nearest cause first.
-/

namespace Stylesheet

inductive Failure
  /-- No directory above `dir` holds the package. -/
  | packageNotFound (specifier : String) (dir : Path)
  | invalidPackage (specifier : String)
  | unreadable (path : Path) (cause : IoError)
  /-- An entry that is not given by an absolute path. -/
  | entryNotAbsolute (path : Path)
  | noEntries (root : Path)
  /-- A directory or file that a search through the project could not look at. -/
  | unsearchable (path : Path) (cause : IoErrorKind)
  /-- Ignore rules above a project with which something is wrong. -/
  | badIgnoreRules (problems : List Ignore.Problem)
  | invalidUrl (cause : UrlError)
  /-- A search that visited more files than there can be. -/
  | endless
  | reported (message : String)
deriving DecidableEq, Repr

namespace Failure

def message : Failure → String
  | packageNotFound specifier dir =>
    "Can't find package '" ++ specifier ++ "' from " ++ dir.display
  | invalidPackage specifier => "Invalid package specifier '" ++ specifier ++ "'"
  | unreadable path _ => "Failed to read " ++ path.display
  | entryNotAbsolute path => "Entry path must be absolute: " ++ path.display
  | noEntries root => "No entry stylesheets found under " ++ root.display
  | unsearchable path cause =>
    path.display ++ ": IO error for operation on " ++ path.display ++ ": " ++ cause.message
  | badIgnoreRules problems => String.intercalate "\n" (problems.map Ignore.Problem.message)
  | invalidUrl cause => cause.message
  | endless => "The search does not end"
  | reported message => message

def causes : Failure → List String
  | unreadable _ cause => [cause.message]
  | _ => []

end Failure

end Stylesheet
