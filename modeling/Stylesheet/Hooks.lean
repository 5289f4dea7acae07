import Stylesheet.Config

set_option autoImplicit false

/-! # Ready-made hooks

Hooks and package resolvers for common wishes: to mark contents, to replace words in contents
and paths, to refuse files, to read packages from one directory or from a table.
-/

namespace Stylesheet

def replaceWord (old new s : String) : String :=
  String.ofList (Text.replaceAll old.toList new.toList s.toList)

namespace Preprocess

abbrev Hook := String → Path → Bool → Except Failure String

/-- Puts a comment in front that tells entries from imports. -/
def tag : Hook := fun content _ isEntry =>
  .ok ((if isEntry then "/* entry */\n" else "/* import */\n") ++ content)

/-- Empties everything but entries. -/
def entryOnly : Hook := fun content _ isEntry => .ok (if isEntry then content else "")

def replacing (old new : String) : Hook := fun content _ _ => .ok (replaceWord old new content)

def refusing (suffix : String) : Hook := fun content p _ =>
  if suffix.toList.isSuffixOf p.display.toList then
    .error (.reported ("preprocess refused " ++ p.display))
  else .ok content

end Preprocess

namespace Redirect

def replacing (old new : String) : Path → Path := fun p =>
  Path.ofString (replaceWord old new p.display)

/-- Reads paths from a directory. -/
def under (dir : Path) : Path → Path := fun p => dir.join p

end Redirect

namespace PackageResolver

/-- All packages lie in one directory. -/
def inDirectory (base : Path) : PackageResolver := fun specifier _ =>
  .ok (base.join (Path.ofString specifier))

/-- All packages lie in a directory of each importing directory. -/
def below (base : Path) : PackageResolver := fun specifier dir =>
  .ok (dir.join (base.join (Path.ofString specifier)))

def none : PackageResolver := fun specifier _ => .error (.reported ("no package " ++ specifier))

/-- Packages are looked up in a table. -/
def ofTable (entries : List (String × Path)) : PackageResolver := fun specifier dir =>
  match entries.lookup specifier with
  | some p => .ok p
  | Option.none => PackageResolver.none specifier dir

end PackageResolver

end Stylesheet
