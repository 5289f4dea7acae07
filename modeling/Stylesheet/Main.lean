import Stylesheet.CommandLine.Footprint
import Stylesheet.CommandLine.Run
import Stylesheet.Disk.Edit

set_option autoImplicit false

/-! # The program

The program runs on a copy of the disk that holds what the run looks at. It starts with the
project to walk through, if there is one; whatever a run looks at that was not copied yet is
then copied, and the program runs again until nothing new was looked at.
-/

namespace Stylesheet.Program

open CommandLine

def bytesOf (file : String) : IO (List UInt8) := do
  return (← IO.FS.readBinFile file).toList

/-- Copies what stands at a path, and where it really stands if links lead there. -/
def copyPlace (d : Disk) (p : Path) : IO Disk := do
  try
    let real ← IO.FS.realPath p.display
    let target := Path.ofString real.toString
    let d ← match (← real.metadata).type with
      | .dir => pure (d.makeDirectory target)
      | .file => pure (d.writeFile target (← bytesOf real.toString))
      | _ => pure d
    let place := d.settlePath p
    return if (d.node? place).isNone then d.makeLink p target else d
  catch _ => return d

/-- Copies the directory at a path with everything below it, but nothing of installed
packages. -/
partial def copyTree (d : Disk) (dir : String) : IO Disk := do
  let mut d := d.makeDirectory (Path.ofString dir)
  for entry in ← (← IO.FS.realPath dir).readDir do
    let text := entry.path.toString
    let p := Path.ofString text
    match (← entry.path.symlinkMetadata).type with
    | .dir =>
      if entry.fileName = Package.defaultDirectory then d := d.makeDirectory p
      else d ← copyTree d text
    | .file =>
      let bytes ← if isReadInWalk (Name.ofString entry.fileName) then bytesOf text else pure []
      d := d.writeFile p bytes
    | _ =>
      d ← copyPlace d p
      if !d.isPresent p then d := d.makeLink p p
  return d

/-- Copies a project with the ignore rules above it. -/
def copyProject (d : Disk) (root : Path) : IO Disk := do
  try
    let mut d ← copyPlace d root
    let real ← IO.FS.realPath root.display
    if ← real.isDir then d ← copyTree d real.toString
    for dir in (Path.ofString real.toString).parents do
      for file in ruleFiles dir do
        d ← copyPlace d file
    return d
  catch _ => return d

/-- The places that a run looked at and that were not copied yet. -/
def newPlaces (known : List Path) (events : List Event) : List Path :=
  (events.flatMap Event.places).eraseDups.filter fun p => !known.contains p

/-- Runs until nothing new was looked at. -/
partial def runOnCopy (args : List String) (start : Nat) (d : Disk) (known : List Path) :
    IO Outcome := do
  let elapsed := (← IO.monoMsNow) - start
  let answer := run d args (toString elapsed)
  match newPlaces known answer.events with
  | [] => return answer.value
  | places =>
    let mut d := d
    for p in places do
      d ← copyPlace d p
    runOnCopy args start d (places ++ known)

def print (stream : IO.FS.Stream) (colours : Bool) (lines : List (List Text.Segment)) :
    IO Unit := do
  stream.putStr (String.ofList (Text.renderLines colours lines))
  stream.flush

end Stylesheet.Program

open Stylesheet in
def main (args : List String) : IO UInt32 := do
  let start ← IO.monoMsNow
  let here := Path.ofString (← IO.currentDir).toString
  let d : Disk := ({} : Disk).makeDirectory here
  let mut d : Disk := { d with workingDirectory := (d.locate here).toOption.getD [] }
  match CommandLine.Command.ofArguments args with
  | .ok command =>
    match command.project? here with
    | some root => d ← Program.copyProject d root
    | none => pure ()
  | .error _ => pure ()
  let outcome ← Program.runOnCopy args start d []
  let stdout ← IO.getStdout
  let colours := CommandLine.wantsColours (← IO.getEnv "CLICOLOR_FORCE") (← IO.getEnv "NO_COLOR")
    (← IO.getEnv "CLICOLOR") (← stdout.isTty)
  Program.print stdout colours outcome.out
  Program.print (← IO.getStderr) colours outcome.err
  return outcome.code
