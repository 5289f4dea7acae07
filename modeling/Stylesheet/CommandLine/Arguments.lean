import Stylesheet.Project.Scan

set_option autoImplicit false

/-! # Command line arguments

The first argument names a command. Those after it are options, which all take a value, and
positional arguments. A long option has its value after `=` or in the next argument, a short
one right behind its letter, after `=` or in the next argument. A value in the next argument
may not look like an option. After `--` every argument is positional.
-/

namespace Stylesheet.CommandLine

inductive Flag
  | root
  | source
  | includePath
  /-- Keeps only the entries whose path below the root contains the text. -/
  | entryFilter
deriving DecidableEq, Repr

namespace Flag

def long : Flag → String
  | root => "root"
  | source => "from"
  | includePath => "include-path"
  | entryFilter => "entry-glob"

def short? : Flag → Option Char
  | includePath => some 'I'
  | _ => none

def isRepeatable : Flag → Bool
  | includePath => true
  | _ => false

/-- Whether the value of an option is a path. A path may not be empty, while the text that entries
are filtered by may. -/
def isPath : Flag → Bool
  | entryFilter => false
  | _ => true

end Flag

inductive Command
  /-- Tell which file an import from a stylesheet means. -/
  | resolve (specifier : String) (source : Path) (includePaths : List Path)
  /-- Tell what the entries of a project need. -/
  | deps (options : Project.Options)
deriving DecidableEq, Repr

inductive UsageError
  | help
  | wrong
deriving DecidableEq, Repr

/-- An argument as it is understood, once it is known which options its command has. -/
inductive Item
  | positional (text : String)
  | option (flag : Flag) (value : String)
  /-- The question how the program is used, after which no argument counts. -/
  | help
deriving DecidableEq, Repr

/-! ## Options and positional arguments -/

inductive Spelling
  | positional
  /-- The mark after which every argument is positional. -/
  | escape
  | long (name : List Char) (value : Option (List Char))
  | short (letter : Char) (value : Option (List Char))
deriving DecidableEq, Repr

def spellLong (cs : List Char) : Spelling :=
  match Text.cutAt? ['='] cs with
  | some (name, value) => .long name (some value)
  | none => .long cs none

def behindLetter : List Char → Option (List Char)
  | [] => none
  | '=' :: value => some value
  | value => some value

/-- How an argument is spelled, told by the hyphens in front alone. A lone hyphen is no option but
positional. -/
def spell : List Char → Spelling
  | ['-', '-'] => .escape
  | '-' :: '-' :: cs => spellLong cs
  | '-' :: letter :: cs => .short letter (behindLetter cs)
  | _ => .positional

def flagOf? (allowed : List Flag) : Spelling → Option Flag
  | .long name _ => allowed.find? fun f => f.long.toList = name
  | .short letter _ => allowed.find? fun f => f.short? = some letter
  | _ => none

def asksForHelp : Spelling → Bool
  | .long name none => name = "help".toList
  | .short letter _ => letter = 'h'
  | _ => false

def ownValue? : Spelling → Option (List Char)
  | .long _ value => value
  | .short _ value => value
  | _ => none

/-- Reads arguments from left to right, if they can be read. The flag tells whether the escape has
come by, after which all of them are positional. What comes after the question for help does not
count. -/
def readItems (allowed : List Flag) : Bool → List String → Option (List Item)
  | _, [] => some []
  | true, a :: rest => (readItems allowed true rest).map (.positional a :: ·)
  | false, a :: rest =>
    let spelling := spell a.toList
    match spelling with
    | .positional => (readItems allowed false rest).map (.positional a :: ·)
    | .escape => readItems allowed true rest
    | _ =>
      if asksForHelp spelling then some [.help]
      else match flagOf? allowed spelling with
        | none => none
        | some flag =>
          match ownValue? spelling, rest with
          | some value, rest =>
            (readItems allowed false rest).map (.option flag (String.ofList value) :: ·)
          -- The value is the next argument, which may not look like an option itself.
          | none, value :: rest =>
            if spell value.toList = .positional then
              (readItems allowed false rest).map (.option flag value :: ·)
            else none
          | none, [] => none

/-! ## Commands -/

def valuesOf (flag : Flag) (items : List Item) : List String :=
  items.filterMap fun
    | .option f value => if f = flag then some value else none
    | _ => none

def positionals (items : List Item) : List String :=
  items.filterMap fun
    | .positional text => some text
    | _ => none

/-- Whether the values of an option can be what they are: one at most, unless it may be repeated,
and none of them empty if they are paths. -/
def isProper (items : List Item) (flag : Flag) : Bool :=
  let values := valuesOf flag items
  (flag.isRepeatable || values.length ≤ 1) && !(flag.isPath && values.contains "")

def pathsOf (flag : Flag) (items : List Item) : List Path :=
  (valuesOf flag items).map Path.ofString

def resolveFlags : List Flag := [.source, .includePath]

def depsFlags : List Flag := [.root, .includePath, .entryFilter]

/-- Reads the items of a command with at most so many positional arguments. Arguments that are wrong
come before the question how the program is used. -/
def readCommand (flags : List Flag) (limit : Nat) (args : List String) :
    Except UsageError (List Item) :=
  match readItems flags false args with
  | none => .error .wrong
  | some items =>
    if !flags.all (isProper items) || limit < (positionals items).length then .error .wrong
    else if items.contains .help then .error .help
    else .ok items

/-- Whether help may be asked for on what the given words name: the program or a command. -/
def isTopic (words : List String) : Bool :=
  words = [] || ["resolve", "deps", "help"].any fun command => words = [command]

/-- The command that arguments mean, if they mean one. It is named by the first argument, and
options stand behind it. -/
def Command.ofArguments : List String → Except UsageError Command
  | "resolve" :: args =>
    match readCommand resolveFlags 1 args with
    | .error e => .error e
    | .ok items =>
      match positionals items, pathsOf .source items with
      | [specifier], [source] => .ok (.resolve specifier source (pathsOf .includePath items))
      | _, _ => .error .wrong
  | "deps" :: args =>
    (readCommand depsFlags 0 args).map fun items =>
      .deps
        { root := (pathsOf .root items).head?
          includePaths := pathsOf .includePath items
          entryFilter := (valuesOf .entryFilter items).head? }
  | "help" :: words => if isTopic words then .error .help else .error .wrong
  | a :: _ => if asksForHelp (spell a.toList) then .error .help else .error .wrong
  | [] => .error .wrong

end Stylesheet.CommandLine
