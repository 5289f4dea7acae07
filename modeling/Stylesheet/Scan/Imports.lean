import Stylesheet.Dialect
import Stylesheet.Scan.Arguments

set_option autoImplicit false

/-! # Imports of a stylesheet

`scanImports` lists what a stylesheet imports, in order, without understanding the rest of
it. Comments are left out, the rest is cut into statements, and a statement that starts with
a directive has its quoted arguments read. Left aside is what stays in the compiled CSS:
remote addresses, modules of the language, `url(...)`, and plain CSS under `@import`.
-/

namespace Stylesheet.Scan

inductive Directive
  | atImport
  | atUse
  | atForward
deriving DecidableEq, Repr

namespace Directive

def word : Directive → List Char
  | atImport => "@import".toList
  | atUse => "@use".toList
  | atForward => "@forward".toList

/-- The directives in the order in which they are looked for. -/
def all : List Directive := [atImport, atUse, atForward]

end Directive

def endsStatement (d : Dialect) (c : Char) : Bool := c == ';' || (d = .indented && c == '\n')

def isBrace (c : Char) : Bool := c == '\x7b' || c == '\x7d'

/-- What may be a directive in a statement: what follows its last brace. -/
def statementBody (cs : List Char) : List Char := Text.trim (Text.afterLast isBrace cs)

/-- The directive that a text starts with, and what follows its word. Whether that word goes on is
not looked at here. -/
def directive? (cs : List Char) : Option (Directive × List Char) :=
  Directive.all.findSome? fun d => (Text.after? d.word cs).map (d, ·)

/-- Whether a text may follow the word of a directive: a blank or a quote, so that the word does not
go on. -/
def startsArguments : List Char → Bool
  | [] => false
  | c :: _ => Text.isBlank c || isQuote c

/-- Whether a specifier is the address of something on the network. -/
def isRemote (spec : List Char) : Bool :=
  "http://".toList.isPrefixOf spec || "https://".toList.isPrefixOf spec
    || "//".toList.isPrefixOf spec

/-- Whether a specifier names a module of the language itself. -/
def isBuiltIn (spec : List Char) : Bool := "sass:".toList.isPrefixOf spec

def isPlainCss (spec : List Char) : Bool := ".css".toList.isSuffixOf spec

/-- Whether a directive imports what a specifier names. It does not if that is an address, a module
of the language or, under `@import` alone, plain CSS. -/
def imports (d : Directive) (spec : List Char) : Bool :=
  !isRemote spec && !isBuiltIn spec && !(d = .atImport && isPlainCss spec)

/-- The arguments of a directive; only `@import` takes several. -/
def argumentsOf (d : Directive) (cs : List Char) : List (List Char) :=
  -- The others take one argument, and what follows it is no specifier.
  if d = .atImport then splitArguments cs else [cs]

/-- What a directive imports, given what follows its word. -/
def directiveImports (d : Directive) (cs : List Char) : List (List Char) :=
  ((argumentsOf d cs).filterMap fun a => leadingQuoted? (Text.trim a)).filter (imports d)

def statementImports (cs : List Char) : List (List Char) :=
  match directive? (statementBody cs) with
  | some (d, rest) => if startsArguments rest then directiveImports d rest else []
  | none => []

/-- The statements of a stylesheet without comments. A semicolon ends one, and by indentation so
does a line. -/
def statements (d : Dialect) (cs : List Char) : List (List Char) :=
  Text.pieces (endsStatement d) cs

/-- What a stylesheet imports, in order: comments are taken out, the rest is cut into statements,
and each directive is read by itself. -/
def importsOf (d : Dialect) (source : List Char) : List (List Char) :=
  (statements d (stripComments source)).flatMap statementImports

def scanImports (source : String) (d : Dialect) : List String :=
  (importsOf d source.toList).map String.ofList

end Stylesheet.Scan
