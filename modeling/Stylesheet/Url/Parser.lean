import Stylesheet.Url.Host

set_option autoImplicit false

/-! # Reading URLs

`Url.parse` reads an absolute URL. Blanks and control characters around it are dropped, tabs
and line ends anywhere in it. The schemes of the web and `file` take a backslash for a slash
and always have a path; `.` and `..` segments, also percent-encoded, are taken out of paths.
A segment such as `C:` or `C|` names a drive and is not taken back by `..`. In a `file` URL it
is never read as a host, and as the first segment it is written with a colon and takes the
place of the host.
-/

namespace Stylesheet.Url

open Percent (EncodeSet)

/-! ## Sets of characters to encode -/

def fragmentSet : EncodeSet := Percent.controls.adding " \"<>`"

def pathSet : EncodeSet := fragmentSet.adding "#?\x7b\x7d"

def userinfoSet : EncodeSet := pathSet.adding "/:;=@[\\]^|"

def querySet : EncodeSet := Percent.controls.adding " \"#<>"

def webQuerySet : EncodeSet := querySet.adding "'"

def encodeText (set : EncodeSet) (cs : List Char) : List Char :=
  Percent.encode set (Utf8.encode cs)

/-! ## Schemes -/

/-- What the rest of a URL may look like. -/
inductive SchemeKind
  | file
  /-- A scheme of the web, with its usual port. -/
  | web (port : Nat)
  | other
deriving DecidableEq

def schemeKind (scheme : List Char) : SchemeKind :=
  if scheme = "file".toList then .file
  else if scheme = "http".toList then .web 80
  else if scheme = "https".toList then .web 443
  else if scheme = "ws".toList then .web 80
  else if scheme = "wss".toList then .web 443
  else if scheme = "ftp".toList then .web 21
  else .other

/-- Whether a scheme is no other than `file` and those of the web. -/
def SchemeKind.isKnown : SchemeKind → Bool
  | .other => false
  | _ => true

def isSchemeChar (c : Char) : Bool := c.isAlphanum || c == '+' || c == '-' || c == '.'

/-- The scheme in lower case and what follows its colon. -/
def cutScheme? (cs : List Char) : Option (List Char × List Char) :=
  match cs with
  | [] => none
  | c :: _ =>
    if c.isAlpha then
      match cs.dropWhile isSchemeChar with
      | ':' :: rest => some ((cs.takeWhile isSchemeChar).map Char.toLower, rest)
      | _ => none
    else none

/-! ## Paths -/

def isSlash (kind : SchemeKind) (c : Char) : Bool := c == '/' || (c == '\\' && kind.isKnown)

def endsPath (c : Char) : Bool := c == '?' || c == '#'

def isSingleDot (s : List Char) : Bool :=
  [".".toList, "%2e".toList].contains (s.map Char.toLower)

def isDoubleDot (s : List Char) : Bool :=
  ["..".toList, ".%2e".toList, "%2e.".toList, "%2e%2e".toList].contains (s.map Char.toLower)

/-- Whether a segment names a drive: a letter and a colon or bar. -/
def isDrive : List Char → Bool
  | [c, d] => c.isAlpha && (d == ':' || d == '|')
  | _ => false

/-- Whether a segment names a drive, alone or with a backslash after it. -/
def startsWithDrive (s : List Char) : Bool :=
  isDrive (s.take 2) && ((s.drop 2).head?.all (· == '\\'))

/-- The segments read so far, the last one first, without the last one; drives stay. -/
def shorten : List (List Char) → List (List Char)
  | [] => []
  | s :: ss => if startsWithDrive s then s :: ss else ss

structure OpenPath where
  /-- The segments so far, the last one first. -/
  segments : List (List Char) := []
  /-- Whether the first one names a drive. -/
  isOnDrive : Bool := false

/-- A path after one more segment; `isLast` tells that no slash follows it. -/
def OpenPath.push (kind : SchemeKind) (p : OpenPath) (s : List Char) (isLast : Bool) : OpenPath :=
  let ended (ss : List (List Char)) : OpenPath :=
    { p with segments := if isLast then [] :: ss else ss }
  if isDoubleDot s then ended (shorten p.segments)
  else if isSingleDot s then ended p.segments
  else if kind = .file && p.segments = [] && isDrive s then
    { segments := [s.take 1 ++ [':']], isOnDrive := true }
  else { p with segments := s :: p.segments }

/-- Whether a segment goes on behind a drive and a tab or line end, which was dropped; `left`
is the length of what is left of the text from the segment on. -/
def isBroken (breaks : List Nat) (left : Nat) : List Char → Bool
  | c :: ':' :: _ :: _ => c.isAlpha && breaks.contains (left - 2)
  | _ => false

/-- Reads the segments of a path; `left` is the length of what is left of the text. -/
def OpenPath.read (kind : SchemeKind) (breaks : List Nat) :
    Nat → OpenPath → List (List Char) → OpenPath
  | _, p, [] => p
  | left, p, s :: rest =>
    let next :=
      -- What goes on behind a drive is a segment of its own, and no dots are seen in it.
      if kind = .file && p.segments = [] && isBroken breaks left s then
        { p with segments := [encodeText pathSet (s.drop 2), s.take 2] }
      else p.push kind (encodeText pathSet s) (rest = [])
    OpenPath.read kind breaks (left - s.length - 1) next rest

/-- Segments without empty ones in front of the others. -/
def dropLeadingEmpty : List (List Char) → List (List Char)
  | [] => []
  | [s] => [s]
  | s :: t :: rest => if s = [] then dropLeadingEmpty (t :: rest) else s :: t :: rest

/-- The path that the text after its first slash spells; `after` is the length of what
follows it. -/
def openPathOf (kind : SchemeKind) (breaks : List Nat) (cs : List Char) (after : Nat) :
    OpenPath :=
  OpenPath.read kind breaks (cs.length + after) {} (Text.pieces (isSlash kind) cs)

def OpenPath.close (kind : SchemeKind) (p : OpenPath) : List (List Char) :=
  if kind = .file then dropLeadingEmpty p.segments.reverse else p.segments.reverse

def dropSlash (kind : SchemeKind) (cs : List Char) : List Char :=
  match cs with
  | c :: rest => if isSlash kind c then rest else cs
  | [] => []

/-! ## Query and fragment -/

def queryAndFragment (kind : SchemeKind) (cs : List Char) :
    Option (List Char) × Option (List Char) :=
  let set := if kind.isKnown then webQuerySet else querySet
  match cs with
  | '?' :: rest =>
    let query := encodeText set (rest.takeWhile (· != '#'))
    match rest.dropWhile (· != '#') with
    | _ :: fragment => (some query, some (encodeText fragmentSet fragment))
    | [] => (some query, none)
  | '#' :: fragment => (none, some (encodeText fragmentSet fragment))
  | _ => (none, none)

def noHost : Authority := { userinfo := [], host := .domain [], port := none }

/-- A URL whose rest, from its path on, is `cs`. A drive takes the place of the host. -/
def withRest (kind : SchemeKind) (breaks : List Nat) (scheme : List Char)
    (authority : Option Authority) (cs : List Char) : Url :=
  let path := cs.takeWhile (!endsPath ·)
  let rest := cs.dropWhile (!endsPath ·)
  let (query, fragment) := queryAndFragment kind rest
  let read := openPathOf kind breaks (dropSlash kind path) rest.length
  { scheme, query, fragment
    authority := if read.isOnDrive then some noHost else authority
    path := .segments (if path = [] && !kind.isKnown then [] else read.close kind) }

/-! ## Authorities -/

def endsAuthority (kind : SchemeKind) (c : Char) : Bool := isSlash kind c || endsPath c

def userinfoText (cs : List Char) : List Char :=
  let user := encodeText userinfoSet (cs.takeWhile (· != ':'))
  let password := encodeText userinfoSet ((cs.dropWhile (· != ':')).drop 1)
  let both := if password = [] then user else user ++ ':' :: password
  if both = [] then [] else both ++ ['@']

/-- The length of a host: up to a colon outside brackets. -/
def hostLength : Bool → List Char → Nat
  | _, [] => 0
  | inBrackets, c :: cs =>
    if c = ':' && !inBrackets then 0
    else hostLength (if c = '[' then true else if c = ']' then false else inBrackets) cs + 1

/-- The number of a port, if it is not the one that the scheme has anyway. -/
def parsePort (kind : SchemeKind) (cs : List Char) : Except UrlError (Option Nat) :=
  if cs = [] then .ok none
  else match Host.number? 10 cs with
    | none => .error .invalidPort
    | some port =>
      if port > 65535 then .error .invalidPort
      else .ok (if kind = .web port then none else some port)

def cutAtBackslash (cs : List Char) : List Char × List Char :=
  (cs.takeWhile (· != '\\'), cs.dropWhile (· != '\\'))

/-- Reads the text between `//` and the path; `isLast` tells that nothing follows it. A
backslash after the port starts the path. -/
def parseAuthority (kind : SchemeKind) (cs : List Char) (isLast : Bool) :
    Except UrlError (Authority × List Char) := do
  let (user, hostAndPort) :=
    match Text.cutAtLast? ['@'] cs with
    | some (user, rest) => (some user, rest)
    | none => (none, cs)
  -- A lone `@` needs a host, unless the whole text ends with it.
  if user = some [] ∧ hostAndPort = [] ∧ !isLast then throw .emptyHost
  let userinfo := userinfoText (user.getD [])
  let n := hostLength false hostAndPort
  let hostText := hostAndPort.take n
  if kind.isKnown ∧ hostText = [] then throw .emptyHost
  let host ← if kind.isKnown then Host.parse hostText else Host.parseLoose hostText
  let rest := hostAndPort.drop n
  if host = .domain [] ∧ (rest ≠ [] ∨ userinfo ≠ []) then throw .emptyHost
  let (portText, path) := cutAtBackslash (rest.drop 1)
  let port ← parsePort kind portText
  return ({ userinfo, host, port }, path)

/-- Reads what follows the two slashes of a URL that is no `file` URL. -/
def parseAfterSlashes (kind : SchemeKind) (scheme cs : List Char) : Except UrlError Url := do
  let rest := cs.dropWhile (!endsAuthority kind ·)
  let (authority, path) ← parseAuthority kind (cs.takeWhile (!endsAuthority kind ·)) (rest = [])
  return withRest kind [] scheme (some authority) (path ++ rest)

/-! ## File URLs -/

/-- Reads the host of a `file` URL; the machine itself is not named. -/
def parseFileHost (cs : List Char) : Except UrlError Host :=
  if cs = [] then .ok (.domain [])
  else do
    let host ← Host.parse cs
    if host = .domain "localhost".toList then return .domain [] else return host

/-- Reads what follows the scheme of a `file` URL. If no host is named, all that follows the
two slashes belongs to the path. -/
def parseFile (breaks : List Nat) (scheme cs : List Char) : Except UrlError Url :=
  let kind := SchemeKind.file
  match cs with
  | c :: d :: rest =>
    if isSlash kind c && isSlash kind d then
      let hostText := rest.takeWhile (!endsAuthority kind ·)
      -- What looks like a drive belongs to the path.
      if isDrive hostText then .ok (withRest kind breaks scheme (some noHost) ('/' :: rest))
      else do
        let host ← parseFileHost hostText
        let path := rest.dropWhile (!endsAuthority kind ·)
        return withRest kind breaks scheme (some { noHost with host })
          (if host = .domain [] then '/' :: path else path)
    else .ok (withRest kind breaks scheme (some noHost) cs)
  | _ => .ok (withRest kind breaks scheme (some noHost) cs)

/-! ## URLs -/

/-- Reads what follows the scheme of a URL that is neither a `file` URL nor one of the web. -/
def parseOther (scheme cs : List Char) : Except UrlError Url :=
  match cs with
  | '/' :: '/' :: rest => parseAfterSlashes .other scheme rest
  | '/' :: _ => .ok (withRest .other [] scheme none cs)
  | _ =>
    let (query, fragment) := queryAndFragment .other (cs.dropWhile (!endsPath ·))
    let path := encodeText Percent.controls (cs.takeWhile (!endsPath ·))
    .ok { scheme, authority := none, path := .text path, query, fragment }

/-- Whether a character is dropped at the ends of a URL. -/
def isControlOrSpace (c : Char) : Bool := c.toNat ≤ 0x20

/-- Whether a character is dropped anywhere in a URL. -/
def isTabOrLineEnd (c : Char) : Bool := c == '\t' || c == '\n' || c == '\r'

/-- The text that is read as a URL. -/
def significant (cs : List Char) : List Char := cs.filter (!isTabOrLineEnd ·)

/-- The lengths of what is left of the text that is read, at the places where a tab or line
end was dropped. -/
def breaksOf (cs : List Char) : List Nat :=
  (cs.foldr (fun c (left, breaks) =>
    if isTabOrLineEnd c then (left, left :: breaks) else (left + 1, breaks)) (0, [])).2

/-- Reads an absolute URL. Blanks at its ends are dropped and so are tabs and line ends anywhere,
and the scheme tells how the rest is read. -/
def parseChars (cs : List Char) : Except UrlError Url :=
  let given := Text.trimWhile isControlOrSpace cs
  match cutScheme? (significant given) with
  | none => .error .noScheme
  | some (scheme, rest) =>
    match schemeKind scheme with
    | .file => parseFile (breaksOf given) scheme rest
    | .web port => parseAfterSlashes (.web port) scheme (rest.dropWhile (isSlash (.web port)))
    | .other => parseOther scheme rest

def parse (s : String) : Except UrlError Url := parseChars s.toList

end Stylesheet.Url
