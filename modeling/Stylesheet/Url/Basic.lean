import Stylesheet.Text.Hex
import Stylesheet.Text.Split

set_option autoImplicit false

/-! # URLs

A URL is kept in the parts that a parser finds in it, each already in its written form: in
lower case where case does not count, percent-encoded where a part allows fewer characters
than were given. `Url.text` puts the parts together again.

Schemes differ in how much structure the rest has. A URL with an authority (`//` and a host,
which may be empty) or with a path that starts with `/` has a path of segments; any other
has a path that is one piece of text.
-/

namespace Stylesheet

inductive Host
  /-- A name; the empty name stands for no host. -/
  | domain (name : List Char)
  | ipv4 (address : Nat)
  | ipv6 (groups : List Nat)
deriving DecidableEq, Repr

/-- What stands between `//` and the path. -/
structure Authority where
  /-- User name and password with the `@` after them, or nothing. -/
  userinfo : List Char
  host : Host
  port : Option Nat
deriving DecidableEq, Repr

inductive UrlPath
  /-- Segments, each written after a `/`. -/
  | segments (ss : List (List Char))
  /-- Text without structure. -/
  | text (t : List Char)
deriving DecidableEq, Repr

/-- A URL in its parts, each in the form in which it is written. What the parts mean is left to the
functions that read them. -/
structure Url where
  scheme : List Char
  authority : Option Authority
  path : UrlPath
  query : Option (List Char)
  fragment : Option (List Char)
deriving DecidableEq, Repr

namespace Host

def ipv4Text (n : Nat) : List Char :=
  Nat.toDigits 10 (n / 0x1000000 % 256) ++ '.' :: Nat.toDigits 10 (n / 0x10000 % 256)
    ++ '.' :: Nat.toDigits 10 (n / 0x100 % 256) ++ '.' :: Nat.toDigits 10 (n % 256)

/-- The number of zeros at the front of a list. -/
def zeroRun (groups : List Nat) : Nat := (groups.takeWhile (· == 0)).length

/-- Start and length of the first longest run of zeros; `i` counts the groups before. -/
def longestZeroRun (i : Nat) : List Nat → Nat × Nat
  | [] => (i, 0)
  | g :: gs =>
    let here := zeroRun (g :: gs)
    let later := longestZeroRun (i + 1) gs
    if later.2 ≤ here then (i, here) else later

def groupsText (groups : List Nat) : List Char :=
  Text.join ':' (groups.map (Nat.toDigits 16))

/-- Eight groups with the first longest run of two or more zeros left out. -/
def ipv6Text (groups : List Nat) : List Char :=
  match longestZeroRun 0 groups with
  | (start, length) =>
    if length < 2 then groupsText groups
    else groupsText (groups.take start) ++ [':', ':'] ++ groupsText (groups.drop (start + length))

def text : Host → List Char
  | domain name => name
  | ipv4 address => ipv4Text address
  | ipv6 groups => '[' :: ipv6Text groups ++ [']']

end Host

namespace Url

def authorityText (a : Authority) : List Char :=
  ['/', '/'] ++ a.userinfo ++ a.host.text
    ++ match a.port with
      | some port => ':' :: Nat.toDigits 10 port
      | none => []

/-- The text of a path. A path that starts with two slashes and follows no authority is
written after `/.`, so that it is not read as one. -/
def pathText (authority : Option Authority) : UrlPath → List Char
  | .segments ss =>
    match authority, ss with
    | none, [] :: _ :: _ => ['/', '.'] ++ ss.flatMap ('/' :: ·)
    | _, _ => ss.flatMap ('/' :: ·)
  | .text t => t

def chars (u : Url) : List Char :=
  u.scheme ++ ':' :: (match u.authority with | some a => authorityText a | none => [])
    ++ pathText u.authority u.path
    ++ (match u.query with | some q => '?' :: q | none => [])
    ++ (match u.fragment with | some f => '#' :: f | none => [])

def text (u : Url) : String := String.ofList u.chars

end Url

end Stylesheet
