import Stylesheet.DomainName.Label
import Stylesheet.Text.Percent
import Stylesheet.Url.Basic

set_option autoImplicit false

/-! # Hosts

Schemes that name machines on the network, and `file`, have hosts of three kinds: domains,
which are written in ASCII and lower case, IPv4 addresses, in any of the number forms that a last label
of digits announces, and IPv6 addresses in brackets. Other schemes have bracketed addresses
and otherwise any text without the signs that end a host.
-/

namespace Stylesheet

inductive UrlError
  | emptyHost
  | invalidDomain
  | invalidPort
  | invalidIpv4
  | invalidIpv6
  | invalidHostCharacter
  | noScheme
deriving DecidableEq, Repr

def UrlError.message : UrlError → String
  | emptyHost => "empty host"
  | invalidDomain => "invalid international domain name"
  | invalidPort => "invalid port number"
  | invalidIpv4 => "invalid IPv4 address"
  | invalidIpv6 => "invalid IPv6 address"
  | invalidHostCharacter => "invalid domain character"
  | noScheme => "relative URL without a base"

namespace Host

/-- The number that digits of a base spell; none if there is none or one is no digit. -/
def number? (base : Nat) (cs : List Char) : Option Nat :=
  if cs = [] then none
  else cs.foldl (fun n c => match n, Hex.value? c with
    | some n, some d => if d < base then some (n * base + d) else none
    | _, _ => none) (some 0)

/-- A part of an IPv4 address: hexadecimal after `0x`, octal after `0`, otherwise decimal. -/
def ipv4Part? (cs : List Char) : Option Nat :=
  match cs with
  | [] => none
  | ['0', 'x'] => some 0
  | ['0', 'X'] => some 0
  | '0' :: 'x' :: rest => number? 16 rest
  | '0' :: 'X' :: rest => number? 16 rest
  | '0' :: c :: rest => number? 8 (c :: rest)
  | _ => number? 10 cs

def withoutLastEmpty (labels : List (List Char)) : List (List Char) :=
  if labels.getLast? = some [] then labels.dropLast else labels

/-- Whether the last label of a domain announces an IPv4 address. -/
def endsInNumber (labels : List (List Char)) : Bool :=
  match (withoutLastEmpty labels).getLast? with
  | none => false
  | some last => (last != [] && last.all Char.isDigit) || (ipv4Part? last).isSome

/-- The address that parts spell: each but the last is one byte, the last is the rest. -/
def ipv4OfParts? (parts : List Nat) : Option Nat :=
  match parts.reverse with
  | [] => none
  | last :: before =>
    if before.length > 3 || before.any (· > 255) || last ≥ Nat.pow 256 (4 - before.length) then
      none
    else
      let (address, _) :=
        before.reverse.foldl (fun (n, k) part => (n + part * Nat.pow 256 k, k - 1)) (last, 3)
      some address

def ipv4? (labels : List (List Char)) : Option Nat :=
  (withoutLastEmpty labels).mapM ipv4Part? >>= ipv4OfParts?

/-- A group of an IPv6 address: one to four hexadecimal digits. -/
def ipv6Group? (cs : List Char) : Option Nat := if cs.length ≤ 4 then number? 16 cs else none

/-- A byte of an IPv4 address inside an IPv6 address: decimal without leading zeros. -/
def strictByte? (cs : List Char) : Option Nat :=
  if cs.head? = some '0' ∧ cs ≠ ['0'] then none
  else match number? 10 cs with
    | some n => if n ≤ 255 then some n else none
    | none => none

/-- The two groups that an IPv4 address inside an IPv6 address stands for. -/
def embeddedIpv4? (cs : List Char) : Option (List Nat) :=
  match (Text.pieces (· == '.') cs).mapM strictByte? with
  | some [a, b, c, d] => some [a * 256 + b, c * 256 + d]
  | _ => none

/-- Groups between colons; the last one may be an IPv4 address if `final` holds. No text is
no group. -/
def ipv6Groups? (final : Bool) (cs : List Char) : Option (List Nat) :=
  if cs = [] then some []
  else
    let pieces := Text.pieces (· == ':') cs
    match pieces.getLast? with
    | none => none
    | some last =>
      if final && last.contains '.' then do
        let before ← pieces.dropLast.mapM ipv6Group?
        let address ← embeddedIpv4? last
        return before ++ address
      else pieces.mapM ipv6Group?

/-- The groups of an IPv6 address. Two colons stand for one or more groups of zero. -/
def ipv6? (cs : List Char) : Option (List Nat) :=
  match Text.cutAt? [':', ':'] cs with
  | none => do
    let groups ← ipv6Groups? true cs
    if groups.length = 8 then return groups else none
  | some (before, after) => do
    let front ← ipv6Groups? false before
    let back ← ipv6Groups? true after
    -- The two colons stand for one group at least.
    if front.length + back.length ≤ 7 then
      return front ++ List.replicate (8 - front.length - back.length) 0 ++ back
    else none

def domain? (cs : List Char) : Except UrlError (List (List Char)) :=
  let bytes := Percent.decodeChars cs
  if Utf8.isValid bytes then
    match DomainName.ascii? (Utf8.decodeLossy bytes) with
    | some labels => .ok labels
    | none => .error .invalidDomain
  else .error .invalidDomain

def bracketed? (cs : List Char) : Except UrlError Host :=
  match cs.getLast? with
  | some ']' =>
    match ipv6? (cs.drop 1).dropLast with
    | some groups => .ok (ipv6 groups)
    | none => .error .invalidIpv6
  | _ => .error .invalidIpv6

/-- Reads a host of a scheme that names machines. -/
def parse (cs : List Char) : Except UrlError Host :=
  if cs.head? = some '[' then bracketed? cs
  else do
    let labels ← domain? cs
    if labels = [[]] then throw .emptyHost
    else if endsInNumber labels then
      match ipv4? labels with
      | some address => return ipv4 address
      | none => throw .invalidIpv4
    else return domain (Text.join '.' labels)

def isForbidden (c : Char) : Bool :=
  c.toNat == 0 || "\t\n\r #/:<>?@[\\]^|".toList.contains c

/-- Reads a host of any other scheme. -/
def parseLoose (cs : List Char) : Except UrlError Host :=
  if cs.head? = some '[' then bracketed? cs
  else if cs.any isForbidden then .error .invalidHostCharacter
  else .ok (domain (Percent.encode Percent.controls (Utf8.encode cs)))

end Host

end Stylesheet
