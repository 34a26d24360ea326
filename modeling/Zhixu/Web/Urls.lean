import Mathlib.Algebra.Group.Nat.Defs
import Zhixu.Framework.Effect
import Zhixu.Domain.Text

/-!
# URLs and addresses

`urllib.parse.urlsplit` and `ipaddress.ip_address`, as far as they decide which sources of a web answer
are shown. Both raise `ValueError`. `urlsplit` does so for a bracket without its counterpart, for what
stands between brackets and is no IPv6 address, and for a host that is not in ASCII and, once normalized,
has a separator in it.

The Unicode tables behind `str.lower` and `unicodedata.normalize` are functions that nothing is assumed
of. Both functions are asked for texts that are not in ASCII, and for others agree with `Char.toLower` and
the identity.
-/

open Framework

namespace Zhixu

/-- The Unicode tables of the interpreter. -/
structure UnicodeTables where
  /-- `str.lower` -/
  lower : List Char → List Char
  /-- `unicodedata.normalize("NFKC", …)` -/
  nfkc : List Char → List Char

/-- `cs.partition(sep)`, without the separator: what is before it and what is behind it. -/
def partition (sep : Char) (cs : List Char) : List Char × List Char :=
  (cs.takeWhile (· ≠ sep), (cs.dropWhile (· ≠ sep)).drop 1)

/-- What is behind the last separator, or everything. -/
def afterLast (sep : Char) (cs : List Char) : List Char :=
  (cs.reverse.takeWhile (· ≠ sep)).reverse

/-! ### Addresses -/

namespace IpAddress

def isDigit (c : Char) : Bool := '0' ≤ c && c ≤ '9'

def isHexDigit (c : Char) : Bool := isDigit c || ('a' ≤ c && c ≤ 'f') || ('A' ≤ c && c ≤ 'F')

/-- The number that digits write in a base. -/
def number (base : ℕ) (cs : List Char) : ℕ :=
  cs.foldl (fun n c => base * n +
    if isDigit c then c.toNat - '0'.toNat else 10 + (c.toLower.toNat - 'a'.toNat)) 0

/-- `_parse_octet`. -/
def parseOctet (cs : List Char) : Option ℕ :=
  if cs = [] ∨ cs.all isDigit = false ∨ 3 < cs.length ∨ (cs ≠ ['0'] ∧ cs.head? = some '0') ∨
      255 < number 10 cs then none
  else some (number 10 cs)

/-- `IPv4Address`. -/
def parseV4 (cs : List Char) : Option ℕ :=
  match (cs.splitOn '.').mapM parseOctet with
  | some [a, b, c, d] => some (((a * 256 + b) * 256 + c) * 256 + d)
  | _ => none

/-- `_parse_hextet`. -/
def parseHextet (cs : List Char) : Option ℕ :=
  if cs = [] ∨ cs.all isHexDigit = false ∨ 4 < cs.length then none else some (number 16 cs)

/-- The hextets of a list of parts as one number. -/
def joinHextets (parts : List (List Char)) : Option ℕ :=
  (parts.mapM parseHextet).map fun hextets => hextets.foldl (fun n hextet => 65536 * n + hextet) 0

/-- The parts of an IPv6 address, with an IPv4 address at the end as two hextets. -/
def hextetParts (cs : List Char) : Option (List (List Char)) :=
  let parts := cs.splitOn ':'
  if parts.length < 3 then none
  else
    match parts.getLast? with
    | none => none
    | some last =>
      if '.' ∈ last then
        (parseV4 last).map fun v4 =>
          parts.dropLast ++ [Nat.toDigits 16 (v4 / 65536), Nat.toDigits 16 (v4 % 65536)]
      else some parts

/-- `IPv6Address._ip_int_from_string`. -/
def parseHextets (cs : List Char) : Option ℕ :=
  match hextetParts cs with
  | none => none
  | some parts =>
    if 9 < parts.length then none
    else
      match (List.range parts.length).filter fun i =>
          0 < i && i + 1 < parts.length && parts[i]? = some [] with
      | [] => if parts.length ≠ 8 then none else joinHextets parts
      | [skip] =>
        let leading := parts.head? = some []
        let trailing := parts.getLast? = some []
        let high := if leading then skip - 1 else skip
        let low := if trailing then parts.length - skip - 2 else parts.length - skip - 1
        if (leading ∧ high ≠ 0) ∨ (trailing ∧ low ≠ 0) ∨ 8 ≤ high + low then none
        else
          match joinHextets (parts.take high), joinHextets (parts.drop (parts.length - low)) with
          | some front, some back => some (front * 65536 ^ (8 - high) + back)
          | _, _ => none
      | _ => none

/-- `IPv6Address`: an address, and a zone behind a percent sign. -/
def parseV6 (cs : List Char) : Option ℕ :=
  let (address, zone) := partition '%' cs
  if '/' ∈ cs ∨ ('%' ∈ cs ∧ (zone = [] ∨ '%' ∈ zone)) then none else parseHextets address

/-- An address is in a network: it agrees with its number down to the bits that are left free. -/
def inNetwork (free network address : ℕ) : Bool := address / 2 ^ free = network / 2 ^ free

/-- `_IPv4Constants._private_networks`, with the bits each leaves free. -/
def privateV4 : List (ℕ × ℕ) :=
  [(24, 0x00000000), (24, 0x0a000000), (24, 0x7f000000), (16, 0xa9fe0000), (20, 0xac100000),
    (8, 0xc0000000), (1, 0xc00000aa), (8, 0xc0000200), (16, 0xc0a80000), (17, 0xc6120000),
    (8, 0xc6336400), (8, 0xcb007100), (28, 0xf0000000), (0, 0xffffffff)]

/-- `_IPv4Constants._private_networks_exceptions`. -/
def publicV4 : List (ℕ × ℕ) := [(0, 0xc0000009), (0, 0xc000000a)]

/-- `_IPv6Constants._private_networks`. -/
def privateV6 : List (ℕ × ℕ) :=
  [(0, 1), (0, 0), (32, 0xffff00000000), (80, 0x0064ff9b000100000000000000000000),
    (64, 0x01000000000000000000000000000000), (105, 0x20010000000000000000000000000000),
    (96, 0x20010db8000000000000000000000000), (112, 0x20020000000000000000000000000000),
    (121, 0xfc000000000000000000000000000000), (118, 0xfe800000000000000000000000000000)]

/-- `_IPv6Constants._private_networks_exceptions`. -/
def publicV6 : List (ℕ × ℕ) :=
  [(0, 0x20010001000000000000000000000001), (0, 0x20010001000000000000000000000002),
    (96, 0x20010003000000000000000000000000), (80, 0x20010004011200000000000000000000),
    (100, 0x20010020000000000000000000000000), (100, 0x20010030000000000000000000000000)]

/-- `is_private`, by the networks of a protocol. -/
def isPrivate (networks exceptions : List (ℕ × ℕ)) (address : ℕ) : Bool :=
  networks.any (fun network => inNetwork network.1 network.2 address) &&
    exceptions.all fun network => !inNetwork network.1 network.2 address

/-- `is_global` of an IPv4 address. -/
def globalV4 (address : ℕ) : Bool :=
  !inNetwork 22 0x64400000 address && !isPrivate privateV4 publicV4 address

/-- `is_global` of an IPv6 address. An IPv4 address that is mapped is judged as one. -/
def globalV6 (address : ℕ) : Bool :=
  if address / 2 ^ 32 = 0xffff then !isPrivate privateV4 publicV4 (address % 2 ^ 32)
  else !isPrivate privateV6 publicV6 address

/-- `ipaddress.ip_address(cs).is_global`; `none` where it is no address. -/
def isGlobal (cs : List Char) : Option Bool :=
  match parseV4 cs with
  | some address => some (globalV4 address)
  | none => (parseV6 cs).map globalV6

example : isGlobal "8.8.8.8".toList = some true ∧ isGlobal "10.0.0.1".toList = some false ∧
    isGlobal "::1".toList = some false ∧ isGlobal "::ffff:192.168.0.1".toList = some false ∧
    isGlobal "2606:4700::1111".toList = some true ∧ isGlobal "a.example".toList = none := by
  decide +kernel

end IpAddress

/-! ### Taking a URL apart -/

/-- `SplitResult`. -/
structure SplitUrl where
  scheme : List Char
  netloc : List Char
  path : List Char
  query : List Char
  fragment : List Char
deriving DecidableEq

namespace SplitUrl

/-- `scheme_chars`. -/
def isSchemeChar (c : Char) : Bool :=
  c.isAlpha || IpAddress.isDigit c || c = '+' || c = '-' || c = '.'

/-- The scheme, in lower case, and what is behind it. -/
def splitScheme (url : List Char) : List Char × List Char :=
  let before := url.takeWhile (· ≠ ':')
  if ':' ∈ url ∧ (before.head?.any Char.isAlpha) = true ∧ before.all isSchemeChar = true then
    (before.map Char.toLower, url.drop (before.length + 1))
  else ([], url)

/-- `_check_bracketed_host`. -/
def bracketedHostOk (host : List Char) : Bool :=
  match host with
  | 'v' :: rest =>
    let digits := rest.takeWhile IpAddress.isHexDigit
    match rest.drop digits.length with
    | '.' :: c :: more => digits ≠ [] && (c :: more).all (· ≠ '\n')
    | _ => false
  | _ => (IpAddress.parseV4 host).isNone && (IpAddress.parseV6 host).isSome

/-- `_checknetloc`: normalizing brings in no separator. -/
def netlocOk (tables : UnicodeTables) (netloc : List Char) : Bool :=
  let plain := netloc.filter fun c => c ∉ ['@', ':', '#', '?']
  netloc.all (fun c => c.toNat < 128) || tables.nfkc plain = plain ||
    (tables.nfkc plain).all fun c => c ∉ ['/', '?', '#', '@', ':']

/-- The network location, if there is one, and what is behind it. -/
def splitNetloc (url : List Char) : List Char × List Char :=
  match url with
  | '/' :: '/' :: rest =>
    let netloc := rest.takeWhile fun c => c ∉ ['/', '?', '#']
    (netloc, rest.drop netloc.length)
  | _ => ([], url)

/-- Brackets come in pairs, with an IPv6 address between them. -/
def bracketsOk (netloc : List Char) : Bool :=
  if '[' ∈ netloc ∧ ']' ∈ netloc then
    bracketedHostOk (partition ']' (partition '[' netloc).2).1
  else '[' ∉ netloc && ']' ∉ netloc

end SplitUrl

open SplitUrl in
/-- `urlsplit`. -/
def urlsplit (tables : UnicodeTables) (url : String) : Except PyError SplitUrl := do
  let url := (url.toList.dropWhile fun c => c.toNat ≤ 32).filter fun c => c ∉ ['\t', '\r', '\n']
  let (scheme, url) := splitScheme url
  let (netloc, url) := splitNetloc url
  raiseIf (bracketsOk netloc = false) .value
  let (url, fragment) := partition '#' url
  let (path, query) := partition '?' url
  raiseIf (netlocOk tables netloc = false) .value
  return { scheme, netloc, path, query, fragment }

namespace SplitUrl

variable (tables : UnicodeTables) (parts : SplitUrl)

/-- `username` and `password`: what is in front of the last at sign. -/
def userinfo : Option (List Char × Option (List Char)) :=
  if '@' ∈ parts.netloc then
    let info := parts.netloc.take (parts.netloc.length - (afterLast '@' parts.netloc).length - 1)
    some ((partition ':' info).1, if ':' ∈ info then some (partition ':' info).2 else none)
  else none

/-- The host as it is written. -/
def writtenHost : List Char :=
  let info := afterLast '@' parts.netloc
  if '[' ∈ info then (partition ']' (partition '[' info).2).1 else (partition ':' info).1

/-- `hostname`, in lower case up to a percent sign; empty where there is none. -/
def hostname : List Char :=
  let host := parts.writtenHost
  tables.lower (host.takeWhile (· ≠ '%')) ++ host.dropWhile (· ≠ '%')

end SplitUrl

/-- The tables, for texts in ASCII. -/
def asciiTables : UnicodeTables := ⟨fun cs => cs.map Char.toLower, id⟩

example : ((urlsplit asciiTables " HTTPS://me:pw@Example.org:80/a?b#c").map fun parts =>
      [parts.scheme, parts.hostname asciiTables, parts.query, parts.fragment]).toOption =
    some ["https".toList, "example.org".toList, ['b'], ['c']] := by
  decide +kernel

example : (urlsplit asciiTables "http://[::1").toOption = none ∧
    (urlsplit asciiTables "http://[example.org]/").toOption = none ∧
    (urlsplit asciiTables "http://[::1]/").toOption.isSome = true := by decide +kernel

end Zhixu
