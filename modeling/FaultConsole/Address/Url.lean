import FaultConsole.Address.Ip
import FaultConsole.Address.Punycode

/-!
# Web addresses

An http or https address is normalised before anything is sent to it, as browsers do: the name
of the host is in lower case, a numeric host has one spelling, the usual port is left out,
segments that lead back are followed, and what may not stand in an address is percent-encoded.
A user's name and password are no part of what is sent to.
-/

namespace FaultConsole.Address

/-- An http or https address. -/
structure Url where
  scheme : String
  host : String
  /-- The port, unless it is the usual one. -/
  port : Option Nat := none
  path : String
  query : Option String := none
  fragment : Option String := none
deriving Repr, DecidableEq

namespace Url

/-- The scheme, the host and the port. -/
def origin (u : Url) : String :=
  u.scheme ++ "://" ++ u.host ++ match u.port with
    | some p => ":" ++ toString p
    | none => ""

/-- The text of an address. -/
def toText (u : Url) : String :=
  let part (mark : String) : Option String → String
    | some s => mark ++ s
    | none => ""
  u.origin ++ u.path ++ part "?" u.query ++ part "#" u.fragment

/-! ## Hosts -/

/-- What may not stand in the name of a host. -/
def isForbidden (c : Char) : Bool :=
  c.toNat ≤ 0x20 || c.toNat == 0x7F || "#/:<>?@[\\]^\x60\x7b|\x7d%".toList.contains c

/-- A character of a name: ASCII letters in lower case, and any full stop as a point. -/
def nameChar (c : Char) : Char :=
  if [0x3002, 0xFF0E, 0xFF61].contains c.toNat then '.' else c.toLower

/-- The labels of a name. -/
def labels (cs : List Char) : List (List Char) := cs.splitOn '.'

/-- A part of a numeric host: decimal, or octal with a leading zero, or hexadecimal. -/
def numberPart? (cs : List Char) : Option Nat :=
  let (base, digits) := match cs with
    | '0' :: 'x' :: rest => (16, rest)
    | '0' :: d :: rest => (8, d :: rest)
    | cs => (10, cs)
  if cs.isEmpty then none
  else digits.foldlM (fun n c =>
    ((Text.Percent.hexValue? c).filter (· < base)).map (n * base + ·)) 0

/-- The parts of a host that is numeric: one whose last label is a number. -/
def numericParts? (name : List Char) : Option (List (List Char)) :=
  let parts := labels name
  let parts := if 1 < parts.length && parts.getLast? == some [] then parts.dropLast else parts
  let last := parts.getLast?.getD []
  if (!last.isEmpty && last.all Char.isDigit) || (numberPart? last).isSome then some parts else none

/-- The address that parts make: the last fills all octets that are left. -/
def ipv4OfParts? (parts : List (List Char)) : Option Nat := do
  let numbers ← parts.mapM numberPart?
  let last ← numbers.getLast?
  let front := numbers.dropLast
  if 4 < parts.length || front.any (255 < ·) || Nat.pow 256 (4 - front.length) ≤ last then none
  else some (front.zipIdx.foldl (fun sum (n, i) => sum + n * Nat.pow 256 (3 - i)) last)

/-- The one spelling of a host. -/
def host? (cs : List Char) : Option String :=
  match cs with
  | '[' :: rest => do
    let (groups, rest) ← readIpv6 rest
    if rest = [']'] then some ("[" ++ ipv6Text groups ++ "]") else none
  | cs => do
    let decoded ← Text.Percent.decode? (String.ofList cs)
    let name := decoded.toList.map nameChar
    if name.isEmpty || name.any isForbidden then none
    else
      let name := ['.'].intercalate ((labels name).map Punycode.encodeLabel)
      match numericParts? name with
      | some parts => (ipv4OfParts? parts).map octetsText
      | none => some (String.ofList name)

/-- The port of a scheme that need not be written. -/
def usualPort (scheme : String) : Nat := if scheme = "https" then 443 else 80

/-- The port after a host; nothing may follow it. -/
def port? (scheme : String) : List Char → Option (Option Nat)
  | [] => some none
  | ':' :: digits =>
    let n := Decimal.digitsValue digits
    if !digits.all Char.isDigit || Nat.pow 2 16 ≤ n then none
    else if digits.isEmpty || n = usualPort scheme then some none
    else some (some n)
  | _ => none

/-- Splits an authority, without its user, where its port starts. -/
def splitPort (cs : List Char) : List Char × List Char :=
  match cs with
  | '[' :: _ =>
    let inside := cs.takeWhile (· != ']')
    (inside ++ (cs.drop inside.length).take 1, cs.drop (inside.length + 1))
  | cs =>
    let host := cs.takeWhile (· != ':')
    (host, cs.drop host.length)

/-! ## Paths -/

/-- A text where the characters that fail a test, and all beyond ASCII, are percent-encoded. -/
def encoded (keep : Char → Bool) (cs : List Char) : List Char :=
  cs.flatMap fun c =>
    if 0x20 < c.toNat && c.toNat < 0x7F && keep c then [c]
    else (String.utf8EncodeChar c).flatMap Text.Percent.escape

/-- What stands for itself in a path. -/
def keepsInPath (c : Char) : Bool := !"\"#<>?\x60\x7b\x7d".toList.contains c

/-- What stands for itself in a query. -/
def keepsInQuery (c : Char) : Bool := ['"', '#', '<', '>', '\''].all (· != c)

/-- What stands for itself in a fragment. -/
def keepsInFragment (c : Char) : Bool := ['"', '<', '>', '\x60'].all (· != c)

/-- What a segment of dots leads to. -/
inductive Step where
  | stay
  | back
  | into

/-- What a segment leads to; a point may be percent-encoded. -/
def stepOf (segment : List Char) : Step :=
  let s := String.ofList (segment.map Char.toLower)
  if s = "." ∨ s = "%2e" then .stay
  else if s = ".." ∨ s = ".%2e" ∨ s = "%2e." ∨ s = "%2e%2e" then .back
  else .into

/-- Follows segments; `way` holds those passed, the last first. A path that ends in dots ends in
a slash. -/
def follow (way : List (List Char)) : List (List Char) → List (List Char)
  | [] => way.reverse
  | s :: rest =>
    let ends := if rest.isEmpty then [[]] else []
    match stepOf s with
    | .stay => follow (ends ++ way) rest
    | .back => follow (ends ++ way.drop 1) rest
    | .into => follow (s :: way) rest

/-- The one spelling of a path. -/
def pathText (cs : List Char) : String :=
  let cs := match cs with
    | '/' :: rest => rest
    | cs => cs
  let segments := follow [] ((cs.splitOn '/').map (encoded keepsInPath))
  String.ofList ('/' :: ['/'].intercalate segments)

/-! ## Reading -/

/-- The scheme, and what follows its colon. -/
def scheme? (cs : List Char) : Option (String × List Char) :=
  let name := String.ofList ((cs.takeWhile (· != ':')).map Char.toLower)
  if name = "http" ∨ name = "https" then some (name, cs.drop (name.length + 1)) else none

/-- Splits a list before the first element that satisfies a test. -/
def splitBefore (test : Char → Bool) (cs : List Char) : List Char × List Char :=
  let front := cs.takeWhile fun c => !test c
  (front, cs.drop front.length)

/-- What follows the last at sign of an authority. A user without a host is no authority. -/
def withoutUser (authority : List Char) : List Char :=
  (authority.reverse.takeWhile (· != '@')).reverse

/-- Reads an http or https address. -/
def parse? (s : String) : Option Url := do
  let cs := ((s.toList.dropWhile (·.toNat ≤ 0x20)).reverse.dropWhile (·.toNat ≤ 0x20)).reverse
  let cs := cs.filter fun c => ['\t', '\n', '\r'].all (· != c)
  let (scheme, rest) ← scheme? cs
  let (front, fragment) := splitBefore (· == '#') rest
  let (front, query) := splitBefore (· == '?') front
  let front := front.map fun c => if c = '\\' then '/' else c
  let (authority, path) := splitBefore (· == '/') (front.dropWhile (· == '/'))
  let (hostPart, portPart) := splitPort (withoutUser authority)
  let host ← host? hostPart
  let port ← port? scheme portPart
  return {
    scheme, host, port
    path := pathText path
    query := query.head?.map fun _ => String.ofList (encoded keepsInQuery (query.drop 1))
    fragment := fragment.head?.map fun _ =>
      String.ofList (encoded keepsInFragment (fragment.drop 1)) }

end Url

end FaultConsole.Address
