/-!
# The address in a request

A request names what it wants by a path, by a full address with scheme and authority, or by an
authority alone. Only the path matters to the server: what follows a question mark or a hash
sign is no part of it, and an authority alone has none.
-/

namespace FaultConsole.Server

/-- Why a request cannot be read. -/
inductive RequestFault where
  | method
  | emptyUri
  | uriTooLong
  | uriCharacter
  | uriFormat
  | authority
  | schemeTooLong
  | headerName
  | headerValue
deriving Repr, DecidableEq

/-- The words for a fault of a request. -/
def RequestFault.message : RequestFault → String
  | method => "invalid HTTP method"
  | emptyUri => "empty string"
  | uriTooLong => "uri too long"
  | uriCharacter => "invalid uri character"
  | uriFormat => "invalid format"
  | authority => "invalid authority"
  | schemeTooLong => "scheme too long"
  | headerName => "invalid HTTP header name"
  | headerValue => "failed to parse header value"

namespace Uri

/-! ## Characters -/

/-- What a scheme is made of. -/
def isSchemeChar (c : Char) : Bool := c.isAlphanum || "+-.~".toList.contains c

/-- What an authority is made of, up to the path. -/
def isAuthorityChar (c : Char) : Bool := c.isAlphanum || "!$&'()*+,-.:;=@[]_~".toList.contains c

/-- What ends an authority. -/
def endsAuthority (c : Char) : Bool := c == '/' || c == '?' || c == '#'

/-- What may stand in a path: no blank, no control, and none of four reserved characters. -/
def isPathChar (c : Char) : Bool :=
  0x21 ≤ c.toNat && ['#', '<', '>', '?', '\x60'].all (· != c)

/-- What may stand in a query. -/
def isQueryChar (c : Char) : Bool :=
  0x21 ≤ c.toNat && ['"', '#', '<', '>'].all (· != c)

/-! ## Parts -/

/-- The path of what follows an authority. -/
def pathOf (cs : List Char) : Except RequestFault (List Char) := do
  let path := cs.takeWhile fun c => c != '?' && c != '#'
  if !path.all isPathChar then throw .uriCharacter
  match cs.drop path.length with
  | '?' :: rest =>
    if (rest.takeWhile (· != '#')).all isQueryChar then return path else throw .uriCharacter
  | _ => return path

/-- What was found in an authority so far. -/
structure Authority where
  /-- Colons since the user's name and the brackets. -/
  colons : Nat := 0
  opened : Bool := false
  closed : Bool := false
  /-- Whether there is an escape since the user's name and the brackets. -/
  escaped : Bool := false
  /-- Whether the last character was an at sign. -/
  atSign : Bool := false

/-- Most colons that are looked at. -/
def maxColons : Nat := 8

/-- Checks one more character of an authority. -/
def Authority.add (a : Authority) (c : Char) : Except RequestFault Authority :=
  let next := { a with atSign := false }
  if c == ':' then
    if maxColons ≤ a.colons then .error .authority else .ok { next with colons := a.colons + 1 }
  else if c == '[' then
    if a.escaped || a.opened then .error .authority else .ok { next with opened := true }
  else if c == ']' then
    if !a.opened || a.closed then .error .authority
    else .ok { next with closed := true, colons := 0, escaped := false }
  else if c == '@' then .ok { next with atSign := true, colons := 0, escaped := false }
  else if c == '%' then .ok { next with escaped := true }
  else if isAuthorityChar c then .ok next
  else .error .uriCharacter

/-- Splits a text where its authority ends. -/
def splitAuthority (cs : List Char) : Except RequestFault (List Char × List Char) := do
  let front := cs.takeWhile fun c => !endsAuthority c
  let a ← front.foldlM Authority.add {}
  if a.opened != a.closed then throw .authority
  if 1 < a.colons || a.atSign || a.escaped then throw .authority
  return (front, cs.drop front.length)

/-- Longest scheme, in characters. -/
def maxScheme : Nat := 64

/-- Longest address, in bytes. -/
def maxLength : Nat := 65534

/-- What follows the scheme of a full address; nothing if there is no scheme. -/
def afterScheme? (cs : List Char) : Except RequestFault (Option (List Char)) :=
  let scheme := cs.takeWhile isSchemeChar
  match cs.drop scheme.length with
  | ':' :: '/' :: '/' :: rest =>
    if cs.length ≤ 3 then .ok none
    else if maxScheme < scheme.length then .error .schemeTooLong
    else .ok (some rest)
  | _ => .ok none

/-- The path of an address; an authority alone has an empty one. -/
def path (uri : String) : Except RequestFault String := do
  if maxLength < uri.utf8ByteSize then throw .uriTooLong
  let path ← match uri.toList with
    | [] => throw .emptyUri
    | ['*'] => pure ['*']
    | '/' :: rest => pathOf ('/' :: rest)
    | [c] =>
      let (_, rest) ← splitAuthority [c]
      if rest.isEmpty then pure [] else throw .uriCharacter
    | cs =>
      match ← afterScheme? cs with
      | none =>
        let (_, rest) ← splitAuthority cs
        if rest.isEmpty then pure [] else throw .uriFormat
      | some rest =>
        let (authority, rest) ← splitAuthority rest
        if authority.isEmpty then throw .uriFormat
        let path ← pathOf rest
        pure (if path.isEmpty then ['/'] else path)
  return String.ofList path

end Uri

end FaultConsole.Server
