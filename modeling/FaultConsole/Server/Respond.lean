import FaultConsole.Server.Uri
import FaultConsole.Settings.Server

/-!
# The server of the dashboard

The server hands out the page, and tells the page where the service lives. Two paths can only be
read; every other path is the page, whatever the method, so that a reload in the browser always
finds it. Any origin may ask.
-/

namespace FaultConsole.Server

/-- The version of the program. -/
def version : String := "0.2.0"

/-- The page as it is built in. -/
def indexPage : String :=
  "<!-- placeholder: run `trunk build` in frontend/ to build the real dashboard -->\n"

/-- A request. -/
structure Request where
  method : String := "GET"
  uri : String
  headers : List (String × String) := []

/-- What the server answers. -/
structure Answer where
  status : Nat
  headers : List (String × String) := []
  body : String := ""
deriving Repr, DecidableEq

/-- What a path leads to. -/
inductive Place where
  /-- Where the service lives. -/
  | settings
  | health
  | page
deriving Repr, DecidableEq

/-- What a path leads to. -/
def Place.ofPath (path : String) : Place :=
  if path = "/dashboard/config" then settings
  else if path = "/healthz" then health
  else page

/-- The type and the text of what stands at a place. -/
def Place.content (s : Settings) : Place → String × String
  | settings =>
    ("application/json",
      Json.compactInOrder [("api_root", .string s.apiRoot), ("version", .string version)])
  | health => ("application/json", Json.compactInOrder [("status", .string "healthy")])
  | page => ("text/html", indexPage)

/-- The methods that a place other than the page allows. -/
def Place.allow : Place → List (String × String)
  | page => []
  | settings | health => [("allow", "GET,HEAD")]

/-- What every answer says about other origins. -/
def sharing : List (String × String) :=
  [("access-control-allow-origin", "*"),
    ("vary", "origin, access-control-request-method, access-control-request-headers")]

/-- What an answer says to a browser that asks ahead. -/
def sharingAhead : List (String × String) :=
  [("access-control-allow-headers", "*"), ("access-control-allow-methods", "*")]

/-- The length of a body. -/
def lengthOf (body : String) : List (String × String) :=
  [("content-length", toString body.utf8ByteSize)]

/-- The answer to a method at a place. A head has the headers of the whole answer and no body; a
connection that is granted has neither body nor length. -/
def answer (s : Settings) (method : String) (place : Place) : Answer :=
  if method = "OPTIONS" then
    { status := 200, headers := sharing ++ sharingAhead ++ place.allow ++ lengthOf "" }
  else if place = .page ∨ method = "GET" ∨ method = "HEAD" then
    let (kind, body) := place.content s
    let headers := sharing ++ [("content-type", kind)]
    if method = "CONNECT" then { status := 200, headers }
    else
      { status := 200, headers := headers ++ lengthOf body,
        body := if method = "HEAD" then "" else body }
  else { status := 405, headers := sharing ++ place.allow ++ lengthOf "" }

/-! ## Reading requests -/

/-- What methods and the names of headers are made of. -/
def isTokenChar (c : Char) : Bool := c.isAlphanum || "!#$%&'*+-.^_\x60|~".toList.contains c

/-- Whether a text is a token. -/
def isToken (s : String) : Bool := !s.isEmpty && s.toList.all isTokenChar

/-- Whether a text may be the value of a header: no control but the tab. -/
def isHeaderValue (s : String) : Bool :=
  s.toList.all fun c => c == '\t' || (0x20 ≤ c.toNat && c.toNat != 0x7F)

/-- The answer to a request. -/
def respond (s : Settings) (r : Request) : Except RequestFault Answer := do
  if !isToken r.method then throw .method
  let path ← Uri.path r.uri
  if !r.headers.all (isToken ·.1) then throw .headerName
  if !r.headers.all (isHeaderValue ·.2) then throw .headerValue
  return answer s r.method (.ofPath path)

end FaultConsole.Server
