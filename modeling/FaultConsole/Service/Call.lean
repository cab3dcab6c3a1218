import FaultConsole.Json.Basic

/-!
# Calls and replies

A call is one request to the service, a reply what comes of it: a response, whatever its status,
or no response at all.
-/

namespace FaultConsole

/-- The methods of requests. -/
inductive Method where
  | get
  | post
  | delete
deriving Repr, DecidableEq, Inhabited

/-- The name of a method. -/
def Method.name : Method → String
  | get => "GET"
  | post => "POST"
  | delete => "DELETE"

/-- The methods, in order. -/
def Method.all : List Method := [.get, .post, .delete]

/-- A request. -/
structure Call where
  method : Method
  url : String
  body : Option Json := none
deriving Repr

/-- A response. -/
structure Response where
  status : Nat
  statusText : String
  body : String
deriving Repr, DecidableEq

/-- Whether a status tells of success. -/
def isSuccess (status : Nat) : Bool := 200 ≤ status && status < 300

/-- What comes of a request. -/
inductive Reply where
  | response (response : Response)
  /-- No response, or none that could be read. -/
  | failure (reason : String)
deriving Repr, DecidableEq

end FaultConsole
