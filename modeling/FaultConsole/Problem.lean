import FaultConsole.Json.Reader

/-!
# What can go wrong

Every operation that can fail says why with a `Problem`. Some problems arise before anything is
sent; those are local.
-/

namespace FaultConsole

/-- Why an operation failed. -/
inductive Problem where
  /-- No response came. -/
  | network (reason : String)
  /-- The service answered with a status outside 200 to 299. -/
  | http (status : Nat) (statusText : String)
  /-- What the user entered is incomplete or out of range. -/
  | validation (message : String)
  /-- The service has no such operation. -/
  | unsupported (operation : String)
  /-- The body of a response could not be read. -/
  | decode (reason : String)
  | notFound (what : String)
  /-- The settings cannot be used. -/
  | config (reason : String)
deriving Repr, DecidableEq, Inhabited

namespace Problem

/-- The words for a problem. -/
def message : Problem → String
  | network reason => "network error: " ++ reason
  | http status statusText => toString status ++ " " ++ statusText
  | validation message => message
  | unsupported operation => operation ++ " is not supported by the API yet"
  | decode reason => "unexpected response body: " ++ reason
  | notFound what => what ++ " not found"
  | config reason => "config error: " ++ reason

/-- Whether the problem arose before any request was sent. -/
def isLocal : Problem → Bool
  | validation _ | unsupported _ | config _ => true
  | _ => false

/-- The problem of a body with a fault. -/
def ofFault (body : String) (f : Json.Fault) : Problem := decode (f.message body)

end Problem

/-- Reads a whole body. -/
def readBody {α : Type} (reader : Json.Reader α) (body : String) : Except Problem α :=
  match Json.readWith reader body with
  | .ok v => .ok v
  | .error f => .error (.ofFault body f)

end FaultConsole
