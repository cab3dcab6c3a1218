import FaultConsole.Service.Call

/-!
# A scripted service

A stand-in for the service: a list of routes, each with the reply it gives. A call is answered by
the first route with its method and address; a call without a route finds nothing there.
-/

namespace FaultConsole.Scripted

/-- One answer of a scripted service. -/
structure Route where
  method : String
  url : String
  reply : Reply
deriving Repr

/-- The reply where no route matches. -/
def notFound : Reply := .response ⟨404, "Not Found", ""⟩

/-- The reply to a request with a method and an address. -/
def answer (routes : List Route) (method url : String) : Reply :=
  match routes.find? fun r => r.method = method && r.url = url with
  | some r => r.reply
  | none => notFound

end FaultConsole.Scripted
