import FaultConsole.Address.Url
import FaultConsole.Service.Call
import FaultConsole.Service.StatusText

/-!
# Calls over a network

A call is sent to the normalised form of its address. An address that has none is refused before
anything is sent; a request that gets no response fails with the address it went to.
-/

namespace FaultConsole

open Address (Url)

/-- Whether there is an address to send a call to. -/
def Call.hasAddress (c : Call) : Bool := (Url.parse? c.url).isSome

/-- A network: the status and the body that a request is answered with, if it is. -/
abbrev Network := Method → Url → Option Json → Option (Nat × String)

/-- The reply to a call over a network. -/
def Network.reply (network : Network) (c : Call) : Reply :=
  match Url.parse? c.url with
  | none => .failure "builder error"
  | some url =>
    match network c.method url c.body with
    | some (status, body) => .response ⟨status, statusText status, body⟩
    | none => .failure ("error sending request for url (" ++ url.toText ++ ")")

/-- The network that nothing answers on. -/
def Network.none : Network := fun _ _ _ => Option.none

end FaultConsole
