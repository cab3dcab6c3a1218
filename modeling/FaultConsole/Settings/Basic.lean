import FaultConsole.Json.Record.Reader
import FaultConsole.Json.Record.Value
import FaultConsole.Problem
import FaultConsole.Text.Blank

/-!
# Where the service lives

The settings are the root of the service's address and, for callers that honour it, a time
limit for each request. A root is accepted if it is an http or https address; the paths of all
requests are put behind it after blanks around it and slashes at its end are dropped.
-/

namespace FaultConsole

open Json.Record (Field Shape Values)

/-- The root used when none is given. -/
def defaultApiRoot : String := "http://localhost:8080"

/-- What every path starts with behind the root. -/
def apiPath : String := "/api/v1"

/-- Where the service lives. -/
structure Settings where
  apiRoot : String := defaultApiRoot
  /-- The time limit of a request, in seconds. -/
  timeoutSeconds : Option Nat := none
deriving Repr, DecidableEq

/-- The default settings. -/
instance : Inhabited Settings := ⟨{}⟩

namespace Settings

/-- Whether a text starts with another. -/
def startsWith (front s : String) : Bool := front.toList.isPrefixOf s.toList

/-- Accepts an http or https address. -/
def validate (s : Settings) : Except Problem Unit :=
  let root := Text.trim s.apiRoot
  if startsWith "http://" root || startsWith "https://" root then .ok ()
  else .error (.config ("api_root must be an http(s) URL, got '" ++ s.apiRoot ++ "'"))

/-- A root without blanks around it and slashes at its end. -/
def cleanRoot (root : String) : String := Text.withoutTrailingSlashes (Text.trim root)

/-- What the paths of all requests are put behind. -/
def apiBase (s : Settings) : String := cleanRoot s.apiRoot ++ apiPath

/-- The fields of the record. -/
abbrev shape : Shape :=
  ⟨"DashboardConfig",
    [.optional "api_root" .text defaultApiRoot, .optional "timeout_secs" .optionalCount none]⟩

/-- The settings with these values. -/
def ofValues : Values shape.fields → Settings
  | (apiRoot, timeoutSeconds, ()) => { apiRoot, timeoutSeconds }

/-- The values of settings. -/
def toValues (s : Settings) : Values shape.fields := (s.apiRoot, s.timeoutSeconds, ())

/-- The JSON text of settings. -/
def toText (s : Settings) : String :=
  Json.compactInOrder (Json.Record.toMembers shape.fields s.toValues)

/-- Reads settings from JSON text. -/
def reader : Json.Reader Settings := fun c => do
  let (v, c) ← Json.Record.readOne shape c
  return (ofValues v, c)

end Settings

end FaultConsole
