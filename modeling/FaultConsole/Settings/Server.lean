import FaultConsole.Settings.Basic

/-!
# Settings of the dashboard's server

The server listens at a host and a port and hands the root of the service to the browser, clean
of blanks and trailing slashes.
-/

namespace FaultConsole

/-- The settings of the server. -/
structure ServerSettings where
  host : String := "127.0.0.1"
  port : Nat := 8000
  apiRoot : String := defaultApiRoot
deriving Repr, DecidableEq

/-- The settings that the server hands to the browser. -/
def ServerSettings.dashboard (s : ServerSettings) : Settings :=
  { apiRoot := Settings.cleanRoot s.apiRoot }

end FaultConsole
