import FaultConsole.Address.Ip
import FaultConsole.Listing.Summary
import FaultConsole.Terminal.Command
import FaultConsole.Terminal.Dialogue
import FaultConsole.Terminal.Tables

/-!
# The command line

What each command does on the terminal. The settings come first: if they cannot be used, nothing
is printed or sent. A list is printed once it has been loaded as a whole; an operation asks its
question, sends its request, and says how it ended. The log has its say before that, first about the
reply and then about the operation. The banner of the server is printed before its address is looked
at.
-/

namespace FaultConsole.Terminal

namespace Dialogue

/-- Prints a line. -/
def say (line : String) (next : Dialogue) : Dialogue := print (line ++ "\n") next

/-- Writes entries to the log. -/
def logAll (entries : List Log.Entry) (next : Dialogue) : Dialogue := entries.foldr log next

/-- Sends a call, and logs what comes of it. -/
def request (call : Call) (next : Reply → Dialogue) : Dialogue :=
  send call fun reply => logAll (call.replyLog reply) (next reply)

/-- Goes on with a value, or ends with what is wrong. -/
def orFail {α : Type} (r : Except Problem α) (next : α → Dialogue) : Dialogue :=
  match r with
  | .ok a => next a
  | .error p => finish (.failed p.message)

/-- The end, with nothing to complain about. -/
def stop : Dialogue := finish .done

end Dialogue

open Dialogue (logAll orFail request say stop)

/-- The line above the parameters of an experiment. -/
def parametersTitle : String := "── Parameters ──────────────────────────"

/-- Shows a record in full. The parameters have a table of their own, if there are any. -/
def showDetail (zone : Time.Zone) : Detail → Dialogue
  | .experiment e =>
    say (fieldGrid (e.fields zone)).draw <|
      let parameters := parameterFields e.parameters
      if parameters.isEmpty then stop
      else say parametersTitle (say (fieldGrid parameters).draw stop)
  | .target t => say (fieldGrid (t.fields zone)).draw stop

/-- Says how an operation ended. -/
def tell (zone : Time.Zone) (o : Outcome) : Dialogue :=
  let detail := match o.detail with
    | some d => showDetail zone d
    | none => stop
  match o.notice, o.succeeded with
  | some notice, false => .finish (.failed notice.message)
  | some notice, true => say ("✓ " ++ notice.message) detail
  | none, false => say "Cancelled." detail
  | none, true => detail

/-- Whether the answer to a question is yes. -/
def isYes (line : String) : Bool :=
  let answer := (Text.trim line).toLower
  answer == "y" || answer == "yes"

/-- Asks the question of an operation, if it has one and is not confirmed already. -/
def confirm (op : Operation) (confirmed : Bool) (next : Bool → Dialogue) : Dialogue :=
  match op.question?, confirmed with
  | some question, false => .print (question ++ " [y/N] ") (.ask fun line => next (line.any isYes))
  | _, _ => next confirmed

/-- Sends the request of an operation, if there is one to send, and says how it ended. -/
def operate (zone : Time.Zone) (base : String) (op : Operation) (confirmed : Bool) : Dialogue :=
  match op.start base confirmed with
  | .ok call => request call fun reply => logAll (op.finishLog reply) (tell zone (op.finish reply))
  | .error outcome => logAll op.unsentLog (tell zone outcome)

/-- Serves the dashboard. -/
def serve (s : Settings) (host : String) (port : Nat) : Dialogue :=
  let server : ServerSettings := { host, port, apiRoot := s.apiRoot }
  let place := host ++ ":" ++ toString port
  say "🔥 chaosdash" <|
  say ("   API:         " ++ s.apiBase) <|
  say ("   URL:         http://" ++ place) <|
  say "" <|
  orFail server.dashboard.validate fun _ =>
    if Address.isSocketAddress place then .listen server
    else .finish (.failed "invalid socket address syntax")

namespace Command

/-- What a command does, with settings that can be used. -/
def dialogue (zone : Time.Zone) (s : Settings) : Command → Dialogue
  | serve host port => Terminal.serve s host port
  | listExperiments table =>
    request (Endpoint.listExperiments.call s.apiBase) fun reply =>
      orFail reply.experiments fun es =>
        say ("Experiments at: " ++ s.apiBase) (say (experimentGrid zone table es).draw stop)
  | listTargets =>
    request (Endpoint.listTargets.call s.apiBase) fun reply =>
      orFail reply.targets fun ts =>
        say ("Targets at: " ++ s.apiBase) (say (targetGrid zone ts).draw stop)
  | operate op confirmed =>
    confirm op confirmed fun confirmed => Terminal.operate zone s.apiBase op confirmed
  | summary =>
    request (Endpoint.listExperiments.call s.apiBase) fun reply =>
      orFail reply.experiments fun es =>
        say (Summary.ofExperiments es).line <|
        say "Recent experiments:" <|
        say (experimentGrid zone .recent es).draw stop

end Command

namespace Invocation

/-- Finds the settings, and goes on with them if they can be used. -/
def withSettings (i : Invocation) (next : Settings → Dialogue) : Dialogue :=
  match i.settingsPath with
  | none => orFail (Settings.resolve i.apiRoot none) next
  | some path =>
    .readFile path fun content =>
      orFail (Settings.resolve i.apiRoot (some (Settings.ofFile path content))) next

/-- What an invocation does. -/
def dialogue (zone : Time.Zone) (i : Invocation) : Dialogue :=
  i.withSettings (i.command.dialogue zone)

end Invocation

/-- What is done about arguments that ask for no command. -/
def Stop.dialogue : Stop → Dialogue
  | helpAsked place => say place.about stop
  | versionAsked => say versionAsked.message stop
  | fault => .finish (.misused fault.message)

/-- What a command line does; `environment` is the root of the service that the environment
gives. -/
def commandLine (zone : Time.Zone) (environment : Option String) (args : List String) : Dialogue :=
  match Invocation.ofArguments environment args with
  | .ok i => i.dialogue zone
  | .error s => s.dialogue

end FaultConsole.Terminal
