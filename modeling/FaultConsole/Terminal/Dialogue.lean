import FaultConsole.Log
import FaultConsole.Service.Network
import FaultConsole.Settings.Server
import FaultConsole.Settings.Yaml

/-!
# Dialogues

A dialogue is what a command does as seen from outside: it prints, writes to its log, reads a file,
asks for a line, sends a call, and ends. What it does next depends only on what it is told, so it can
be carried out by a program, or by `run`, a function of all that it may be told.

The log goes where the output goes. How a line of it looks, with the time in front, and whether it is
written at all, is up to whoever carries out the dialogue.
-/

namespace FaultConsole.Terminal

open Settings (FileFault)

/-- How a dialogue ends. -/
inductive Ending where
  | done
  | failed (reason : String)
  /-- The arguments made no sense. -/
  | misused (reason : String)
deriving Repr, DecidableEq

namespace Ending

/-- The exit status. -/
def status : Ending → Nat
  | done => 0
  | failed _ => 1
  | misused _ => 2

/-- What is said about the end. What is wrong with the arguments is said on one line. -/
def complaint : Ending → String
  | done => ""
  | failed reason => "Error: " ++ reason ++ "\n"
  | misused reason => String.ofList (reason.toList.takeWhile (· != '\n'))

end Ending

/-- What a command does. -/
inductive Dialogue where
  | finish (ending : Ending)
  | print (text : String) (next : Dialogue)
  | log (entry : Log.Entry) (next : Dialogue)
  | readFile (path : String) (next : Except FileFault String → Dialogue)
  /-- Waits for a line, which is missing if it is no text. -/
  | ask (next : Option String → Dialogue)
  | send (call : Call) (next : Reply → Dialogue)
  /-- Serves the dashboard from here on. -/
  | listen (server : ServerSettings)

/-- What a dialogue may be told, and what its log writes. -/
structure World where
  file : String → Except FileFault String := fun _ => .error .missing
  input : List UInt8 := []
  reply : Call → Reply
  /-- The line for an entry of the log, or nothing if its level is not to be seen. -/
  log : Log.Entry → String := fun _ => ""

/-- What the log writes for some entries. -/
def World.written (w : World) (entries : List Log.Entry) : String :=
  entries.foldr (fun entry text => w.log entry ++ text) ""

/-- What is left of a dialogue. -/
structure Report where
  status : Nat := 0
  stdout : String := ""
  stderr : String := ""
  calls : List Call := []
deriving Repr

/-- The calls that went out: one without an address is refused before anything is sent. -/
def Report.sent (r : Report) : List Call := r.calls.filter (·.hasAddress)

/-- The first line of an input, if it is text, and what follows it. -/
def takeLine (input : List UInt8) : Option String × List UInt8 :=
  let line := input.takeWhile (· != 10)
  (String.fromUTF8? (ByteArray.mk line.toArray), input.drop (line.length + 1))

/-- Carries out a dialogue. -/
def Dialogue.run (w : World) : Dialogue → Report
  | finish ending => { status := ending.status, stderr := ending.complaint }
  | print text next =>
    let r := next.run w
    { r with stdout := text ++ r.stdout }
  | log entry next =>
    let r := next.run w
    { r with stdout := w.log entry ++ r.stdout }
  | readFile path next => (next (w.file path)).run w
  | ask next =>
    let (line, rest) := takeLine w.input
    (next line).run { w with input := rest }
  | send call next =>
    let r := (next (w.reply call)).run w
    { r with calls := call :: r.calls }
  | listen _ => {}

end FaultConsole.Terminal
