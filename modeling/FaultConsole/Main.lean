import FaultConsole.Service.Network
import FaultConsole.Terminal.CommandLine

/-!
# The program

Carries out the dialogue of the command line: prints, reads files and lines, and ends with the
dialogue's status. It is connected to no network, so a request gets no response and the dashboard
is not served. Times are shown in UTC, and the lines of the log have none.
-/

namespace FaultConsole.Terminal

open Settings (FileFault)

/-- What is wrong with a file that could not be read. -/
def FileFault.ofError : IO.Error → FileFault
  | .noFileOrDirectory .. => .missing
  | .inappropriateType _ 21 _ => .isDirectory
  | e => .other e.toString

/-- The text of a file. -/
def readText (path : String) : IO (Except FileFault String) := do
  try
    let bytes ← IO.FS.readBinFile path
    return match String.fromUTF8? bytes with
      | some text => .ok text
      | none => .error (.other "stream did not contain valid UTF-8")
  catch e => return .error (FileFault.ofError e)

/-- A line of the terminal, if it is text. -/
def readLine : IO (Option String) := do
  try return some (← (← IO.getStdin).getLine)
  catch _ => return none

/-- Carries out a dialogue: the exit status. -/
def Dialogue.perform : Dialogue → IO UInt32
  | finish ending => do
    match ending with
    | .misused _ => IO.eprintln ending.complaint
    | _ => IO.eprint ending.complaint
    return ending.status.toUInt32
  | print text next => do
    IO.print text
    (← IO.getStdout).flush
    next.perform
  | log entry next => do
    IO.println entry.text
    next.perform
  | readFile path next => do (next (← readText path)).perform
  | ask next => do (next (← readLine)).perform
  | send call next => (next (Network.none.reply call)).perform
  | listen server => do
    IO.eprintln ("Error: no network to serve " ++ server.host ++ " on")
    return 1

end FaultConsole.Terminal

open FaultConsole.Terminal in
/-- Runs the command line. -/
def main (args : List String) : IO UInt32 := do
  (commandLine .utc (← IO.getEnv "CHAOSDASH_API_ROOT") args).perform
