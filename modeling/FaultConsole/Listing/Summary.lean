import FaultConsole.Model.Experiment

/-!
# Counts of experiments

How many experiments there are, and how many of them are completed, failed and running. What is
left are pending ones and those of an unknown status.
-/

namespace FaultConsole

/-- Counts of a list of experiments. -/
structure Summary where
  total : Nat := 0
  completed : Nat := 0
  failed : Nat := 0
  running : Nat := 0
deriving Repr, DecidableEq

namespace Summary

/-- The counts with one more experiment of a status. -/
def add (s : Summary) (status : Status) : Summary :=
  let s := { s with total := s.total + 1 }
  match status with
  | .completed => { s with completed := s.completed + 1 }
  | .failed => { s with failed := s.failed + 1 }
  | .running => { s with running := s.running + 1 }
  | _ => s

/-- The counts of a list. -/
def ofExperiments (experiments : List Experiment) : Summary :=
  experiments.foldl (fun s e => s.add e.status) {}

/-- Experiments that are counted in the total only. -/
def other (s : Summary) : Nat := s.total - s.completed - s.failed - s.running

/-- The counts on one line. -/
def line (s : Summary) : String :=
  "Total: " ++ toString s.total ++ "   Running: " ++ toString s.running ++
    "   Completed: " ++ toString s.completed ++ "   Failed: " ++ toString s.failed

end Summary

end FaultConsole
