import FaultConsole.Listing.Table

/-!
# Choosing a target

The dropdown of the experiment form offers targets by their selectors. A selector that several
targets share would be ambiguous, so it is offered once, for the newest of them.
-/

namespace FaultConsole

/-- An entry of the dropdown. -/
structure Choice where
  /-- The selector that is chosen. -/
  value : String
  label : String
  kind : String
deriving Repr, DecidableEq

/-- The entry for a target. -/
def Target.choice (t : Target) : Choice :=
  ⟨t.selector, t.name ++ " (" ++ t.kind ++ ")", t.kind⟩

/-- The elements whose key no earlier element has, in order; `seen` holds the keys so far. -/
def firstOfEach {α : Type} (key : α → String) (seen : List String) : List α → List α
  | [] => []
  | a :: rest =>
    if seen.contains (key a) then firstOfEach key seen rest
    else a :: firstOfEach key (key a :: seen) rest

/-- The entries for a list of targets, newest first. -/
def targetChoices (targets : List Target) : List Choice :=
  (firstOfEach (·.selector) [] (newestFirst (·.createdAt) targets)).map (·.choice)

end FaultConsole
