import FaultConsole.Listing.RowAction

/-!
# The browser around the dashboard

What the dashboard asks of the browser: whether the user confirms, whether debug logs are
switched on, and which action of a row was hit. A browser that cannot ask has not confirmed,
and a flag that cannot be read is off.
-/

namespace FaultConsole

/-- What the page finds in the browser. -/
structure Browser where
  /-- Whether there is a window at all. -/
  hasWindow : Bool := true
  /-- The answer to every question; none if asking fails. -/
  answer : Option Bool := none
  /-- What the local storage holds, if the page may use it. -/
  storage : Option (List (String × String)) := none
deriving Repr, DecidableEq

namespace Browser

/-- The key of the debug flag. -/
def debugKey : String := "debug_enabled"

/-- Whether the user confirms. -/
def confirms (b : Browser) : Bool := b.hasWindow && b.answer == some true

/-- A value of the local storage. -/
def stored? (key : String) (b : Browser) : Option String :=
  if b.hasWindow then b.storage.bind (·.lookup key) else none

/-- Whether debug logs are switched on. -/
def debugFlag (b : Browser) : Bool := b.stored? debugKey == some "true"

/-- Switches debug logs on or off, where that can be kept. -/
def setDebugFlag (enabled : Bool) (b : Browser) : Browser :=
  if b.hasWindow then
    { b with
      storage := b.storage.map fun entries =>
        (debugKey, if enabled then "true" else "false") ::
          entries.filter fun e => e.1 != debugKey }
  else b

end Browser

/-- The attributes of an element of the page. -/
abbrev Attributes := List (String × String)

/-- The event of a click: `path` holds the element that was hit and those around it, innermost
first. The first that names an action decides. -/
def RowEvent.ofClick? (path : List Attributes) : Option RowEvent := do
  let control ← path.find? fun a => (a.lookup "data-action").isSome
  RowEvent.ofAttributes? (control.lookup "data-action") (control.lookup "data-id")

end FaultConsole
