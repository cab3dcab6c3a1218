import FaultConsole.Listing.Table

/-!
# The details of one record

A record in full is a list of labelled texts. The parameters of an experiment are shown one by
one, strings as they are and other values as JSON; what is secret is masked.
-/

namespace FaultConsole

/-- A label and the text beside it. -/
abbrev LabelledText := String × String

/-- Parameters whose values are never shown. -/
def secretKeys : List String := ["auth_token"]

/-- What is shown in place of a secret. -/
def mask : String := "********"

/-- How a parameter's value is shown. -/
def parameterText (key : String) (value : Json) : String :=
  if secretKeys.contains key then mask
  else match value with
    | .string s => s
    | v => v.compact

/-- The parameters of an experiment, one by one. -/
def parameterFields : Json → List LabelledText
  | .object members => members.map fun (k, v) => (k, parameterText k v)
  | .null => []
  | v => [("value", v.compact)]

/-- When a record was last updated, if it was. -/
def updatedField (zone : Time.Zone) : Option Time.Instant → List LabelledText
  | some t => [("Updated", t.shortText zone)]
  | none => []

/-- An experiment in full, without its parameters. -/
def Experiment.fields (zone : Time.Zone) (e : Experiment) : List LabelledText :=
  [("ID", e.id), ("Name", e.name), ("Description", e.description), ("Type", e.kind.name),
    ("Target", e.target), ("Status", e.status.name), ("Duration", durationText e.duration),
    ("Created", e.createdAt.shortText zone)] ++ updatedField zone e.updatedAt

/-- A target in full. -/
def Target.fields (zone : Time.Zone) (t : Target) : List LabelledText :=
  [("ID", t.id), ("Name", t.name), ("Description", t.description), ("Type", t.kind),
    ("Namespace", t.scope), ("Selector", t.selector),
    ("Created", t.createdAt.shortText zone)] ++ updatedField zone t.updatedAt

end FaultConsole
