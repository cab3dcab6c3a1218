import FaultConsole.Yaml.Token

/-!
# The events of a YAML text

Events are the nodes of documents in order: scalars, aliases, and the starts and ends of
sequences and mappings. What is left out in the text (a key without a value, say) appears as an
empty plain scalar.
-/

namespace FaultConsole.Yaml

/-- A scalar with what belongs to it. -/
structure Scalar where
  anchor : Option String := none
  tag : Option String := none
  text : String
  style : Style
deriving Repr, DecidableEq

/-- What an event is. -/
inductive EventKind where
  | streamStart
  | streamEnd
  | documentStart
  | documentEnd
  | alias (name : String)
  | scalar (scalar : Scalar)
  | sequenceStart (anchor : Option String)
  | sequenceEnd
  | mappingStart (anchor : Option String)
  | mappingEnd
deriving Repr, DecidableEq

/-- An event with the place where it starts. -/
structure Event where
  kind : EventKind
  mark : Mark
deriving Repr, DecidableEq

end FaultConsole.Yaml
