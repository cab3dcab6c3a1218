import FaultConsole.Yaml.Document
import FaultConsole.Yaml.Meaning

/-!
# Values in a document

The nodes of a document are taken one after the other. A value that is not of the expected kind
is refused, with the place where it starts; an alias stands for the node it names, at that
node's place. A document that ends early is refused where its nodes run out.
-/

namespace FaultConsole.Yaml

/-- Why a document does not hold what is expected. -/
inductive Refusal where
  /-- A value is not what it should be. The place is the path of the value, empty for the
  document itself, and where it starts. -/
  | content (problem : String) (place : Option (String × Mark))
  /-- The nodes run out. -/
  | cut
deriving Repr, DecidableEq

/-- Nodes that are still to be taken. -/
abbrev Nodes := List (Node × Mark)

namespace Refusal

/-- A refusal with a place, unless it has one. -/
def located (path : String) (mark : Mark) : Refusal → Refusal
  | content problem none => content problem (some (path, mark))
  | r => r

/-- The refusal of a node that is not what is expected. -/
def wrongKind (node : Node) (expected : String) : Refusal :=
  let wrong (what : String) := content ("invalid type: " ++ what ++ ", expected " ++ expected) none
  match node with
  | .scalar s =>
    match s.meaning with
    | .ok m => wrong m.describe
    | .error misfit =>
      content ("invalid value: string " ++ Text.quoted misfit.text ++ ", expected " ++
        misfit.expected) none
  | .sequenceStart | .sequenceEnd => wrong "sequence"
  | .mappingStart | .mappingEnd => wrong "map"
  | .alias _ | .void => wrong "unit value"

/-- The words for a refusal; `broken` is what ended the document early. -/
def message (broken : Option Break) : Refusal → String
  | content problem none => problem
  | content problem (some (path, mark)) =>
    (if path.isEmpty then "" else path ++ ": ") ++ problem ++
      (if mark.isStart then "" else " at " ++ mark.describe)
  | cut =>
    match broken with
    | some b => b.message
    | none => "EOF while parsing a value"

end Refusal

namespace Document

variable (d : Document)

/-- The node that a node stands for. -/
def target (n : Node × Mark) : Node × Mark :=
  match n.1 with
  | .alias position => (d.nodes[position]?).getD n
  | _ => n

/-- Takes a node, led to what it stands for. -/
def take : Nodes → Except Refusal ((Node × Mark) × Nodes)
  | [] => .error .cut
  | n :: rest => .ok (d.target n, rest)

/-- Takes a scalar as the text it is written with. -/
def takeText (path expected : String) (nodes : Nodes) : Except Refusal (String × Nodes) := do
  let ((n, mark), rest) ← d.take nodes
  match n with
  | .scalar s => return (s.text, rest)
  | n => throw ((Refusal.wrongKind n expected).located path mark)

/-- Whether a node stands for the absence of a value. -/
def isAbsent : Node → Except Refusal Bool
  | .void => .ok true
  | .scalar s =>
    if s.style ≠ .plain then .ok false
    else match s.tag with
      | some tag =>
        if tag ≠ coreTag "null" then .ok false
        else if isNothing s.text then .ok true
        else .error (.content ("invalid value: string " ++ Text.quoted s.text ++
          ", expected null") none)
      | none => .ok (s.text.isEmpty || isNothing s.text)
  | _ => .ok false

/-- The natural number of 64 bits that a node is. -/
def count? : Node → Option Nat
  | .scalar s =>
    if s.style = .plain ∨ (s.style = .literal ∧ s.tag = some (coreTag "int")) then
      natural? (Nat.pow 2 64) s.text
    else none
  | _ => none

/-- Takes a natural number of 64 bits, or its absence. -/
def takeOptionalCount (path : String) (nodes : Nodes) :
    Except Refusal (Option Nat × Nodes) := do
  let ((n, mark), rest) ← d.take nodes
  if ← isAbsent n then return (none, rest)
  else match count? n with
    | some v => return (some v, rest)
    | none => throw ((Refusal.wrongKind n "u64").located path mark)

/-- Passes over one node with all that it holds; `depth` collections are open. -/
def pass (depth : Nat) : Nodes → Except Refusal Nodes
  | [] => .error .cut
  | (n, _) :: rest =>
    let depth := match n with
      | .sequenceStart | .mappingStart => depth + 1
      | .sequenceEnd | .mappingEnd => depth - 1
      | _ => depth
    if depth = 0 then .ok rest else pass depth rest

end Document

end FaultConsole.Yaml
