import FaultConsole.Yaml.Event.Reader

/-!
# One document of a YAML text

A document is the list of its nodes, with aliases led back to the node their anchor stands at.
A text that is to be read as one value has one document; whatever is wrong after it, be it a
second document or a fault, is told apart only from nothing at all.
-/

namespace FaultConsole.Yaml

/-- A node of a document, or the end of one that holds others. -/
inductive Node where
  | scalar (scalar : Scalar)
  /-- Another name for the node at a position. -/
  | alias (position : Nat)
  | sequenceStart
  | sequenceEnd
  | mappingStart
  | mappingEnd
  /-- The only node of a text without documents. -/
  | void
deriving Repr, DecidableEq

/-- Why a document ends early. -/
inductive Break where
  | fault (fault : Fault)
  | unknownAnchor (mark : Mark)
deriving Repr, DecidableEq

/-- The words for what ended a document. -/
def Break.message : Break → String
  | fault f => f.message
  | unknownAnchor mark =>
    "unknown anchor" ++ (if mark.isStart then "" else " at " ++ mark.describe)

/-- A document as far as it could be read. -/
structure Document where
  nodes : List (Node × Mark)
  /-- What ended it early. -/
  broken : Option Break
deriving Repr

/-- The anchors met so far. An anchor has a number, and the number a position; a name that is
used again takes a new number. -/
structure Anchors where
  numbers : List (String × Nat) := []
  positions : List (Nat × Nat) := []

namespace Anchors

/-- One more anchor, at a position. -/
def add (name : String) (position : Nat) (a : Anchors) : Anchors :=
  let names := (a.numbers.map (·.1)).eraseDups
  let n := names.length
  { numbers := (name, n) :: a.numbers, positions := (n, position) :: a.positions }

/-- Adds the anchor of a node, if it has one. -/
def addAny (name : Option String) (position : Nat) (a : Anchors) : Anchors :=
  match name with
  | some n => a.add n position
  | none => a

end Anchors

namespace Document

/-- The nodes of the next document of a list of events, the anchors met, and the events after
the document; or what ended it early. -/
def collect (broken : Option Fault) :
    List Event → List (Node × Mark) → Anchors → List (Node × Mark) × Anchors × Except Break (List Event)
  | [], nodes, anchors =>
    (nodes, anchors, match broken with
      | some f => .error (.fault f)
      | none => .ok [])
  | e :: rest, nodes, anchors =>
    let keep (n : Node) := nodes ++ [(n, e.mark)]
    match e.kind with
    | .streamStart | .documentStart => collect broken rest nodes anchors
    | .streamEnd => (nodes, anchors, .ok [e])
    | .documentEnd => (nodes, anchors, .ok rest)
    | .alias name =>
      match anchors.numbers.lookup name with
      | some n => collect broken rest (keep (.alias n)) anchors
      | none => (nodes, anchors, .error (.unknownAnchor e.mark))
    | .scalar s =>
      collect broken rest (keep (.scalar s)) (anchors.addAny s.anchor nodes.length)
    | .sequenceStart a =>
      collect broken rest (keep .sequenceStart) (anchors.addAny a nodes.length)
    | .sequenceEnd => collect broken rest (keep .sequenceEnd) anchors
    | .mappingStart a =>
      collect broken rest (keep .mappingStart) (anchors.addAny a nodes.length)
    | .mappingEnd => collect broken rest (keep .mappingEnd) anchors

/-- The document with its aliases led to positions. -/
def resolve (anchors : Anchors) (nodes : List (Node × Mark)) : List (Node × Mark) :=
  nodes.map fun (n, m) => match n with
    | .alias number => (.alias ((anchors.positions.lookup number).getD 0), m)
    | n => (n, m)

/-- The first document of a text, and whether anything follows it. -/
def first (source : String) : Document × Bool :=
  let (es, f) := eventsOf source
  match collect f es [] {} with
  | (nodes, anchors, .error b) => (⟨resolve anchors nodes, some b⟩, false)
  | (nodes, anchors, .ok rest) =>
    let void := nodes.isEmpty && rest.any (·.kind == .streamEnd)
    let mark := (rest.head?.map (·.mark)).getD {}
    let nodes := if void then [(Node.void, mark)] else resolve anchors nodes
    let more := rest.any (fun e => e.kind != .streamEnd) || f.isSome
    (⟨nodes, none⟩, more)

end Document

end FaultConsole.Yaml
