import FaultConsole.Yaml.Event
import FaultConsole.Yaml.Token.Lexer

/-!
# From tokens to events

What may come next is a state; states to return to after a node wait on a stack. Each step looks
at the next token and gives one event. `eventsOf` gives all events before the first fault, and the
fault: one of the order of tokens, or, where the tokens have run out, the one that ended them.
-/

namespace FaultConsole.Yaml

/-- What is expected next. -/
inductive Expect where
  | streamStart
  | implicitDocument
  | document
  | documentContent
  | documentEnd
  | blockNode
  | blockSequence (first : Bool)
  | indentlessSequence
  | blockKey (first : Bool)
  | blockValue
  | flowSequence (first : Bool)
  | pairKey
  | pairValue
  | pairEnd
  | flowKey (first : Bool)
  | flowValue (empty : Bool)
  | nothing
deriving Repr, DecidableEq

/-- How far the events of a text have been made. -/
structure EventReader where
  tokens : List Token
  /-- The fault that ended the tokens, if one did. -/
  scanFault : Option Fault
  expect : Expect := .streamStart
  stack : List Expect := []
  /-- Where the open collections began. -/
  began : List Mark := []
  /-- The handles of tags, with what they stand for. -/
  handles : List (String × String) := []

namespace EventReader

/-- A step gives an event and goes on, or finds a fault. -/
abbrev Step := Except Fault (Event × EventReader)

/-- The next token. -/
def peek (p : EventReader) : Except Fault Token :=
  match p.tokens with
  | t :: _ => .ok t
  | [] => .error (p.scanFault.getD { problem := "did not find expected node content" })

/-- Behind the next token. -/
def skip (p : EventReader) : EventReader := { p with tokens := p.tokens.drop 1 }

/-- A later expectation, for after the next node. -/
def push (e : Expect) (p : EventReader) : EventReader := { p with stack := e :: p.stack }

/-- Back to the expectation that waits. -/
def pop (p : EventReader) : EventReader :=
  { p with expect := p.stack.headD .nothing, stack := p.stack.drop 1 }

/-- One event, and what is expected then. -/
def give (kind : EventKind) (mark : Mark) (p : EventReader) : Step := .ok (⟨kind, mark⟩, p)

/-- The scalar for something that is left out. -/
def giveEmpty (mark : Mark) (expect : Expect) (p : EventReader) : Step :=
  give (.scalar { text := "", style := .plain }) mark { p with expect }

/-- A fault at a token, inside something. -/
def faultIn (t : Token) (problem context : String) (began : Mark) : Fault :=
  { problem, mark := t.start, context := some (context, began) }

/-- A collection opens. -/
def enter (t : Token) (p : EventReader) : EventReader := { p.skip with began := t.start :: p.began }

/-- A collection closes. -/
def leave (kind : EventKind) (t : Token) (p : EventReader) : Step :=
  give kind t.start { p.skip.pop with began := p.began.drop 1 }

/-- Where the innermost collection began. -/
def innermost (p : EventReader) : Mark := p.began.headD {}

/-! ## Nodes -/

/-- The anchor and the tag in front of a node. -/
structure Properties where
  start : Mark
  anchor : Option String := none
  tag : Option (String × String × Mark) := none

/-- Reads an anchor and a tag, in either order. -/
def properties (p : EventReader) : Except Fault (Properties × EventReader) := do
  let t ← p.peek
  match t.kind with
  | .anchor a =>
    let q := p.skip
    let t' ← q.peek
    match t'.kind with
    | .tag handle suffix =>
      let q := q.skip
      let _ ← q.peek
      return ({ start := t.start, anchor := some a, tag := some (handle, suffix, t'.start) }, q)
    | _ => return ({ start := t.start, anchor := some a }, q)
  | .tag handle suffix =>
    let q := p.skip
    let t' ← q.peek
    match t'.kind with
    | .anchor a =>
      let q := q.skip
      let _ ← q.peek
      return ({ start := t.start, anchor := some a, tag := some (handle, suffix, t.start) }, q)
    | _ => return ({ start := t.start, tag := some (handle, suffix, t.start) }, q)
  | _ => return ({ start := t.start }, p)

/-- What a tag stands for. -/
def resolveTag (handles : List (String × String)) (props : Properties) :
    Except Fault (Option String) :=
  match props.tag with
  | none => .ok none
  | some (handle, suffix, mark) =>
    if handle.isEmpty then .ok (some suffix)
    else match handles.lookup handle with
      | some expansion => .ok (some (expansion ++ suffix))
      | none => .error
        { problem := "found undefined tag handle", mark,
          context := some ("while parsing a node", props.start) }

/-- A node. In a block, collections of the block style may come; `indentless` allows a sequence
that is not indented. -/
def node (block indentless : Bool) (p : EventReader) : Step := do
  let first ← p.peek
  match first.kind with
  | .alias name => give (.alias name) first.start p.pop.skip
  | _ =>
    let (props, p) ← p.properties
    let tag ← resolveTag p.handles props
    let t ← p.peek
    let start := props.start
    let anchor := props.anchor
    match t.kind, block with
    | .scalar text style, _ =>
      let tag := if tag = some "!" then none else tag
      give (.scalar { anchor, tag, text, style }) start p.pop.skip
    | .flowSequenceStart, _ =>
      give (.sequenceStart anchor) start { p with expect := .flowSequence true }
    | .flowMappingStart, _ =>
      give (.mappingStart anchor) start { p with expect := .flowKey true }
    | .blockSequenceStart, true =>
      give (.sequenceStart anchor) start { p with expect := .blockSequence true }
    | .blockMappingStart, true =>
      give (.mappingStart anchor) start { p with expect := .blockKey true }
    | kind, _ =>
      if indentless && kind == .blockEntry then
        give (.sequenceStart anchor) start { p with expect := .indentlessSequence }
      else if anchor.isSome || tag.isSome then
        give (.scalar { anchor, tag, text := "", style := .plain }) start p.pop
      else
        throw (faultIn t "did not find expected node content"
          (if block then "while parsing a block node" else "while parsing a flow node") start)

/-! ## Documents -/

/-- Behind the markers that end documents. -/
def skipDocumentEnds : List Token → List Token
  | [] => []
  | t :: rest => if t.kind = .documentEnd then skipDocumentEnds rest else t :: rest

/-- The handles that every document has. -/
def defaultHandles : List (String × String) := [("!", "!"), ("!!", "tag:yaml.org,2002:")]

/-- Reads the directives in front of a document. -/
def directives (seenVersion : Bool) (handles : List (String × String))
    (scanFault : Option Fault) :
    List Token → Except Fault (List (String × String) × List Token)
  | [] => .error (scanFault.getD { problem := "did not find expected <document start>" })
  | t :: rest =>
    match t.kind with
    | .versionDirective major minor =>
      if seenVersion then .error { problem := "found duplicate %YAML directive", mark := t.start }
      else if major ≠ 1 ∨ (minor ≠ 1 ∧ minor ≠ 2) then
        .error { problem := "found incompatible YAML document", mark := t.start }
      else directives true handles scanFault rest
    | .tagDirective handle expansion =>
      if (handles.lookup handle).isSome then
        .error { problem := "found duplicate %TAG directive", mark := t.start }
      else directives seenVersion (handles ++ [(handle, expansion)]) scanFault rest
    | _ => .ok (handles, t :: rest)

/-- Whether a token is a directive or the start of a document. -/
def startsDocument : TokenKind → Bool
  | .versionDirective _ _ | .tagDirective _ _ | .documentStart => true
  | _ => false

/-- A document with its directives and its marker. -/
def explicitDocument (first : Token) (p : EventReader) : Step := do
  let (handles, tokens) ← directives false [] p.scanFault p.tokens
  let p := { p with handles := handles ++ defaultHandles, tokens }
  let t ← p.peek
  if t.kind ≠ .documentStart then
    throw { problem := "did not find expected <document start>", mark := t.start }
  give .documentStart first.start { (p.push .documentEnd).skip with expect := .documentContent }

/-! ## One step -/

/-- The next event. -/
def step (p : EventReader) : Step := do
  match p.expect with
  | .streamStart =>
    let t ← p.peek
    give .streamStart t.start { p.skip with expect := .implicitDocument }
  | .implicitDocument =>
    let t ← p.peek
    if t.kind = .streamEnd then give .streamEnd t.start { p.skip with expect := .nothing }
    else if startsDocument t.kind then p.explicitDocument t
    else
      give .documentStart t.start
        { p.push .documentEnd with expect := .blockNode, handles := defaultHandles }
  | .document =>
    let p := { p with tokens := skipDocumentEnds p.tokens }
    let t ← p.peek
    if t.kind = .streamEnd then give .streamEnd t.start { p.skip with expect := .nothing }
    else p.explicitDocument t
  | .documentContent =>
    let t ← p.peek
    if startsDocument t.kind || t.kind == .documentEnd || t.kind == .streamEnd then
      give (.scalar { text := "", style := .plain }) t.start p.pop
    else p.node true false
  | .documentEnd =>
    let t ← p.peek
    let p := { p with expect := .document, handles := [] }
    give .documentEnd t.start (if t.kind = .documentEnd then p.skip else p)
  | .blockNode => p.node true false
  | .blockSequence first =>
    let p ← if first then do
        let t ← p.peek
        pure (p.enter t)
      else pure p
    let t ← p.peek
    match t.kind with
    | .blockEntry =>
      let p := p.skip
      let next ← p.peek
      if next.kind == .blockEntry || next.kind == .blockEnd then
        p.giveEmpty t.stop (.blockSequence false)
      else (p.push (.blockSequence false)).node true false
    | .blockEnd => p.leave .sequenceEnd t
    | _ =>
      throw (faultIn t "did not find expected '-' indicator" "while parsing a block collection"
        p.innermost)
  | .indentlessSequence =>
    let t ← p.peek
    match t.kind with
    | .blockEntry =>
      let p := p.skip
      let next ← p.peek
      if next.kind == .blockEntry || next.kind == .key || next.kind == .value ||
          next.kind == .blockEnd then
        p.giveEmpty t.stop .indentlessSequence
      else (p.push .indentlessSequence).node true false
    | _ => give .sequenceEnd t.start p.pop
  | .blockKey first =>
    let p ← if first then do
        let t ← p.peek
        pure (p.enter t)
      else pure p
    let t ← p.peek
    match t.kind with
    | .key =>
      let p := p.skip
      let next ← p.peek
      if next.kind == .key || next.kind == .value || next.kind == .blockEnd then
        p.giveEmpty t.stop .blockValue
      else (p.push .blockValue).node true true
    | .blockEnd => p.leave .mappingEnd t
    | _ =>
      throw (faultIn t "did not find expected key" "while parsing a block mapping" p.innermost)
  | .blockValue =>
    let t ← p.peek
    match t.kind with
    | .value =>
      let p := p.skip
      let next ← p.peek
      if next.kind == .key || next.kind == .value || next.kind == .blockEnd then
        p.giveEmpty t.stop (.blockKey false)
      else (p.push (.blockKey false)).node true true
    | _ => p.giveEmpty t.start (.blockKey false)
  | .flowSequence first =>
    let p ← if first then do
        let t ← p.peek
        pure (p.enter t)
      else pure p
    let t ← p.peek
    if t.kind = .flowSequenceEnd then p.leave .sequenceEnd t
    else do
      let p ← if first then pure p
        else if t.kind = .flowEntry then pure p.skip
        else throw (faultIn t "did not find expected ',' or ']'" "while parsing a flow sequence"
          p.innermost)
      let t ← p.peek
      match t.kind with
      | .key => give (.mappingStart none) t.start { p.skip with expect := .pairKey }
      | .flowSequenceEnd => p.leave .sequenceEnd t
      | _ => (p.push (.flowSequence false)).node false false
  | .pairKey =>
    let t ← p.peek
    if t.kind == .value || t.kind == .flowEntry || t.kind == .flowSequenceEnd then
      p.skip.giveEmpty t.stop .pairValue
    else (p.push .pairValue).node false false
  | .pairValue =>
    let t ← p.peek
    if t.kind = .value then do
      let p := p.skip
      let next ← p.peek
      if next.kind == .flowEntry || next.kind == .flowSequenceEnd then
        p.giveEmpty next.start .pairEnd
      else (p.push .pairEnd).node false false
    else p.giveEmpty t.start .pairEnd
  | .pairEnd =>
    let t ← p.peek
    give .mappingEnd t.start { p with expect := .flowSequence false }
  | .flowKey first =>
    let p ← if first then do
        let t ← p.peek
        pure (p.enter t)
      else pure p
    let t ← p.peek
    if t.kind = .flowMappingEnd then p.leave .mappingEnd t
    else do
      let p ← if first then pure p
        else if t.kind = .flowEntry then pure p.skip
        else throw (faultIn t "did not find expected ',' or '\x7d'"
          "while parsing a flow mapping" p.innermost)
      let t ← p.peek
      match t.kind with
      | .key =>
        let p := p.skip
        let next ← p.peek
        if next.kind == .value || next.kind == .flowEntry || next.kind == .flowMappingEnd then
          p.giveEmpty next.start (.flowValue false)
        else (p.push (.flowValue false)).node false false
      | .flowMappingEnd => p.leave .mappingEnd t
      | _ => (p.push (.flowValue true)).node false false
  | .flowValue empty =>
    let t ← p.peek
    if empty then p.giveEmpty t.start (.flowKey false)
    else if t.kind = .value then do
      let p := p.skip
      let next ← p.peek
      if next.kind == .flowEntry || next.kind == .flowMappingEnd then
        p.giveEmpty next.start (.flowKey false)
      else (p.push (.flowKey false)).node false false
    else p.giveEmpty t.start (.flowKey false)
  | .nothing => throw { problem := "the stream has ended" }

/-- All events to the end of the stream or to a fault. -/
def run : Nat → EventReader → List Event × Option Fault
  | 0, _ => ([], none)
  | fuel + 1, p =>
    if p.expect = .nothing then ([], none)
    else match p.step with
      | .error f => ([], some f)
      | .ok (e, p) =>
        let (es, f) := run fuel p
        (e :: es, f)

end EventReader

/-- The events of a text before its first fault, and the fault. -/
def eventsOf (source : String) : List Event × Option Fault :=
  let (tokens, scanFault) := tokensOf source
  EventReader.run (8 * tokens.length + 16) { tokens, scanFault }

end FaultConsole.Yaml
