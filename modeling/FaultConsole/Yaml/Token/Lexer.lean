import FaultConsole.Yaml.ScalarText
import FaultConsole.Yaml.Token

/-!
# Cutting a YAML text into tokens

Indentation is made explicit: where a line is indented further than the block around it, a token
opens a new block, and where it is indented less, tokens close blocks. Whether a scalar is a key
is known only when the colon after it is met; until then it is remembered as a possible key, and
the tokens for the key are put in front of it afterwards.

A reader of tokens may not see a token while it can still turn out to be a key. `tokensOf` gives the
tokens that can be seen before the first fault, and the fault.
-/

namespace FaultConsole.Yaml

/-- A token that may turn out to be a key. -/
structure PossibleKey where
  /-- It stands where the block around it needs a key. -/
  required : Bool
  /-- How many tokens come before it. -/
  position : Nat
  mark : Mark
deriving Repr, DecidableEq

/-- How far a text has been cut. -/
structure Lexer where
  point : Point
  tokens : List Token := []
  /-- The possible key of each level of brackets and braces, the innermost first; the last one
  is that of the block. -/
  keys : List (Option PossibleKey) := [none]
  /-- Whether a key may start here. -/
  keyAllowed : Bool := true
  indent : Int := -1
  indents : List Int := []
  started : Bool := false
  ended : Bool := false

namespace Lexer

/-- Whether reading is inside brackets or braces. -/
def inFlow (s : Lexer) : Bool := 1 < s.keys.length

/-- The column of the next character. -/
def column (s : Lexer) : Int := s.point.mark.column

/-- One more token. -/
def emit (kind : TokenKind) (start stop : Mark) (s : Lexer) : Lexer :=
  { s with tokens := s.tokens ++ [⟨kind, start, stop⟩] }

/-- A token of so many characters at this point. -/
def emitHere (kind : TokenKind) (length : Nat) (s : Lexer) : Lexer :=
  let after := s.point.forward length
  { s.emit kind s.point.mark after.mark with point := after }

/-- A token in front of those from a position on. -/
def insertAt (position : Nat) (kind : TokenKind) (mark : Mark) (s : Lexer) : Lexer :=
  { s with tokens := s.tokens.take position ++ [⟨kind, mark, mark⟩] ++ s.tokens.drop position }

/-- The fault of a key that is needed and has no colon. -/
def missingColon (s : Lexer) (k : PossibleKey) : Fault :=
  s.point.fault "could not find expected ':'" "while scanning a simple key" k.mark

/-- A fault at this point that names no context. -/
def bareFault (s : Lexer) (problem : String) : Fault := { problem, mark := s.point.mark }

/-! ## Possible keys -/

/-- Whether a possible key is too far behind to be one: on an earlier line, or more than 1024
characters back. -/
def isStale (s : Lexer) (k : PossibleKey) : Bool :=
  k.mark.line < s.point.mark.line || k.mark.index + 1024 < s.point.mark.index

/-- Gives up the possible keys that are too far behind. -/
def forgetStaleKeys (s : Lexer) : Except Fault Lexer := do
  let keys ← s.keys.reverse.mapM fun key =>
    match key with
    | some k =>
      if s.isStale k then
        if k.required then throw (s.missingColon k) else pure none
      else pure (some k)
    | none => pure none
  return { s with keys := keys.reverse }

/-- Gives up the possible key of the innermost level. -/
def forgetKey (s : Lexer) : Except Fault Lexer :=
  match s.keys with
  | some k :: outer =>
    if k.required then .error (s.missingColon k) else .ok { s with keys := none :: outer }
  | _ => .ok s

/-- Remembers that the next token may be a key. -/
def rememberKey (s : Lexer) : Except Fault Lexer :=
  if s.keyAllowed then do
    let key : PossibleKey :=
      { required := !s.inFlow && s.indent == s.column
        position := s.tokens.length
        mark := s.point.mark }
    let s ← s.forgetKey
    return { s with keys := some key :: s.keys.drop 1 }
  else .ok s

/-! ## Indentation -/

/-- Opens a block at a column, if it is further in than the current one. -/
def openBlock (column : Int) (position : Option Nat) (kind : TokenKind) (mark : Mark)
    (s : Lexer) : Lexer :=
  if !s.inFlow && s.indent < column then
    let s := { s with indents := s.indent :: s.indents, indent := column }
    match position with
    | some n => s.insertAt n kind mark
    | none => s.emit kind mark mark
  else s

/-- Closes the blocks that are further in than a column. -/
def closeBlocks (column : Int) (s : Lexer) : Lexer :=
  if s.inFlow then s else go s.indents s
where
  /-- Closes blocks from the innermost outwards. -/
  go : List Int → Lexer → Lexer
    | [], s => s
    | outer :: rest, s =>
      if column < s.indent then
        go rest { s.emit .blockEnd s.point.mark s.point.mark with indent := outer, indents := rest }
      else s

/-! ## Going to the next token -/

/-- The point after blanks, comments and line breaks. In a block a tab does not count as a blank
where a key may start, and a key may start on a new line. -/
def skipToToken (s : Lexer) : Lexer :=
  let p := s.point
  let p := if p.mark.index = 0 ∧ p.isAt '\ufeff' then p.forward 1 else p
  go (p.rest.length + 1) { s with point := p }
where
  /-- Skips line by line. -/
  go : Nat → Lexer → Lexer
    | 0, s => s
    | fuel + 1, s =>
      let tabs := s.inFlow || !s.keyAllowed
      let p := (s.point.skipWhile fun c => c == ' ' || (tabs && c == '\t')).skipComment
      if p.atBreak then
        go fuel { s with point := p.skipBreak, keyAllowed := s.keyAllowed || !s.inFlow }
      else { s with point := p }

/-! ## Single tokens -/

/-- The start of a token that closes every block: a directive or a document marker. -/
def atTopLevel (s : Lexer) : Except Fault Lexer := do
  let s ← (s.closeBlocks (-1)).forgetKey
  return { s with keyAllowed := false }

/-- The end of the text. -/
def lexEnd (s : Lexer) : Except Fault Lexer := do
  let m := s.point.mark
  let m := if m.column ≠ 0 then { m with column := 0, line := m.line + 1 } else m
  let s ← { s with point := { s.point with mark := m } }.atTopLevel
  return { s.emit .streamEnd m m with ended := true }

/-- An opening bracket or brace. -/
def lexFlowStart (kind : TokenKind) (s : Lexer) : Except Fault Lexer := do
  let s ← s.rememberKey
  return { s with keys := none :: s.keys, keyAllowed := true }.emitHere kind 1

/-- A closing bracket or brace. -/
def lexFlowEnd (kind : TokenKind) (s : Lexer) : Except Fault Lexer := do
  let s ← s.forgetKey
  let keys := if s.inFlow then s.keys.drop 1 else s.keys
  return { s with keys, keyAllowed := false }.emitHere kind 1

/-- A comma inside brackets or braces. -/
def lexFlowEntry (s : Lexer) : Except Fault Lexer := do
  let s ← s.forgetKey
  return { s with keyAllowed := true }.emitHere .flowEntry 1

/-- The dash of an element of a block. -/
def lexBlockEntry (s : Lexer) : Except Fault Lexer := do
  if !s.inFlow && !s.keyAllowed then
    throw (s.bareFault "block sequence entries are not allowed in this context")
  let s := s.openBlock s.column none .blockSequenceStart s.point.mark
  let s ← s.forgetKey
  return { s with keyAllowed := true }.emitHere .blockEntry 1

/-- The question mark in front of a key. -/
def lexKey (s : Lexer) : Except Fault Lexer := do
  if !s.inFlow && !s.keyAllowed then
    throw (s.bareFault "mapping keys are not allowed in this context")
  let s := s.openBlock s.column none .blockMappingStart s.point.mark
  let s ← s.forgetKey
  return { s with keyAllowed := !s.inFlow }.emitHere .key 1

/-- The colon between a key and its value. -/
def lexValue (s : Lexer) : Except Fault Lexer :=
  match s.keys with
  | some k :: outer =>
    let s := { s with keys := none :: outer, keyAllowed := false }.insertAt k.position .key k.mark
    let s := s.openBlock k.mark.column (some k.position) .blockMappingStart k.mark
    .ok (s.emitHere .value 1)
  | _ =>
    if !s.inFlow && !s.keyAllowed then
      .error (s.bareFault "mapping values are not allowed in this context")
    else
      let s := s.openBlock s.column none .blockMappingStart s.point.mark
      .ok ({ s with keyAllowed := !s.inFlow }.emitHere .value 1)

/-- An anchor or an alias. -/
def lexAnchor (isAlias : Bool) (s : Lexer) : Except Fault Lexer := do
  let s ← s.rememberKey
  let start := s.point.mark
  let (name, p) := (s.point.forward 1).takeWhile isWord
  let follows := p.gapAt 0 || p.peek?.any fun c =>
    c == '?' || c == ':' || c == ',' || c == ']' || c == '\x7d' || c == '%' || c == '@' ||
      c.toNat == 0x60
  if name.isEmpty || !follows then
    throw (p.fault "did not find expected alphabetic or numeric character"
      (if isAlias then "while scanning an alias" else "while scanning an anchor") start)
  let kind := if isAlias then TokenKind.alias (String.ofList name) else .anchor (String.ofList name)
  return { s with keyAllowed := false, point := p }.emit kind start p.mark

/-! ## Tags and directives -/

/-- The characters of a tag's address; the last three only where `all` says so. -/
def isAddress (all : Bool) (c : Char) : Bool :=
  isWord c || ";/?:@&=+$.%!~*'()".toList.contains c ||
    (all && (c == ',' || c == '[' || c == ']'))

/-- The length of a UTF-8 sequence by its first octet; none if it cannot be one. -/
def utf8Length? (octet : Nat) : Option Nat :=
  if octet < 0x80 then some 1
  else if octet / 32 = 6 then some 2
  else if octet / 16 = 14 then some 3
  else if octet / 8 = 30 then some 4
  else none

/-- Reads one escaped octet. -/
def escapedOctet? (p : Point) : Option (Nat × Point) :=
  match p.rest with
  | '%' :: a :: b :: _ => do
    let hi ← hexDigit? a
    let lo ← hexDigit? b
    return (hi * 16 + lo, p.forward 3)
  | _ => none

/-- Reads a character written as escaped octets. -/
def readEscapedChar (context : String) (start : Mark) (p : Point) :
    Except Fault (List Char × Point) := do
  match escapedOctet? p with
  | none => throw (p.fault "did not find URI escaped octet" context start)
  | some (first, after) =>
    match utf8Length? first with
    | none => throw (p.fault "found an incorrect leading UTF-8 octet" context start)
    | some n => rest (n - 1) after [UInt8.ofNat first]
where
  /-- Reads the octets after the first. -/
  rest : Nat → Point → List UInt8 → Except Fault (List Char × Point)
    | 0, p, octets =>
      .ok (((String.fromUTF8? (ByteArray.mk octets.toArray)).getD "").toList, p)
    | n + 1, p, octets =>
      match escapedOctet? p with
      | none => .error (p.fault "did not find URI escaped octet" context start)
      | some (o, after) =>
        if o / 64 ≠ 2 then
          .error (p.fault "found an incorrect trailing UTF-8 octet" context start)
        else rest n after (octets ++ [UInt8.ofNat o])

/-- Reads the address of a tag, after what belongs in front of it. Gives also how many
characters were read. -/
def readAddress (all : Bool) (context : String) (start : Mark) :
    Nat → Point → List Char → Nat → Except Fault (List Char × Point × Nat)
  | 0, p, text, n => .ok (text, p, n)
  | fuel + 1, p, text, n =>
    match p.peek? with
    | none => .ok (text, p, n)
    | some c =>
      if !isAddress all c then .ok (text, p, n)
      else if c == '%' then do
        let (cs, after) ← readEscapedChar context start p
        readAddress all context start fuel after (text ++ cs) (n + 1)
      else readAddress all context start fuel (p.forward 1) (text ++ [c]) (n + 1)

/-- Reads the address of a tag; `head` is a handle that turned out to be part of it. -/
def readTagAddress (all directive : Bool) (head : List Char) (start : Mark) (p : Point) :
    Except Fault (List Char × Point) := do
  let context := if directive then "while parsing a %TAG directive" else "while parsing a tag"
  let (text, after, n) ← readAddress all context start (p.rest.length + 1) p (head.drop 1) 0
  if n = 0 ∧ head.length = 0 then throw (after.fault "did not find expected tag URI" context start)
  return (text, after)

/-- Reads a handle: an exclamation mark, and perhaps a word and another mark. -/
def readHandle (directive : Bool) (start : Mark) (p : Point) :
    Except Fault (List Char × Point) := do
  if !p.isAt '!' then
    throw (p.fault "did not find expected '!'"
      (if directive then "while scanning a directive" else "while scanning a tag") start)
  let (word, after) := (p.forward 1).takeWhile isWord
  if after.isAt '!' then return ('!' :: word ++ ['!'], after.forward 1)
  else if directive && !word.isEmpty then
    throw (after.fault "did not find expected '!'" "while parsing a tag directive" start)
  else return ('!' :: word, after)

/-- Reads a tag: its handle and the rest of it. -/
def readTag (start : Mark) (p : Point) : Except Fault (List Char × List Char × Point) := do
  if p.peekAt? 1 == some '<' then
    let (address, p) ← readTagAddress true false [] start (p.forward 2)
    if !p.isAt '>' then
      throw (p.fault "did not find the expected '>'" "while scanning a tag" start)
    return ([], address, p.forward 1)
  else
    let (handle, p) ← readHandle false start p
    if 1 < handle.length ∧ handle.getLast? = some '!' then
      let (address, p) ← readTagAddress false false [] start p
      return (handle, address, p)
    else
      let (address, p) ← readTagAddress false false handle start p
      return if address.isEmpty then ([], ['!'], p) else (['!'], address, p)

/-- A tag. -/
def lexTag (s : Lexer) : Except Fault Lexer := do
  let s ← s.rememberKey
  let start := s.point.mark
  let (handle, suffix, p) ← readTag start s.point
  if !(s.inFlow && p.isAt ',') && !p.gapAt 0 then
    throw (p.fault "did not find expected whitespace or line break" "while scanning a tag" start)
  return { s with keyAllowed := false, point := p }.emit
    (.tag (String.ofList handle) (String.ofList suffix)) start p.mark

/-- Reads a number of a version. -/
def readVersionNumber (start : Mark) (p : Point) : Except Fault (Nat × Point) := do
  let context := "while scanning a %YAML directive"
  let (digits, after) := p.takeWhile Char.isDigit
  if 9 < digits.length then
    throw ((p.forward 9).fault "found extremely long version number" context start)
  if digits.isEmpty then throw (p.fault "did not find expected version number" context start)
  return (digits.foldl (fun n d => n * 10 + (d.toNat - 48)) 0, after)

/-- A directive. -/
def lexDirective (s : Lexer) : Except Fault Lexer := do
  let s ← s.atTopLevel
  let start := s.point.mark
  let context := "while scanning a directive"
  let (name, p) := (s.point.forward 1).takeWhile isWord
  if name.isEmpty then
    throw (p.fault "could not find expected directive name" context start)
  if !p.gapAt 0 then
    throw (p.fault "found unexpected non-alphabetical character" context start)
  let (kind, p) ←
    if name == "YAML".toList then do
      let (major, p) ← readVersionNumber start (p.skipWhile isBlank)
      if !p.isAt '.' then
        throw (p.fault "did not find expected digit or '.' character"
          "while scanning a %YAML directive" start)
      let (minor, p) ← readVersionNumber start (p.forward 1)
      pure (TokenKind.versionDirective major minor, p)
    else if name == "TAG".toList then do
      let (handle, p) ← readHandle true start (p.skipWhile isBlank)
      if !p.atBlank then
        throw (p.fault "did not find expected whitespace" "while scanning a %TAG directive" start)
      let (expansion, p) ← readTagAddress true true [] start (p.skipWhile isBlank)
      if !p.gapAt 0 then
        throw (p.fault "did not find expected whitespace or line break"
          "while scanning a %TAG directive" start)
      pure (TokenKind.tagDirective (String.ofList handle) (String.ofList expansion), p)
    else throw (p.fault "found unknown directive name" context start)
  let stop := p.mark
  let p := (p.skipWhile isBlank).skipComment
  if !p.atBreakOrEnd then
    throw (p.fault "did not find expected comment or line break" context start)
  return { s with point := p.skipBreak }.emit kind start stop

/-! ## Scalars -/

/-- A block scalar. -/
def lexBlockScalar (literal : Bool) (s : Lexer) : Except Fault Lexer := do
  let s ← s.forgetKey
  let start := s.point.mark
  let b ← readBlock literal s.indent start (s.point.forward 1)
  return { s with keyAllowed := true, point := b.after }.emit
    (.scalar (String.ofList b.text) (if literal then .literal else .folded)) start b.stop

/-- A quoted scalar. -/
def lexQuoted (single : Bool) (s : Lexer) : Except Fault Lexer := do
  let s ← s.rememberKey
  let start := s.point.mark
  let p := s.point.forward 1
  let (text, after) ← readQuoted single start (p.rest.length + 1) p []
  return { s with keyAllowed := false, point := after }.emit
    (.scalar (String.ofList text) (if single then .singleQuoted else .doubleQuoted)) start after.mark

/-- A plain scalar. A key may start after one that a line break follows. -/
def lexPlain (s : Lexer) : Except Fault Lexer := do
  let s ← s.rememberKey
  let start := s.point.mark
  let r ← readPlain s.inFlow (s.indent + 1) start (s.point.rest.length + 1) s.point [] start {}
  return { s with keyAllowed := r.broken, point := r.after }.emit
    (.scalar (String.ofList r.text) .plain) start r.stop

/-! ## All tokens -/

/-- The characters that no plain scalar starts with. -/
def isIndicator (c : Char) : Bool :=
  "-?:,[]\x7b\x7d#&*!|>'\"%@\x60".toList.contains c

/-- Whether a plain scalar may start here. -/
def startsPlain (s : Lexer) (c : Char) : Bool :=
  !(isBlank c || isBreak c || isIndicator c) ||
    (c == '-' && !(s.point.peekAt? 1).any isBlank) ||
    (!s.inFlow && (c == '?' || c == ':') && !s.point.gapAt 1)

/-- Reads the next token, and those that stand for indentation before it. -/
def next (s : Lexer) : Except Fault Lexer := do
  if !s.started then
    return { s.emit .streamStart s.point.mark s.point.mark with started := true }
  let s ← s.skipToToken.forgetStaleKeys
  let s := s.closeBlocks s.column
  match s.point.peek? with
  | none => s.lexEnd
  | some c =>
    if s.point.mark.column = 0 ∧ c = '%' then s.lexDirective
    else if s.point.atDocumentMarker then do
      let s ← s.atTopLevel
      return s.emitHere (if c = '-' then .documentStart else .documentEnd) 3
    else
      let structural := s.inFlow || s.point.gapAt 1
      match c with
      | '[' => s.lexFlowStart .flowSequenceStart
      | '\x7b' => s.lexFlowStart .flowMappingStart
      | ']' => s.lexFlowEnd .flowSequenceEnd
      | '\x7d' => s.lexFlowEnd .flowMappingEnd
      | ',' => s.lexFlowEntry
      | '*' => s.lexAnchor true
      | '&' => s.lexAnchor false
      | '!' => s.lexTag
      | '\'' => s.lexQuoted true
      | '"' => s.lexQuoted false
      | _ =>
        if c = '-' ∧ s.point.gapAt 1 then s.lexBlockEntry
        else if c = '?' ∧ structural then s.lexKey
        else if c = ':' ∧ structural then s.lexValue
        else if c = '|' ∧ !s.inFlow then s.lexBlockScalar true
        else if c = '>' ∧ !s.inFlow then s.lexBlockScalar false
        else if s.startsPlain c then s.lexPlain
        else
          throw (s.point.fault "found character that cannot start any token"
            "while scanning for the next token" s.point.mark)

/-- How many tokens can be seen: all before the first that may still be a key. -/
def seen (s : Lexer) : Nat :=
  s.keys.foldl (fun n key => match key with
    | some k => min n k.position
    | none => n) s.tokens.length

/-- Reads tokens to the end of the text or to a fault; `released` have been seen. -/
def run : Nat → Nat → Lexer → List Token × Option Fault
  | 0, _, s => (s.tokens, none)
  | fuel + 1, released, s =>
    if s.ended then (s.tokens, none)
    else
      let checked := if released < s.tokens.length then s.forgetStaleKeys else .ok s
      match checked with
      | .error f => (s.tokens.take released, some f)
      | .ok s =>
        let released := s.seen
        match s.next with
        | .error f => (s.tokens.take released, some f)
        | .ok s => run fuel released s

/-- The characters that a text may hold. -/
def isAllowed (c : Char) : Bool :=
  let n := c.toNat
  n == 9 || n == 10 || n == 13 || (0x20 ≤ n && n ≤ 0x7E) || n == 0x85 ||
    (0xA0 ≤ n && n ≤ 0xD7FF) || (0xE000 ≤ n && n ≤ 0xFFFD) || 0x10000 ≤ n

/-- The octets before the first character that a text may not hold, if there is one. -/
def forbidden? (cs : List Char) : Option Nat :=
  go 0 cs
where
  /-- Counts octets. -/
  go (offset : Nat) : List Char → Option Nat
    | [] => none
    | c :: rest => if isAllowed c then go (offset + c.utf8Size) rest else some offset

end Lexer

/-- The tokens of a text that can be seen before its first fault, and the fault. -/
def tokensOf (source : String) : List Token × Option Fault :=
  let cs := source.toList
  match Lexer.forbidden? cs with
  | some offset => ([], some { problem := "control characters are not allowed", offset })
  | none => Lexer.run (cs.length + 2) 0 { point := ⟨cs, {}⟩ }

end FaultConsole.Yaml
