import FaultConsole.Yaml.Point

/-!
# The text of scalars

Scalars are written plain, between single or double quotes, or as blocks of lines. In the first
three a run of blanks and line breaks is folded: one line break becomes a space, more than one
lose the first, and blanks around line breaks vanish.

Each reader gives the text and the point after it.
-/

namespace FaultConsole.Yaml

/-- Blanks and line breaks inside a scalar, as far as they have been read. -/
structure Gap where
  /-- Whether a line break has been met. -/
  broken : Bool := false
  blanks : List Char := []
  firstBreak : List Char := []
  moreBreaks : List Char := []

/-- What a gap is read as. -/
def Gap.folded (g : Gap) : List Char :=
  if !g.broken then g.blanks
  else if g.firstBreak == ['\n'] then
    if g.moreBreaks.isEmpty then [' '] else g.moreBreaks
  else g.firstBreak ++ g.moreBreaks

/-- Reads blanks and line breaks. Where an indentation is given, a tab on a new line before it
is refused, at the point returned. -/
def readGap (indent : Option Int) : Nat → Point → Gap → Except Point (Point × Gap)
  | 0, p, g => .ok (p, g)
  | fuel + 1, p, g =>
    match p.peek? with
    | none => .ok (p, g)
    | some c =>
      if isBlank c then
        if g.broken && c == '\t' && indent.any (fun i => (p.mark.column : Int) < i) then .error p
        else
          let g := if g.broken then g else { g with blanks := g.blanks ++ [c] }
          readGap indent fuel (p.forward 1) g
      else if isBreak c then
        let (text, after) := p.takeBreak
        let g := if g.broken then { g with moreBreaks := g.moreBreaks ++ text }
          else { g with blanks := [], firstBreak := text, broken := true }
        readGap indent fuel after g
      else .ok (p, g)

/-! ## Quoted scalars -/

/-- What a quoted scalar is called in faults of its form. -/
def scanningQuoted : String := "while scanning a quoted scalar"

/-- What a quoted scalar is called in faults of its escapes. -/
def parsingQuoted : String := "while parsing a quoted scalar"

/-- The character that a one-letter escape stands for. -/
def namedEscape? : Char → Option Char
  | '0' => some '\x00'
  | 'a' => some '\x07'
  | 'b' => some '\x08'
  | 't' | '\t' => some '\t'
  | 'n' => some '\n'
  | 'v' => some '\x0b'
  | 'f' => some '\x0c'
  | 'r' => some '\r'
  | 'e' => some '\x1b'
  | ' ' => some ' '
  | '"' => some '"'
  | '/' => some '/'
  | '\\' => some '\\'
  | 'N' => some '\u0085'
  | '_' => some '\u00a0'
  | 'L' => some '\u2028'
  | 'P' => some '\u2029'
  | _ => none

/-- How many hexadecimal digits follow an escape with a code. -/
def codeLength? : Char → Option Nat
  | 'x' => some 2
  | 'u' => some 4
  | 'U' => some 8
  | _ => none

/-- The value of a hexadecimal digit. -/
def hexDigit? (c : Char) : Option Nat :=
  let n := c.toNat
  if 48 ≤ n ∧ n ≤ 57 then some (n - 48)
  else if 65 ≤ n ∧ n ≤ 70 then some (n - 55)
  else if 97 ≤ n ∧ n ≤ 102 then some (n - 87)
  else none

/-- The value of some hexadecimal digits. -/
def hexValue? (digits : List Char) : Option Nat :=
  digits.foldlM (fun n c => (hexDigit? c).map (n * 16 + ·)) 0

/-- Reads an escape whose backslash is next and which is no line break. -/
def readEscape (began : Mark) (p : Point) : Except Fault (Char × Point) :=
  match p.peekAt? 1 with
  | none => .error (p.fault "found unknown escape character" parsingQuoted began)
  | some e =>
    match namedEscape? e, codeLength? e with
    | some c, _ => .ok (c, p.forward 2)
    | none, some n =>
      let digits := p.forward 2
      let code := digits.rest.take n
      match if code.length = n then hexValue? code else none with
      | none => .error (digits.fault "did not find expected hexdecimal number" parsingQuoted began)
      | some v =>
        if (0xD800 ≤ v ∧ v ≤ 0xDFFF) ∨ 0x10FFFF < v then
          .error (digits.fault "found invalid Unicode character escape code" parsingQuoted began)
        else .ok (Char.ofNat v, digits.forward n)
    | none, none => .error (p.fault "found unknown escape character" parsingQuoted began)

/-- Reads characters of a quoted scalar up to a gap, the closing quote or the end. Says whether
an escaped line break ended the run. -/
def readQuotedRun (single : Bool) (began : Mark) :
    Nat → Point → List Char → Except Fault (List Char × Point × Bool)
  | 0, p, text => .ok (text, p, false)
  | fuel + 1, p, text =>
    match p.peek? with
    | none => .ok (text, p, false)
    | some c =>
      if isBlank c || isBreak c then .ok (text, p, false)
      else if single && c == '\'' && p.peekAt? 1 == some '\'' then
        readQuotedRun single began fuel (p.forward 2) (text ++ ['\''])
      else if c == (if single then '\'' else '"') then .ok (text, p, false)
      else if !single && c == '\\' then
        if (p.peekAt? 1).any isBreak then .ok (text, (p.forward 1).skipBreak, true)
        else do
          let (ch, after) ← readEscape began p
          readQuotedRun single began fuel after (text ++ [ch])
      else readQuotedRun single began fuel (p.forward 1) (text ++ [c])

/-- Reads a quoted scalar after its opening quote. -/
def readQuoted (single : Bool) (began : Mark) :
    Nat → Point → List Char → Except Fault (List Char × Point)
  | 0, p, text => .ok (text, p)
  | fuel + 1, p, text => do
    if p.atDocumentMarker then
      throw (p.fault "found unexpected document indicator" scanningQuoted began)
    if p.atEnd then throw (p.fault "found unexpected end of stream" scanningQuoted began)
    let (text, p, escaped) ← readQuotedRun single began (p.rest.length + 1) p text
    if p.isAt (if single then '\'' else '"') then return (text, p.forward 1)
    else
      match readGap none (p.rest.length + 1) p { broken := escaped } with
      | .ok (after, gap) => readQuoted single began fuel after (text ++ gap.folded)
      | .error after => throw (after.fault "" scanningQuoted began)

/-! ## Plain scalars -/

/-- What a plain scalar is called in faults. -/
def scanningPlain : String := "while scanning a plain scalar"

/-- The five characters that end a plain scalar inside brackets or braces. -/
def isFlowIndicator (c : Char) : Bool :=
  c == ',' || c == '[' || c == ']' || c == '\x7b' || c == '\x7d'

/-- Reads characters of a plain scalar up to a gap, an indicator or the end. -/
def readPlainRun (inFlow : Bool) (began : Mark) :
    Nat → Point → List Char → Except Fault (List Char × Point)
  | 0, p, run => .ok (run, p)
  | fuel + 1, p, run =>
    match p.peek? with
    | none => .ok (run, p)
    | some c =>
      if isBlank c || isBreak c then .ok (run, p)
      else if inFlow && c == ':' && (p.peekAt? 1).any (fun d => isFlowIndicator d || d == '?') then
        .error (p.fault "found unexpected ':'" scanningPlain began)
      else if (c == ':' && p.gapAt 1) || (inFlow && isFlowIndicator c) then .ok (run, p)
      else readPlainRun inFlow began fuel (p.forward 1) (run ++ [c])

/-- A plain scalar that has been read. -/
structure Plain where
  text : List Char
  /-- The end of the last character that belongs to it. -/
  stop : Mark
  /-- Where reading stands, after any gap. -/
  after : Point
  /-- Whether a line break follows it. -/
  broken : Bool

/-- Reads a plain scalar; `gap` is what has been read since its last character. -/
def readPlain (inFlow : Bool) (indent : Int) (began : Mark) :
    Nat → Point → List Char → Mark → Gap → Except Fault Plain
  | 0, p, text, stop, gap => .ok ⟨text, stop, p, gap.broken⟩
  | fuel + 1, p, text, stop, gap => do
    if p.atDocumentMarker || p.isAt '#' then return ⟨text, stop, p, gap.broken⟩
    let (run, p) ← readPlainRun inFlow began (p.rest.length + 1) p []
    let (text, stop, gap) :=
      if run.isEmpty then (text, stop, gap) else (text ++ gap.folded ++ run, p.mark, ({} : Gap))
    if !(p.atBlank || p.atBreak) then return ⟨text, stop, p, gap.broken⟩
    match readGap (some indent) (p.rest.length + 1) p gap with
    | .error at_ =>
      throw (at_.fault "found a tab character that violates indentation" scanningPlain began)
    | .ok (p, gap) =>
      if !inFlow && (p.mark.column : Int) < indent then return ⟨text, stop, p, gap.broken⟩
      else readPlain inFlow indent began fuel p text stop gap

/-! ## Block scalars -/

/-- What a block scalar is called in faults. -/
def scanningBlock : String := "while scanning a block scalar"

/-- What happens to the line breaks at the end of a block. -/
inductive Chomping where
  | strip
  | clip
  | keep
deriving DecidableEq

/-- Empty lines of a block: their breaks, the point of the next line that is not empty, the end
of the last empty line, and the largest indentation met. An indentation of zero is not known
yet. -/
def readEmptyLines (indent : Nat) (began : Mark) :
    Nat → Point → List Char → Mark → Nat → Except Fault (List Char × Point × Mark × Nat)
  | 0, p, breaks, stop, deepest => .ok (breaks, p, stop, deepest)
  | fuel + 1, p, breaks, stop, deepest =>
    let spaces := (p.rest.takeWhile (· == ' ')).length
    let taken := if indent = 0 then spaces else min spaces (indent - p.mark.column)
    let p := p.forward taken
    let deepest := max deepest p.mark.column
    if (indent = 0 ∨ p.mark.column < indent) ∧ p.isAt '\t' then
      .error (p.fault "found a tab character where an indentation space is expected"
        scanningBlock began)
    else if p.atBreak then
      let (text, after) := p.takeBreak
      readEmptyLines indent began fuel after (breaks ++ text) after.mark deepest
    else .ok (breaks, p, stop, deepest)

/-- A block scalar that has been read. -/
structure Block where
  text : List Char
  stop : Mark
  after : Point

/-- Reads the lines of a block. `lead` is the break before the next line, `breaks` the empty
lines after it, `blank` whether the line before started with a blank. -/
def readBlockLines (literal : Bool) (chomping : Chomping) (indent : Nat) (began : Mark) :
    Nat → Point → List Char → List Char → List Char → Bool → Mark → Except Fault Block
  | 0, p, text, _, _, _, stop => .ok ⟨text, stop, p⟩
  | fuel + 1, p, text, lead, breaks, blank, stop =>
    if p.mark.column = indent ∧ !p.atEnd then do
      let startsBlank := p.atBlank
      let text :=
        if !literal && lead == ['\n'] && !blank && !startsBlank then
          text ++ (if breaks.isEmpty then [' '] else [])
        else text ++ lead
      let (line, p) := p.takeWhile fun _ => true
      let text := text ++ breaks ++ line
      let (lead, p) := p.takeBreak
      let (breaks, p, stop, _) ← readEmptyLines indent began (p.rest.length + 1) p [] p.mark 0
      readBlockLines literal chomping indent began fuel p text lead breaks startsBlank stop
    else
      let text := match chomping with
        | .strip => text
        | .clip => text ++ lead
        | .keep => text ++ lead ++ breaks
      .ok ⟨text, stop, p⟩

/-- Reads what follows the indicator of a block: the sign that says how to chomp, and the digit
that gives the indentation, in either order. -/
def readBlockHeader (began : Mark) (p : Point) : Except Fault (Chomping × Nat × Point) :=
  let (chomping, p) := sign p
  match digit p with
  | .error f => .error f
  | .ok (increment, p) =>
    let (chomping, p) := if chomping.isNone then sign p else (chomping, p)
    .ok (chomping.getD .clip, increment, p)
where
  /-- Reads a sign, if there is one. -/
  sign (p : Point) : Option Chomping × Point :=
    if p.isAt '+' then (some .keep, p.forward 1)
    else if p.isAt '-' then (some .strip, p.forward 1)
    else (none, p)
  /-- Reads a digit, if there is one. -/
  digit (p : Point) : Except Fault (Nat × Point) :=
    match p.peek? with
    | some c =>
      if c == '0' then
        .error (p.fault "found an indentation indicator equal to 0" scanningBlock began)
      else if c.isDigit then .ok (c.toNat - 48, p.forward 1)
      else .ok (0, p)
    | none => .ok (0, p)

/-- Reads a block scalar after its indicator, inside a block with an indentation. -/
def readBlock (literal : Bool) (parentIndent : Int) (began : Mark) (p : Point) :
    Except Fault Block := do
  let (chomping, increment, p) ← readBlockHeader began p
  let p := (p.skipWhile isBlank).skipComment
  if !p.atBreakOrEnd then
    throw (p.fault "did not find expected comment or line break" scanningBlock began)
  let p := p.skipBreak
  let known := if increment = 0 then 0 else
    if 0 ≤ parentIndent then parentIndent.toNat + increment else increment
  let (breaks, p, stop, deepest) ← readEmptyLines known began (p.rest.length + 1) p [] p.mark 0
  let indent := if known = 0 then max deepest (max (parentIndent + 1).toNat 1) else known
  readBlockLines literal chomping indent began (p.rest.length + 1) p [] [] breaks false stop

end FaultConsole.Yaml
