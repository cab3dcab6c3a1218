import FaultConsole.Yaml.Mark

/-!
# Reading a YAML text from left to right

A point is what is left of the text and the mark of its first character. Line breaks have five
spellings; three of them are read as a line feed, the two separators of Unicode as themselves.
-/

namespace FaultConsole.Yaml

/-- Line feed, carriage return, next line, and the line and paragraph separators. -/
def isBreak (c : Char) : Bool :=
  c == '\n' || c == '\r' || c.toNat == 0x85 || c.toNat == 0x2028 || c.toNat == 0x2029

/-- A space or a tab. -/
def isBlank (c : Char) : Bool := c == ' ' || c == '\t'

/-- Letters, digits, `_` and `-`. -/
def isWord (c : Char) : Bool := c.isAlphanum || c == '_' || c == '-'

/-- A point in a text. -/
structure Point where
  rest : List Char
  mark : Mark
deriving Repr, DecidableEq

namespace Point

/-- The next character. -/
def peek? (p : Point) : Option Char := p.rest.head?

/-- The character so many places on. -/
def peekAt? (n : Nat) (p : Point) : Option Char := p.rest[n]?

/-- Whether the next character is a given one. -/
def isAt (c : Char) (p : Point) : Bool := p.peek? == some c

/-- Whether nothing is left. -/
def atEnd (p : Point) : Bool := p.rest.isEmpty

/-- Whether a line break is next. -/
def atBreak (p : Point) : Bool := p.peek?.any isBreak

/-- Whether a space or a tab is next. -/
def atBlank (p : Point) : Bool := p.peek?.any isBlank

/-- Whether a line break or the end is next. -/
def atBreakOrEnd (p : Point) : Bool := p.peek?.all isBreak

/-- Whether the character so many places on is a blank, a line break or the end. -/
def gapAt (n : Nat) (p : Point) : Bool := (p.peekAt? n).all fun c => isBlank c || isBreak c

/-- The point after so many characters of one line. -/
def forward (n : Nat) (p : Point) : Point := ⟨p.rest.drop n, p.mark.forward n⟩

/-- The characters of one line that satisfy a test, and the point after them. -/
def takeWhile (test : Char → Bool) (p : Point) : List Char × Point :=
  let cs := p.rest.takeWhile fun c => test c && !isBreak c
  (cs, p.forward cs.length)

/-- The point after the characters of one line that satisfy a test. -/
def skipWhile (test : Char → Bool) (p : Point) : Point := (p.takeWhile test).2

/-- What a line break is read as, and the point after it; nothing where there is none. -/
def takeBreak (p : Point) : List Char × Point :=
  let next (n : Nat) (m : Mark) : Mark := { index := m.index + n, line := m.line + 1, column := 0 }
  match p.rest with
  | '\r' :: '\n' :: rest => (['\n'], ⟨rest, next 2 p.mark⟩)
  | c :: rest =>
    if c == '\n' || c == '\r' || c.toNat == 0x85 then (['\n'], ⟨rest, next 1 p.mark⟩)
    else if isBreak c then ([c], ⟨rest, next 1 p.mark⟩)
    else ([], p)
  | [] => ([], p)

/-- The point after a line break. -/
def skipBreak (p : Point) : Point := p.takeBreak.2

/-- The point after the rest of the line, where a comment is next. -/
def skipComment (p : Point) : Point := if p.isAt '#' then p.skipWhile fun _ => true else p

/-- Whether the marker of a document's start or end is next, at the start of a line. -/
def atDocumentMarker (p : Point) : Bool :=
  p.mark.column == 0 &&
    (p.rest.take 3 == ['-', '-', '-'] || p.rest.take 3 == ['.', '.', '.']) && p.gapAt 3

/-- A fault at this point, while something that began at a mark was read. -/
def fault (p : Point) (problem context : String) (began : Mark) : Fault :=
  { problem, mark := p.mark, context := some (context, began) }

end Point

end FaultConsole.Yaml
