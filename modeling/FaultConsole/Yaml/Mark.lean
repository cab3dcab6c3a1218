/-!
# Places in a YAML text, and what is wrong there

A mark counts characters, lines and columns, all from zero. A fault says what the problem is and
where; often also what was being read, and where that began.
-/

namespace FaultConsole.Yaml

/-- A place in a text. -/
structure Mark where
  /-- Characters before it. -/
  index : Nat := 0
  line : Nat := 0
  column : Nat := 0
deriving Repr, DecidableEq, Inhabited

namespace Mark

/-- Whether a mark is where a text starts; messages do not mention that place. -/
def isStart (m : Mark) : Bool := m.line == 0 && m.column == 0

/-- Line and column, from one. -/
def describe (m : Mark) : String :=
  "line " ++ toString (m.line + 1) ++ " column " ++ toString (m.column + 1)

/-- The mark so many characters further on the same line. -/
def forward (n : Nat) (m : Mark) : Mark :=
  { m with index := m.index + n, column := m.column + n }

end Mark

/-- What is wrong with the form of a text. -/
structure Fault where
  problem : String
  mark : Mark := {}
  /-- The octet of a character that is not allowed. -/
  offset : Nat := 0
  /-- What was being read, and where it began. -/
  context : Option (String × Mark) := none
deriving Repr, DecidableEq

/-- The words for a fault. -/
def Fault.message (f : Fault) : String :=
  let place :=
    if !f.mark.isStart then " at " ++ f.mark.describe
    else if f.offset ≠ 0 then " at position " ++ toString f.offset
    else ""
  let context := match f.context with
    | none => ""
    | some (what, began) =>
      ", " ++ what ++
        (if !began.isStart ∧ (began.line ≠ f.mark.line ∨ began.column ≠ f.mark.column) then
          " at " ++ began.describe
        else "")
  f.problem ++ place ++ context

end FaultConsole.Yaml
