/-!
# Decimal digits

The value of ASCII digits.
-/

namespace FaultConsole.Decimal

/-- The value of a decimal digit. -/
def digitValue (c : Char) : Nat := c.toNat - 48

/-- The value of some digits, the most significant first. -/
def digitsValue (digits : List Char) : Nat :=
  digits.foldl (fun n d => n * 10 + digitValue d) 0

end FaultConsole.Decimal
