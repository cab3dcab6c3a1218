import FaultConsole.Decimal.Binary64

/-!
# The shortest decimal that reads back

A double is written with as few digits as identify it: of all decimals inside the interval of
reals that round to the double, one with the fewest digits, and of those the nearest. The
search goes through the grids of one, two, … seventeen digits and tests the two grid points
around the exact value; everything is exact arithmetic on natural numbers.

How the digits are laid out is a separate decision, `Layout`.
-/

namespace FaultConsole.Decimal

/-- A positive decimal: its digits, and the exponent of ten of the first of them. -/
structure Digits where
  digits : List Char
  exponent : Int
deriving DecidableEq, Repr

/-- Twice the bounds of the reals that round to a magnitude, as multiples of a quarter of its
last place, and whether the bounds belong to it. -/
structure RoundingInterval where
  low : Nat
  high : Nat
  inclusive : Bool

/-- The interval of a non-zero magnitude in quarters of its last place. -/
def roundingInterval (v : Magnitude) : RoundingInterval :=
  let lower := if v.mantissa = Nat.pow 2 52 ∧ -1074 < v.exponent then 1 else 2
  ⟨4 * v.mantissa - lower, 4 * v.mantissa + 2, v.mantissa % 2 = 0⟩

/-- `n · 2^q` and `10^k` on a common scale: numerator and denominator of `n · 2^q / 10^k`. -/
def onGrid (n : Nat) (q k : Int) : Nat × Nat :=
  (n * Nat.pow 2 q.toNat * Nat.pow 10 (-k).toNat, Nat.pow 2 (-q).toNat * Nat.pow 10 k.toNat)

/-- Whether the grid point `d · 10^k` lies in the interval of a magnitude. -/
def inInterval (v : Magnitude) (k : Int) (d : Nat) : Bool :=
  let bounds := roundingInterval v
  let (low, den) := onGrid bounds.low (v.exponent - 2) k
  let (high, _) := onGrid bounds.high (v.exponent - 2) k
  if bounds.inclusive then low ≤ d * den && d * den ≤ high
  else low < d * den && d * den < high

/-- The point of the grid of step `10^k` that reads back as the magnitude and is nearest to
it, if there is one. -/
def gridPoint? (v : Magnitude) (k : Int) : Option Nat :=
  let (num, den) := onGrid v.mantissa v.exponent k
  let below := num / den
  let r := num % den
  let nearBelow := 2 * r < den || (2 * r == den && below % 2 == 0)
  let (first, second) := if nearBelow then (below, below + 1) else (below + 1, below)
  if 0 < first && inInterval v k first then some first
  else if 0 < second && inInterval v k second then some second
  else none

/-- The exponent of ten of the first digit of a non-zero magnitude. -/
def leadingExponent (v : Magnitude) : Int :=
  let (num, den) := onGrid v.mantissa v.exponent 0
  if den ≤ num then ((Nat.toDigits 10 (num / den)).length : Int) - 1
  else
    let places := (Nat.toDigits 10 (den / num)).length
    if num * Nat.pow 10 (places - 1) = den then -((places : Int) - 1) else -(places : Int)

/-- The first hit on the grids of `n`, `n + 1`, … digits, with its step. -/
def search (v : Magnitude) (lead : Int) (n : Nat) : Nat → Nat × Int
  | 0 => (0, 0)
  | fuel + 1 =>
    let k := lead - (n : Int) + 1
    match gridPoint? v k with
    | some d => (d, k)
    | none => search v lead (n + 1) fuel

/-- The shortest digits of a non-zero magnitude. -/
def shortest (v : Magnitude) : Digits :=
  let (d, k) := search v (leadingExponent v) 1 17
  let all := Nat.toDigits 10 d
  let kept := (all.reverse.dropWhile (· == '0')).reverse
  ⟨kept, k + (all.length : Int) - 1⟩

/-! ## Laying the digits out -/

/-- When a number is written without an exponent, and how the exponent looks. -/
structure Layout where
  /-- The least exponent of the first digit that is written positionally. -/
  positionalFrom : Int
  /-- The least exponent of the first digit that is written with an exponent again. -/
  positionalBelow : Int
  /-- Whether a non-negative exponent carries a sign. -/
  plusSign : Bool
deriving DecidableEq, Repr

/-- A list of zeros. -/
def zeros (n : Int) : List Char := List.replicate n.toNat '0'

/-- Digits laid out with a point: at least one digit before it and one after. -/
def positional (d : Digits) : List Char :=
  if d.exponent < 0 then ['0', '.'] ++ zeros (-d.exponent - 1) ++ d.digits
  else
    let whole := d.exponent.toNat + 1
    let before := d.digits.take whole ++ zeros ((whole : Int) - d.digits.length)
    let after := d.digits.drop whole
    before ++ ['.'] ++ (if after.isEmpty then ['0'] else after)

/-- Digits laid out with an exponent of ten. -/
def scientific (layout : Layout) (d : Digits) : List Char :=
  let mantissa := match d.digits with
    | [] => ['0']
    | [c] => [c]
    | c :: rest => c :: '.' :: rest
  let sign := if d.exponent < 0 then ['-'] else if layout.plusSign then ['+'] else []
  mantissa ++ ['e'] ++ sign ++ Nat.toDigits 10 d.exponent.natAbs

/-- A finite double as text. -/
def Layout.write (layout : Layout) (bits : UInt64) : List Char :=
  let sign := if Binary64.isNegative bits then ['-'] else []
  if Binary64.unsigned bits = 0 then sign ++ ['0', '.', '0']
  else
    let d := shortest (Binary64.magnitude bits)
    sign ++ (if layout.positionalFrom ≤ d.exponent ∧ d.exponent < layout.positionalBelow
      then positional d else scientific layout d)

end FaultConsole.Decimal
