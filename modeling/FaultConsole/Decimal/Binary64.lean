/-!
# Binary64 numbers as bits

A number with a fraction or an exponent is kept as the 64 bits of the IEEE 754 double nearest
to it. Nothing here uses floating-point hardware: a finite non-negative double is `m · 2^q`
with natural `m` and integer `q`, and rounding is exact arithmetic on a quotient of two natural
numbers, to nearest with ties to the even mantissa.
-/

namespace FaultConsole.Decimal

/-- A finite magnitude `mantissa · 2^exponent`. -/
structure Magnitude where
  mantissa : Nat
  exponent : Int
deriving DecidableEq, Repr

namespace Binary64

/-- The bit that carries the sign. -/
def signBit : Nat := Nat.pow 2 63

/-- Whether the sign bit is set. -/
def isNegative (bits : UInt64) : Bool := signBit ≤ bits.toNat

/-- The bits without the sign. -/
def unsigned (bits : UInt64) : Nat := bits.toNat % signBit

/-- The magnitude that finite bits stand for. -/
def magnitude (bits : UInt64) : Magnitude :=
  let e : Nat := unsigned bits / Nat.pow 2 52
  let f : Nat := unsigned bits % Nat.pow 2 52
  if e = 0 then ⟨f, -1074⟩ else ⟨f + Nat.pow 2 52, (e : Int) - 1075⟩

/-- A quotient and its remainder, rounded to nearest with ties to even. -/
def roundQuotient (num den : Nat) : Nat :=
  let q := num / den
  let r := num % den
  if den < 2 * r ∨ (2 * r = den ∧ q % 2 = 1) then q + 1 else q

/-- The exponent of the last place of the double nearest to `num / den`, both positive. -/
def lastPlace (num den : Nat) : Int :=
  let guess : Int := (Nat.log2 num : Int) - (Nat.log2 den : Int) - 52
  let fits := if 0 ≤ guess then Nat.pow 2 52 * (den * Nat.pow 2 guess.toNat) ≤ num
    else Nat.pow 2 52 * den ≤ num * Nat.pow 2 (-guess).toNat
  max (if fits then guess else guess - 1) (-1074)

/-- The bits of the double nearest to `num / den`; `none` where that is infinite. -/
def ofQuotient? (num den : Nat) : Option UInt64 :=
  if num = 0 then some 0
  else
    let q := lastPlace num den
    let m := if 0 ≤ q then roundQuotient num (den * Nat.pow 2 q.toNat)
      else roundQuotient (num * Nat.pow 2 (-q).toNat) den
    let bits := (q + 1074).toNat * Nat.pow 2 52 + m
    if 0x7FF * Nat.pow 2 52 ≤ bits then none else some (UInt64.ofNat bits)

/-- Numerator and denominator of the magnitude of finite bits. -/
def quotient (bits : UInt64) : Nat × Nat :=
  let v := magnitude bits
  if 0 ≤ v.exponent then (v.mantissa * Nat.pow 2 v.exponent.toNat, 1)
  else (v.mantissa, Nat.pow 2 (-v.exponent).toNat)

/-- The same number with the sign turned round. -/
def negate (bits : UInt64) : UInt64 :=
  UInt64.ofNat (if isNegative bits then bits.toNat - signBit else bits.toNat + signBit)

/-- The double nearest to a natural number below `2^64`. -/
def ofNat (n : Nat) : UInt64 := (ofQuotient? n 1).getD 0

/-- The double nearest to a product of magnitudes; `none` where that is infinite. -/
def mul? (a b : UInt64) : Option UInt64 :=
  let (n, d) := quotient a
  let (n', d') := quotient b
  ofQuotient? (n * n') (d * d')

/-- The double nearest to a quotient of magnitudes, the second not zero. -/
def div (a b : UInt64) : UInt64 :=
  let (n, d) := quotient a
  let (n', d') := quotient b
  (ofQuotient? (n * d') (d * n')).getD 0

/-- The double nearest to a power of ten with an exponent of at most 308. -/
def powerOfTen (e : Nat) : UInt64 := (ofQuotient? (Nat.pow 10 e) 1).getD 0

/-- A decimal significand scaled by a power of ten, as readers of numbers do it that round
twice: the significand first, then its product or quotient with the nearest double to the
power. Exponents below -308 are reached by repeated division; `none` is overflow. -/
def scale? (significand : Nat) (exponent : Int) : Option UInt64 :=
  let start := ofNat significand
  if 0 ≤ exponent then
    if exponent.toNat ≤ 308 then mul? start (powerOfTen exponent.toNat)
    else if significand = 0 then some 0 else none
  else some (down start (-exponent).toNat ((-exponent).toNat / 308 + 1))
where
  /-- Divides by a power of ten, 308 places at a time, until nothing is left. -/
  down (value : UInt64) (places : Nat) : Nat → UInt64
    | 0 => value
    | fuel + 1 =>
      if places ≤ 308 then div value (powerOfTen places)
      else if value = 0 then 0
      else down (div value (powerOfTen 308)) (places - 308) fuel

end Binary64

end FaultConsole.Decimal
