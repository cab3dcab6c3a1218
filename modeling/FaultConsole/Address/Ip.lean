import FaultConsole.Decimal.Digits
import FaultConsole.Text.Percent

/-!
# Numeric addresses

Reading and writing the addresses of hosts that are numbers: four octets in decimal, or eight
groups of sixteen bits in hexadecimal, where one run of zero groups may be left out and the last
two groups may be written as octets.
-/

namespace FaultConsole.Address

/-! ## Octets -/

/-- Reads a number up to 255 without leading zeros. -/
def readOctet (cs : List Char) : Option (Nat × List Char) :=
  let digits := cs.takeWhile Char.isDigit
  let n := Decimal.digitsValue digits
  if digits.isEmpty || 3 < digits.length || 255 < n then none
  else if digits.head? == some '0' && 1 < digits.length then none
  else some (n, cs.drop digits.length)

/-- Passes over a character that has to be next. -/
def expect (c : Char) : List Char → Option (List Char)
  | d :: rest => if c = d then some rest else none
  | [] => none

/-- Reads four octets. -/
def readOctets (cs : List Char) : Option (List Nat × List Char) := do
  let (a, cs) ← readOctet cs
  let (b, cs) ← readOctet (← expect '.' cs)
  let (c, cs) ← readOctet (← expect '.' cs)
  let (d, cs) ← readOctet (← expect '.' cs)
  return ([a, b, c, d], cs)

/-- A number of 32 bits as four octets. -/
def octetsText (n : Nat) : String :=
  ".".intercalate
    ([n / Nat.pow 2 24, n / Nat.pow 2 16 % 256, n / Nat.pow 2 8 % 256, n % 256].map fun octet => toString octet)

/-! ## Groups -/

/-- Reads a group: up to four hexadecimal digits. -/
def readGroup (cs : List Char) : Option (Nat × List Char) :=
  let digits := cs.takeWhile fun c => (Text.Percent.hexValue? c).isSome
  if digits.isEmpty || 4 < digits.length then none
  else some (digits.foldl (fun n c => n * 16 + (Text.Percent.hexValue? c).getD 0) 0,
    cs.drop digits.length)

/-- Groups that were read one after the other. -/
structure Groups where
  values : List Nat := []
  /-- Whether the last two were written as octets. -/
  octets : Bool := false

/-- Reads up to so many groups, with a colon before each but the first. -/
def readGroups : Nat → Bool → List Char → Groups × List Char
  | 0, _, cs => ({}, cs)
  | n + 1, first, cs =>
    match if first then some cs else expect ':' cs with
    | none => ({}, cs)
    | some body =>
      match if n = 0 then none else readOctets body with
      | some ([a, b, c, d], rest) =>
        ({ values := [a * 256 + b, c * 256 + d], octets := true }, rest)
      | _ =>
        match readGroup body with
        | some (g, rest) =>
          let (more, rest) := readGroups n false rest
          ({ more with values := g :: more.values }, rest)
        | none => ({}, cs)

/-- Reads eight groups, where `::` stands for at least one that is zero. -/
def readIpv6 (cs : List Char) : Option (List Nat × List Char) :=
  let (front, rest) := readGroups 8 true cs
  if front.values.length = 8 then some (front.values, rest)
  else if front.octets then none
  else do
    let rest ← expect ':' (← expect ':' rest)
    let (back, rest) := readGroups (7 - front.values.length) true rest
    let zeros := 8 - front.values.length - back.values.length
    return (front.values ++ List.replicate zeros 0 ++ back.values, rest)

/-- The length of the run of zeros at the start. -/
def zeroRun (groups : List Nat) : Nat := (groups.takeWhile (· == 0)).length

/-- Where the longest run of zeros is, the first of equals, and its length. -/
def longestZeroRun (groups : List Nat) : Nat × Nat :=
  (List.range groups.length).foldl (fun best i =>
    let n := zeroRun (groups.drop i)
    if best.2 < n then (i, n) else best) (0, 0)

/-- Groups in hexadecimal. -/
def groupsText (groups : List Nat) : String :=
  ":".intercalate (groups.map fun g => String.ofList (Nat.toDigits 16 g))

/-- Eight groups, where the longest run of at least two zeros is left out. -/
def ipv6Text (groups : List Nat) : String :=
  let (start, length) := longestZeroRun groups
  if length < 2 then groupsText groups
  else groupsText (groups.take start) ++ "::" ++ groupsText (groups.drop (start + length))

/-! ## Addresses with a port -/

/-- Whether a text is a port. -/
def isPort (cs : List Char) : Bool :=
  !cs.isEmpty && cs.all Char.isDigit && Decimal.digitsValue cs < Nat.pow 2 16

/-- Passes over the number of an interface, if there is one. -/
def skipScope : List Char → Option (List Char)
  | '%' :: rest =>
    let digits := rest.takeWhile Char.isDigit
    if digits.isEmpty || Nat.pow 2 32 ≤ Decimal.digitsValue digits then none
    else some (rest.drop digits.length)
  | cs => some cs

/-- Whether a text is a numeric address with a port, as a server can listen at. -/
def isSocketAddress (s : String) : Bool :=
  let afterAddress : Option (List Char) := match s.toList with
    | '[' :: rest => do
      let (_, rest) ← readIpv6 rest
      expect ']' (← skipScope rest)
    | cs => (readOctets cs).map fun read => read.2
  (afterAddress.bind (expect ':')).any isPort

end FaultConsole.Address
