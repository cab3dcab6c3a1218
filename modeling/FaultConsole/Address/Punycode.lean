/-!
# Names of hosts in ASCII

A label with characters beyond ASCII is written in ASCII: its ASCII characters first, then a
sequence of digits that tells which characters are to be put in between, and where. The
characters are put in by increasing code point, and each number is the distance to the next
place; digits are base 36 with thresholds that follow the size of the last distance.
-/

namespace FaultConsole.Address.Punycode

/-- A digit below 36: letters, then figures. -/
def digitChar (d : Nat) : Char :=
  if d < 26 then Char.ofNat (97 + d) else Char.ofNat (22 + d)

/-- The threshold of a digit at a position, which is a multiple of 36. -/
def threshold (position bias : Nat) : Nat :=
  if position ≤ bias then 1 else if bias + 26 ≤ position then 26 else position - bias

/-- The bias for a distance that has been scaled down. -/
def biasOf (distance steps : Nat) : Nat :=
  if 455 < distance then biasOf (distance / 35) (steps + 36)
  else steps + 36 * distance / (distance + 38)
termination_by distance
decreasing_by exact Nat.div_lt_self (by omega) (by omega)

/-- The bias after a distance, when so many characters have been placed. -/
def adapt (distance placed : Nat) (first : Bool) : Nat :=
  let d := if first then distance / 700 else distance / 2
  biasOf (d + d / placed) 0

theorem one_le_threshold (position bias : Nat) : 1 ≤ threshold position bias := by
  unfold threshold
  split
  · omega
  · split <;> omega

/-- The digits of a number. -/
def digits (bias position n : Nat) : List Char :=
  let t := threshold position bias
  if n < t then [digitChar n]
  else digitChar (t + (n - t) % (36 - t)) :: digits bias (position + 36) ((n - t) / (36 - t))
termination_by n
decreasing_by
  have h := one_le_threshold position bias
  have := Nat.div_le_self (n - threshold position bias) (36 - threshold position bias)
  omega

/-- How far a label has been written. -/
structure Progress where
  written : List Char
  distance : Nat := 0
  bias : Nat := 72
  /-- Characters placed so far. -/
  placed : Nat

/-- Looks at a character of the label while those with a code point are placed. -/
def Progress.look (basic code : Nat) (p : Progress) (c : Char) : Progress :=
  if c.toNat < code then { p with distance := p.distance + 1 }
  else if c.toNat = code then
    { written := p.written ++ digits p.bias 36 p.distance
      distance := 0
      bias := adapt p.distance (p.placed + 1) (p.placed == basic)
      placed := p.placed + 1 }
  else p

/-- Places the characters with each of some increasing code points, of which `next` is the least
possible. -/
def place (label : List Char) (basic : Nat) : List Nat → Nat → Progress → Progress
  | [], _, p => p
  | code :: codes, next, p =>
    let p := { p with distance := p.distance + (code - next) * (p.placed + 1) }
    let p := label.foldl (Progress.look basic code) p
    place label basic codes (code + 1) { p with distance := p.distance + 1 }

/-- A label in ASCII. -/
def encode (label : List Char) : List Char :=
  let basic := label.filter (·.toNat < 128)
  let codes := ((label.filter (128 ≤ ·.toNat)).map (·.toNat)).mergeSort.eraseDups
  let start : Progress :=
    { written := if basic.isEmpty then [] else basic ++ ['-'], placed := basic.length }
  (place label basic.length codes 128 start).written

/-- A label in ASCII, marked if it had to be written so. -/
def encodeLabel (label : List Char) : List Char :=
  if label.all (·.toNat < 128) then label else "xn--".toList ++ encode label

end FaultConsole.Address.Punycode
