/-!
# Percent-encoding of one path segment

An identifier can hold any text, and it has to fit into one segment of a path. Every octet
of its UTF-8 form that is not an unreserved character of RFC 3986 is written as `%XX` with
upper-case digits, so a segment never holds `/`, `?`, `#` or `%` of its own and reading it
back gives the identifier again.
-/

namespace FaultConsole.Text.Percent

/-- Letters, digits, `-`, `_`, `.` and `~` stand for themselves. -/
def isUnreserved (c : Char) : Bool :=
  c.isAlphanum || c == '-' || c == '_' || c == '.' || c == '~'

/-- The upper-case hexadecimal digit of a number below sixteen. -/
def hexDigit (n : Nat) : Char :=
  if n < 10 then Char.ofNat (48 + n) else Char.ofNat (55 + n)

/-- One octet as `%XX`. -/
def escape (b : UInt8) : List Char :=
  ['%', hexDigit (b.toNat / 16), hexDigit (b.toNat % 16)]

/-- One character: itself if unreserved, else the escapes of its octets. -/
def encodeChar (c : Char) : List Char :=
  if isUnreserved c then [c] else (String.utf8EncodeChar c).flatMap escape

/-- The segment that stands for a text. -/
def encode (s : String) : String :=
  String.ofList (s.toList.flatMap encodeChar)

/-- The value of a hexadecimal digit of either case. -/
def hexValue? (c : Char) : Option Nat :=
  let n := c.toNat
  if 48 ≤ n ∧ n ≤ 57 then some (n - 48)
  else if 65 ≤ n ∧ n ≤ 70 then some (n - 55)
  else if 97 ≤ n ∧ n ≤ 102 then some (n - 87)
  else none

/-- The octets a segment stands for; `none` where a `%` is not followed by two digits. -/
def octets? : List Char → Option (List UInt8)
  | [] => some []
  | '%' :: h :: l :: rest => do
    let hi ← hexValue? h
    let lo ← hexValue? l
    let bytes ← octets? rest
    return UInt8.ofNat (16 * hi + lo) :: bytes
  | c :: rest =>
    if c == '%' then none else (octets? rest).map (String.utf8EncodeChar c ++ ·)

/-- The text a segment stands for; `none` where its octets are not UTF-8. -/
def decode? (segment : String) : Option String := do
  let bytes ← octets? segment.toList
  String.fromUTF8? (ByteArray.mk bytes.toArray)

end FaultConsole.Text.Percent
