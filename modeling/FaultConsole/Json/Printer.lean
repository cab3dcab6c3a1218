import FaultConsole.Json.Basic
import FaultConsole.Decimal.Shortest

/-!
# Compact JSON text

Values are written without spaces. In a string only the quote, the backslash and characters
below U+0020 are escaped; everything else stands as it is.
-/

namespace FaultConsole.Json

/-- Doubles are written positionally from `0.00001` up to sixteen places before the point, and
every exponent carries its sign. -/
def numberLayout : Decimal.Layout := ⟨-5, 16, true⟩

/-- A finite double as JSON text. -/
def floatText (bits : UInt64) : List Char := numberLayout.write bits

/-- An integer in decimal. -/
def intText (n : Int) : List Char :=
  if n < 0 then '-' :: Nat.toDigits 10 n.natAbs else Nat.toDigits 10 n.natAbs

/-- The lower-case hexadecimal digit of a number below sixteen. -/
def hexDigit (n : Nat) : Char :=
  if n < 10 then Char.ofNat (48 + n) else Char.ofNat (87 + n)

/-- One character inside a string. -/
def escapedChar (c : Char) : List Char :=
  if c == '"' then ['\\', '"']
  else if c == '\\' then ['\\', '\\']
  else if c == '\x08' then ['\\', 'b']
  else if c == '\t' then ['\\', 't']
  else if c == '\n' then ['\\', 'n']
  else if c == '\x0c' then ['\\', 'f']
  else if c == '\r' then ['\\', 'r']
  else if c.toNat < 0x20 then
    ['\\', 'u', '0', '0', hexDigit (c.toNat / 16), hexDigit (c.toNat % 16)]
  else [c]

/-- A string with its quotes. -/
def stringText (s : String) : List Char :=
  '"' :: (s.toList.flatMap escapedChar ++ ['"'])

mutual

/-- The compact text of a value. -/
def text : Json → List Char
  | .null => ['n', 'u', 'l', 'l']
  | .bool true => ['t', 'r', 'u', 'e']
  | .bool false => ['f', 'a', 'l', 's', 'e']
  | .int n => intText n
  | .float bits => floatText bits
  | .string s => stringText s
  | .array items => '[' :: (itemsText items ++ [']'])
  | .object members => '\x7b' :: (membersText members ++ ['\x7d'])

/-- Elements with commas between them. -/
def itemsText : List Json → List Char
  | [] => []
  | [v] => text v
  | v :: rest => text v ++ ',' :: itemsText rest

/-- Members with commas between them, in the order given. -/
def membersText : List (String × Json) → List Char
  | [] => []
  | [(k, v)] => stringText k ++ ':' :: text v
  | (k, v) :: rest => stringText k ++ ':' :: (text v ++ ',' :: membersText rest)

end

/-- The compact text of a value. -/
def compact (v : Json) : String := String.ofList (text v)

/-- The compact text of an object whose members keep the order given. -/
def compactInOrder (members : List Member) : String :=
  String.ofList ('\x7b' :: (membersText members ++ ['\x7d']))

end FaultConsole.Json
