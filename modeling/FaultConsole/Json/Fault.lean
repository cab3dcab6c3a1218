import FaultConsole.Json.Printer
import FaultConsole.Text.Quoted

/-!
# What can be wrong with a JSON text

A fault has a cause and a place. The place is a number of octets from the start of the text;
the line and the column in octets that a message shows are computed from it.

Some causes are about the characters of the text, some about a value of the wrong kind, and
some about a record as a whole (a missing member); the last kind also arises when a record is
read from a value that has no text.
-/

namespace FaultConsole.Json

/-- A value of the wrong kind, as far as a message shows it. -/
inductive Shown where
  | null
  | bool (value : Bool)
  | int (value : Int)
  | float (bits : UInt64)
  | string (value : String)
  | sequence
  | map
deriving Repr, DecidableEq

/-- How a message names a value of the wrong kind. -/
def Shown.describe : Shown → String
  | .null => "null"
  | .bool true => "boolean `true`"
  | .bool false => "boolean `false`"
  | .int n => "integer `" ++ String.ofList (intText n) ++ "`"
  | .float bits => "floating point `" ++ String.ofList (floatText bits) ++ "`"
  | .string s => "string " ++ Text.quoted s
  | .sequence => "sequence"
  | .map => "map"

/-- How a value is shown when another kind was expected. -/
def shown : Json → Shown
  | .null => .null
  | .bool b => .bool b
  | .int n => .int n
  | .float bits => .float bits
  | .string s => .string s
  | .array _ => .sequence
  | .object _ => .map

/-- Why a text is refused. -/
inductive Cause where
  | endInValue
  | endInList
  | endInObject
  | endInString
  | colonExpected
  | listGoesOn
  | objectGoesOn
  | wordExpected
  | valueExpected
  | invalidEscape
  | invalidNumber
  | numberOutOfRange
  | loneSurrogate
  | surrogateCutOff
  | controlInString
  | keyExpected
  | trailingComma
  | trailingCharacters
  | tooDeep
  /-- A value of the wrong kind. -/
  | wrongKind (found : Shown) (expected : String)
  /-- A value of the right kind that is out of range. -/
  | wrongValue (found : Shown) (expected : String)
  | missingField (name : String)
  | repeatedField (name : String)
  /-- A record written as a sequence with too few elements. -/
  | wrongLength (length : Nat) (expected : String)
  | notATimestamp (text : String)
  /-- A cause that is already in words. -/
  | worded (message : String)
deriving Repr, DecidableEq

/-- The words for a cause. -/
def Cause.message : Cause → String
  | .endInValue => "EOF while parsing a value"
  | .endInList => "EOF while parsing a list"
  | .endInObject => "EOF while parsing an object"
  | .endInString => "EOF while parsing a string"
  | .colonExpected => "expected `:`"
  | .listGoesOn => "expected `,` or `]`"
  | .objectGoesOn => "expected `,` or `\x7d`"
  | .wordExpected => "expected ident"
  | .valueExpected => "expected value"
  | .invalidEscape => "invalid escape"
  | .invalidNumber => "invalid number"
  | .numberOutOfRange => "number out of range"
  | .loneSurrogate => "lone leading surrogate in hex escape"
  | .surrogateCutOff => "unexpected end of hex escape"
  | .controlInString => "control character (\\u0000-\\u001F) found while parsing a string"
  | .keyExpected => "key must be a string"
  | .trailingComma => "trailing comma"
  | .trailingCharacters => "trailing characters"
  | .tooDeep => "recursion limit exceeded"
  | .wrongKind found expected => "invalid type: " ++ found.describe ++ ", expected " ++ expected
  | .wrongValue found expected => "invalid value: " ++ found.describe ++ ", expected " ++ expected
  | .missingField name => "missing field `" ++ name ++ "`"
  | .repeatedField name => "duplicate field `" ++ name ++ "`"
  | .wrongLength n expected => "invalid length " ++ toString n ++ ", expected " ++ expected
  | .notATimestamp text => "invalid timestamp: " ++ text
  | .worded message => message

/-- Where a fault is reported. -/
inductive Place where
  /-- Behind this many octets. -/
  | octet (offset : Nat)
  /-- A line and a column, both given. -/
  | lineColumn (line column : Nat)
deriving Repr, DecidableEq

/-- A fault of a text. -/
structure Fault where
  cause : Cause
  place : Place
deriving Repr, DecidableEq

/-- A fault behind so many octets. -/
def Fault.at (cause : Cause) (offset : Nat) : Fault := ⟨cause, .octet offset⟩

/-- Line, from one, and column, the octets of the line so far, behind an offset. -/
def lineColumn (text : List Char) (offset : Nat) : Nat × Nat :=
  go 1 0 offset text
where
  /-- Goes forward until the offset is used up. -/
  go (line column left : Nat) : List Char → Nat × Nat
    | [] => (line, column)
    | c :: rest =>
      if left < c.utf8Size then (line, column + left)
      else if c == '\n' then go (line + 1) 0 (left - 1) rest
      else go line (column + c.utf8Size) (left - c.utf8Size) rest

/-- What is said about a fault of a text. -/
def Fault.message (source : String) (f : Fault) : String :=
  let (line, column) := match f.place with
    | .octet offset => lineColumn source.toList offset
    | .lineColumn line column => (line, column)
  f.cause.message ++ " at line " ++ toString line ++ " column " ++ toString column

end FaultConsole.Json
