/-!
# JSON values

The values that records, parameters and request bodies are made of. Integers and doubles are
kept apart: an integer that fits 64 bits (signed or unsigned) is exact, every other number is
the double its text was read as, kept as bits.

An object is a list of members in ascending order of their keys, no key twice. Keys are ordered
by code points, which is also the order of their UTF-8 forms. `Json.ofMembers` puts members into
that form: of two members with one key the later one stays.
-/

namespace FaultConsole

/-- A JSON value. -/
inductive Json where
  | null
  | bool (value : Bool)
  | int (value : Int)
  /-- A double, by its bits. -/
  | float (bits : UInt64)
  | string (value : String)
  | array (items : List Json)
  /-- Members in ascending order of their keys. -/
  | object (members : List (String × Json))
deriving Repr, Inhabited, BEq

namespace Json

/-- A member of an object. -/
abbrev Member := String × Json

/-- Members with one more, in the place its key asks for. A member with the same key is
replaced. -/
def insertMember (m : Member) : List Member → List Member
  | [] => [m]
  | first :: rest =>
    if m.1 < first.1 then m :: first :: rest
    else if m.1 = first.1 then m :: rest
    else first :: insertMember m rest

/-- Members in any order as the members of an object. -/
def sortMembers (members : List Member) : List Member :=
  members.foldl (fun sorted m => insertMember m sorted) []

/-- The object with these members. -/
def ofMembers (members : List Member) : Json := .object (sortMembers members)

/-- The value of a member, if the value is an object that has it. -/
def member? (key : String) : Json → Option Json
  | .object members => members.lookup key
  | _ => none

end Json

end FaultConsole
