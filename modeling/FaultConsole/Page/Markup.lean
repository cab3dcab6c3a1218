import FaultConsole.Text.Blank

/-!
# Markup

The page is a tree of elements and texts, and it becomes text in one place only. What comes from
records or from the user is escaped there, so a name can never be taken for markup.
-/

namespace FaultConsole

/-- An attribute of an element, other than its class. -/
inductive Attribute where
  | value (name value : String)
  /-- An attribute that says something by being there. -/
  | flag (name : String) (on : Bool)
deriving Repr, DecidableEq

/-- A part of the page. The class of an element may be empty. -/
inductive Markup where
  | text (text : String)
  | element (tag : String) (attributes : List Attribute) (style : String)
      (children : List Markup)
  /-- An element that never has children. -/
  | childless (tag : String) (attributes : List Attribute) (style : String)

namespace Markup

/-- An element without attributes other than a class. -/
def box (tag style : String) (children : List Markup) : Markup := element tag [] style children

/-- An element that holds one text. -/
def line (tag style content : String) : Markup := element tag [] style [text content]

/-- A drawing, by its name and its size. -/
def icon (name : String) (size : Nat) : Markup :=
  element "svg" [.value "data-icon" name, .value "width" (toString size)] "" []

/-! ## Writing it out -/

/-- A character of a text. -/
def escapedChar (c : Char) : List Char :=
  if c == '&' then "&amp;".toList
  else if c == '<' then "&lt;".toList
  else if c == '>' then "&gt;".toList
  else [c]

/-- A character of the value of an attribute, which stands between double quotes. -/
def escapedValueChar (c : Char) : List Char :=
  if c == '"' then "&quot;".toList else escapedChar c

/-- A text as it is written; an empty one is written as a space. -/
def escaped (s : String) : String :=
  if s.isEmpty then " " else String.ofList (s.toList.flatMap escapedChar)

/-- The value of an attribute as it is written. -/
def escapedValue (s : String) : String := String.ofList (s.toList.flatMap escapedValueChar)

/-- An attribute with its value. -/
def valueText (name value : String) : String := " " ++ name ++ "=\"" ++ escapedValue value ++ "\""

/-- An attribute as it is written: one that is off is left out. -/
def attributeText : Attribute → String
  | .value name value => valueText name value
  | .flag name on => if on then " " ++ name else ""

/-- A tag's name and attributes, the class last. -/
def head (tag : String) (attributes : List Attribute) (style : String) : String :=
  let style := Text.trim style
  tag ++ String.join (attributes.map attributeText) ++
    if style.isEmpty then "" else valueText "class" style

mutual

/-- The text of markup. -/
def write : Markup → String
  | text s => escaped s
  | element tag attributes style children =>
    "<" ++ head tag attributes style ++ ">" ++ writeAll children ++ "</" ++ tag ++ ">"
  | childless tag attributes style => "<" ++ head tag attributes style ++ ">"

/-- The text of several pieces of markup, without anything between them. -/
def writeAll : List Markup → String
  | [] => ""
  | m :: ms => write m ++ writeAll ms

end

end Markup

end FaultConsole
