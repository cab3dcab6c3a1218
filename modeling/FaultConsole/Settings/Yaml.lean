import FaultConsole.Settings.Basic
import FaultConsole.Yaml.Value

/-!
# Settings in a YAML file

A file of settings is one document: a mapping with the fields of the record, or nothing at all.
A field that is left out has its default, a field of another name is passed over, and no field
may come twice. The first fault counts; what follows the document is looked at only when the
document itself is in order.
-/

namespace FaultConsole.Settings

open Yaml (Document Mark Nodes Refusal)

/-- The fields met so far. -/
structure Slots where
  apiRoot : Option String := none
  timeoutSeconds : Option (Option Nat) := none

/-- The settings of the fields that were met. -/
def ofSlots (s : Slots) : Settings :=
  { apiRoot := s.apiRoot.getD defaultApiRoot, timeoutSeconds := s.timeoutSeconds.getD none }

/-- A field comes twice. -/
def repeatedField (name : String) : Refusal := .content ("duplicate field `" ++ name ++ "`") none

/-- Takes the value of the field with a name. -/
def takeField (d : Document) (name path : String) (s : Slots) (nodes : Nodes) :
    Except Refusal (Slots × Nodes) := do
  if name = "api_root" then
    if s.apiRoot.isSome then throw (repeatedField name)
    let (v, nodes) ← d.takeText path "a string" nodes
    return ({ s with apiRoot := some v }, nodes)
  else if name = "timeout_secs" then
    if s.timeoutSeconds.isSome then throw (repeatedField name)
    let (v, nodes) ← d.takeOptionalCount path nodes
    return ({ s with timeoutSeconds := some v }, nodes)
  else
    let nodes ← Document.pass 0 nodes
    return (s, nodes)

/-- Takes the members of a mapping. Each takes at least one node, which bounds their number. The
path of a value is its key, where the key is written out. -/
def takeMembers (d : Document) : Nat → Slots → Nodes → Except Refusal Slots
  | 0, _, _ => .error .cut
  | _, _, [] => .error .cut
  | fuel + 1, s, n :: rest =>
    match n.1 with
    | .mappingEnd => .ok s
    | _ => do
      let (name, nodes) ← d.takeText "" "field identifier" (n :: rest)
      let path := match n.1 with
        | .scalar k => k.text
        | _ => "?"
      let (s, nodes) ← takeField d name path s nodes
      takeMembers d fuel s nodes

/-- The settings of a document. -/
def ofDocument (d : Document) : Except Refusal Settings := do
  let ((n, mark), rest) ← d.take d.nodes
  let settings : Except Refusal Settings := match n with
    | .mappingStart => ofSlots <$> takeMembers d rest.length {} rest
    | .void => .ok {}
    | .scalar s =>
      if s.text.isEmpty ∧ s.style = .plain ∧ s.tag.isNone then .ok {}
      else .error (.wrongKind n "struct DashboardConfig")
    | _ => .error (.wrongKind n "struct DashboardConfig")
  settings.mapError (Refusal.located "" mark)

/-- The settings of a file's text. -/
def read (text : String) : Except Problem Settings :=
  let (d, more) := Document.first text
  match ofDocument d, d.broken with
  | .error r, broken => .error (.config (r.message broken))
  | .ok _, some b => .error (.config b.message)
  | .ok s, none =>
    if more then
      .error (.config "deserializing from YAML containing more than one document is not supported")
    else .ok s

/-- The settings of a file's text, if they can be used. -/
def ofYaml (text : String) : Except Problem Settings := do
  let s ← read text
  s.validate
  return s

/-! ## Where settings come from -/

/-- Why a file cannot be read. -/
inductive FileFault where
  | missing
  | isDirectory
  | other (reason : String)
deriving Repr, DecidableEq

/-- The words for a fault of a file. -/
def FileFault.message : FileFault → String
  | missing => "No such file or directory (os error 2)"
  | isDirectory => "Is a directory (os error 21)"
  | other reason => reason

/-- The settings of a file at a path: `content` is what reading it gives. -/
def ofFile (path : String) (content : Except FileFault String) : Except Problem Settings :=
  match content with
  | .error f => .error (.config (path ++ ": " ++ f.message))
  | .ok text => ofYaml text

/-- A root that is given replaces that of the file, and the file's replaces the default. A file
that cannot be used is refused even where a root is given. -/
def resolve (root : Option String) (file : Option (Except Problem Settings)) :
    Except Problem Settings := do
  let base ← file.getD (.ok {})
  let s := match root with
    | some r => { base with apiRoot := Text.trim r }
    | none => base
  s.validate
  return s

end FaultConsole.Settings
