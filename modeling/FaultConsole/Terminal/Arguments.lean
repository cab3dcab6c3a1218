/-!
# The arguments of the command line

The command line has places: the program itself, its two groups of commands, and the commands.
Each place has options, some take an id, and the first argument that names a command leads to
that command's place. Options for the whole program may stand at any place.

Arguments are read from left to right. An option without `=` takes the next argument as its
value, unless that looks like an option; its value is looked at when the next option or id is
met, or at the end, and the places further in are read before that. After `--` nothing is an
option or a command any more.
-/

namespace FaultConsole.Terminal

/-! ## Places and options -/

/-- A place of the command line. -/
inductive Place where
  | program
  | serve
  | experiments
  | listExperiments
  | showExperiment
  | createExperiment
  | executeExperiment
  | stopExperiment
  | deleteExperiment
  | targets
  | listTargets
  | showTarget
  | createTarget
  | deleteTarget
  | summary
deriving Repr, DecidableEq, Inhabited

/-- What an option takes. -/
inductive OptionKind where
  | switch
  | help
  | version
  | text
  /-- The path of a file, which may not be empty. -/
  | path
  /-- A whole number up to a limit. -/
  | number (limit : Nat)
deriving Repr, DecidableEq

/-- An option. -/
structure OptionSpec where
  long : String
  short : Option Char := none
  kind : OptionKind
  /-- What stands for its value in messages. -/
  placeholder : String := ""
deriving Repr, DecidableEq

namespace OptionSpec

/-- Whether an option takes a value. -/
def takesValue (o : OptionSpec) : Bool :=
  match o.kind with
  | .switch | .help | .version => false
  | .text | .path | .number _ => true

/-- An option as messages show it. -/
def shown (o : OptionSpec) : String :=
  "--" ++ o.long ++ if o.takesValue then " <" ++ o.placeholder ++ ">" else ""

end OptionSpec

/-- The options that may stand at any place. -/
def globalOptions : List OptionSpec :=
  [{ long := "api-root", kind := .text, placeholder := "API_ROOT" },
    { long := "config", kind := .path, placeholder := "CONFIG" },
    { long := "help", short := some 'h', kind := .help }]

/-- The confirmation ahead of time. -/
def yesOption : OptionSpec := { long := "yes", short := some 'y', kind := .switch }

namespace Place

/-- The commands of a place. -/
def commands : Place → List (String × Place)
  | program =>
    [("serve", serve), ("experiments", experiments), ("targets", targets), ("summary", summary)]
  | experiments =>
    [("list", listExperiments), ("show", showExperiment), ("create", createExperiment),
      ("execute", executeExperiment), ("stop", stopExperiment), ("delete", deleteExperiment)]
  | targets =>
    [("list", listTargets), ("show", showTarget), ("create", createTarget),
      ("delete", deleteTarget)]
  | _ => []

/-- Whether a place has commands. -/
def isGroup (p : Place) : Bool := !p.commands.isEmpty

/-- The name of a place with commands. -/
def groupName : Place → String
  | experiments => "chaosdash experiments"
  | targets => "chaosdash targets"
  | _ => "chaosdash"

/-- What a place with commands is for. -/
def about : Place → String
  | experiments => "Manage experiments"
  | targets => "Manage targets"
  | _ => "🔥 chaosdash: dashboard and CLI for chaos experiments"

/-- Whether a command takes an id. -/
def takesId : Place → Bool
  | showExperiment | executeExperiment | stopExperiment | deleteExperiment | showTarget
  | deleteTarget => true
  | _ => false

/-- The options of a place alone. -/
def ownOptions : Place → List OptionSpec
  | program => [{ long := "version", short := some 'V', kind := .version }]
  | serve =>
    [{ long := "host", kind := .text, placeholder := "HOST" },
      { long := "port", short := some 'p', kind := .number 65535, placeholder := "PORT" }]
  | listExperiments => [{ long := "recent", kind := .switch }]
  | createExperiment =>
    [{ long := "name", kind := .text, placeholder := "NAME" },
      { long := "description", kind := .text, placeholder := "DESCRIPTION" },
      { long := "type", kind := .text, placeholder := "KIND" },
      { long := "target", kind := .text, placeholder := "TARGET" },
      { long := "duration", kind := .text, placeholder := "DURATION" },
      { long := "endpoint", kind := .text, placeholder := "ENDPOINT" },
      { long := "auth-token", kind := .text, placeholder := "AUTH_TOKEN" },
      { long := "cleanup-endpoint", kind := .text, placeholder := "CLEANUP_ENDPOINT" },
      { long := "namespace", kind := .text, placeholder := "NAMESPACE" },
      { long := "percentage", kind := .number 255, placeholder := "PERCENTAGE" }]
  | createTarget =>
    [{ long := "name", kind := .text, placeholder := "NAME" },
      { long := "description", kind := .text, placeholder := "DESCRIPTION" },
      { long := "type", kind := .text, placeholder := "KIND" },
      { long := "namespace", kind := .text, placeholder := "NAMESPACE" },
      { long := "selector", kind := .text, placeholder := "SELECTOR" }]
  | deleteExperiment | deleteTarget => [yesOption]
  | _ => []

/-- The options of a place. -/
def options (p : Place) : List OptionSpec := p.ownOptions ++ globalOptions

end Place

/-! ## Faults -/

/-- Why a text is no number. -/
inductive NumberFault where
  | empty
  | notADigit
  | tooLarge
  | tooSmall
  | outOfRange (n : Int) (limit : Nat)
deriving Repr, DecidableEq

/-- The words for a fault of a number. -/
def NumberFault.message : NumberFault → String
  | empty => "cannot parse integer from empty string"
  | notADigit => "invalid digit found in string"
  | tooLarge => "number too large to fit in target type"
  | tooSmall => "number too small to fit in target type"
  | outOfRange n limit => toString n ++ " is not in 0..=" ++ toString limit

/-- Why reading arguments stops. -/
inductive Stop where
  | unknownArgument (shown : String)
  | unknownCommand (name : String)
  | valueMissing (option : OptionSpec)
  | repeated (option : OptionSpec)
  | unneededValue (value : String) (option : OptionSpec)
  | badNumber (value : String) (option : OptionSpec) (fault : NumberFault)
  | idMissing
  | commandMissing (place : Place)
  /-- Nothing was asked for: what the place is for is said instead. -/
  | nothingAsked (place : Place)
  | helpAsked (place : Place)
  | versionAsked
deriving Repr, DecidableEq

/-- The words for a stop. -/
def Stop.message : Stop → String
  | unknownArgument shown => "error: unexpected argument '" ++ shown ++ "' found"
  | unknownCommand name => "error: unrecognized subcommand '" ++ name ++ "'"
  | valueMissing o =>
    "error: a value is required for '" ++ o.shown ++ "' but none was supplied"
  | repeated o => "error: the argument '" ++ o.shown ++ "' cannot be used multiple times"
  | unneededValue value o =>
    "error: unexpected value '" ++ value ++ "' for '" ++ o.shown ++
      "' found; no more were expected"
  | badNumber value o fault =>
    "error: invalid value '" ++ value ++ "' for '" ++ o.shown ++ "': " ++ fault.message
  | idMissing => "error: the following required arguments were not provided:"
  | commandMissing place =>
    "error: '" ++ place.groupName ++ "' requires a subcommand but one was not provided"
  | nothingAsked place | helpAsked place => place.about
  | versionAsked => "chaosdash 0.2.0"

/-! ## Values -/

/-- The value of an option. -/
inductive OptionValue where
  | on
  | text (text : String)
  | number (n : Nat)
deriving Repr, DecidableEq

/-- A number of 63 bits and a sign. The first digit that is none, or that makes the number too
large, is reported. -/
def integer (s : String) : Except NumberFault Int :=
  let digits (limit : Nat) (overflow : NumberFault) (ds : List Char) : Except NumberFault Nat :=
    if ds.isEmpty then .error .notADigit
    else ds.foldlM (fun n c =>
      if !c.isDigit then .error .notADigit
      else
        let n := n * 10 + (c.toNat - 48)
        if limit < n then .error overflow else .ok n) 0
  match s.toList with
  | [] => .error .empty
  | '-' :: ds => (fun n => -(n : Int)) <$> digits (Nat.pow 2 63) .tooSmall ds
  | '+' :: ds => (fun n => (n : Int)) <$> digits (Nat.pow 2 63 - 1) .tooLarge ds
  | ds => (fun n => (n : Int)) <$> digits (Nat.pow 2 63 - 1) .tooLarge ds

/-- A number up to a limit. -/
def natural (limit : Nat) (s : String) : Except NumberFault Nat := do
  let n ← integer s
  if 0 ≤ n ∧ n ≤ limit then return n.toNat else throw (.outOfRange n limit)

/-- The value of an option that is written with a text. -/
def OptionSpec.read (o : OptionSpec) (s : String) : Except Stop OptionValue :=
  match o.kind with
  | .number limit =>
    match natural limit s with
    | .ok n => .ok (.number n)
    | .error fault => .error (.badNumber s o fault)
  | .path => if s.isEmpty then .error (.valueMissing o) else .ok (.text s)
  | _ => .ok (.text s)

/-! ## Reading a place -/

/-- What has been read at a place. -/
structure Reading where
  /-- Options by their long names. -/
  values : List (String × OptionValue) := []
  id : Option String := none
  /-- An option whose value has not been looked at, and the value if it has come. -/
  waiting : Option (OptionSpec × Option String) := none
  /-- Whether `--` has come. -/
  plainOnly : Bool := false
deriving Repr

namespace Reading

/-- Sets an option, once. -/
def set (o : OptionSpec) (value : Except Stop OptionValue) (r : Reading) : Except Stop Reading :=
  if (r.values.lookup o.long).isSome then .error (.repeated o)
  else value.map fun v => { r with values := (o.long, v) :: r.values }

/-- Looks at the value that waits. -/
def settle (r : Reading) : Except Stop Reading :=
  match r.waiting with
  | none => .ok r
  | some (o, none) => .error (.valueMissing o)
  | some (o, some s) => { r with waiting := none }.set o (o.read s)

/-- Meets an option, with the value that is attached to it. -/
def meet (p : Place) (o : OptionSpec) (attached : Option String) (r : Reading) :
    Except Stop Reading := do
  if o.takesValue then
    let r ← r.settle
    match attached with
    | some s => r.set o (o.read s)
    | none => return { r with waiting := some (o, none) }
  else
    if let some s := attached then throw (.unneededValue s o)
    let r ← r.settle
    match o.kind with
    | .help => throw (.helpAsked p)
    | .version => throw .versionAsked
    | _ => r.set o (.ok .on)

/-- Meets short options that are written together; the rest of one that takes a value is its
value. -/
def meetShort (p : Place) : List Char → Reading → Except Stop Reading
  | [], r => .ok r
  | c :: rest, r =>
    match p.options.find? (·.short == some c) with
    | none => .error (.unknownArgument (String.ofList ['-', c]))
    | some o =>
      if o.takesValue then
        let attached := match rest with
          | [] => none
          | '=' :: value => some (String.ofList value)
          | value => some (String.ofList value)
        r.meet p o attached
      else do
        let r ← r.meet p o none
        meetShort p rest r

/-- Meets a long option, after its dashes. -/
def meetLong (p : Place) (cs : List Char) (r : Reading) : Except Stop Reading :=
  let name := cs.takeWhile (· != '=')
  let attached := match cs.drop name.length with
    | _ :: value => some (String.ofList value)
    | [] => none
  match p.options.find? (·.long.toList == name) with
  | some o => r.meet p o attached
  | none => .error (.unknownArgument (String.ofList ('-' :: '-' :: name)))

/-- Meets an argument that is neither an option nor a command. -/
def meetPlain (p : Place) (s : String) (r : Reading) : Except Stop Reading :=
  if p.takesId && r.id.isNone then do
    let r ← r.settle
    return { r with id := some s }
  else if p.isGroup then
    if r.plainOnly && (s == "help" || (p.commands.lookup s).isSome) then
      .error (.unknownArgument s)
    else .error (.unknownCommand s)
  else .error (.unknownArgument s)

/-- Meets an argument that may be an option or the value of one. -/
def meetAny (p : Place) (s : String) (r : Reading) : Except Stop Reading :=
  match s.toList with
  | ['-', '-'] => .ok { r with plainOnly := true }
  | '-' :: '-' :: cs => r.meetLong p cs
  | '-' :: c :: cs => r.meetShort p (c :: cs)
  | _ =>
    match r.waiting with
    | some (o, none) => .ok { r with waiting := some (o, some s) }
    | _ => r.meetPlain p s

/-- Whether the next argument is the value of an option. -/
def awaitsValue (r : Reading) : Bool :=
  match r.waiting with
  | some (_, none) => true
  | _ => false

/-- Checks that a place without a command after it has all that it needs. `preset` says whether
an option is set from outside. -/
def check (p : Place) (preset : Bool) (r : Reading) : Except Stop Reading := do
  let r ← r.settle
  if p.isGroup then
    if r.values.isEmpty && !preset then throw (.nothingAsked p) else throw (.commandMissing p)
  if p.takesId && r.id.isNone then throw .idMissing
  return r

end Reading

/-- The place that names lead to, for which help is asked. -/
def helpFor (p : Place) : List String → Stop
  | [] => .helpAsked p
  | name :: rest =>
    match p.commands.lookup name with
    | some next => helpFor next rest
    | none =>
      if p.isGroup && name == "help" then .helpAsked p else .unknownCommand name

/-- Reads arguments at a place: what was read there, and at the places further in. -/
def readArguments (preset : Bool) (p : Place) (r : Reading) :
    List String → Except Stop (List (Place × Reading))
  | [] => do
    let r ← r.check p preset
    return [(p, r)]
  | s :: rest =>
    if r.plainOnly then do
      let r ← r.meetPlain p s
      readArguments preset p r rest
    else if p.isGroup && !r.awaitsValue && s == "help" then .error (helpFor p rest)
    else
      match if r.awaitsValue then none else p.commands.lookup s with
      | some next => do
        let further ← readArguments preset next {} rest
        let r ← r.settle
        return (p, r) :: further
      | none => do
        let r ← r.meetAny p s
        readArguments preset p r rest

end FaultConsole.Terminal
