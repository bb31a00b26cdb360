import MessageServer.CommandLine.Integer
import MessageServer.CommandLine.Options
import MessageServer.Text.Plain

/-!
# Arguments

What the arguments of the program ask for.  Arguments are read from the left.  A setting takes its
value from behind an equals sign or from the argument that follows, and it is looked at only when
the next option begins or the arguments end: the fault of an argument that is no option at all comes
before that of a setting in front of it.  Help and version are answered as soon as they are reached.
-/

namespace MessageServer.CommandLine

/-- Why arguments are refused. -/
inductive UsageError where
  | missingValue (setting : Setting)
  | invalidValue (setting : Setting) (value reason : String)
  | repeatedSetting (setting : Setting)
  | repeatedSwitch (switch : Switch)
  | unexpectedArgument (text : String)
  | unexpectedValue (switch : Switch) (value : String)
  deriving DecidableEq, Repr

namespace UsageError

/-- What is wrong.  Arguments are shown as plain text, so that they cannot control a terminal. -/
def message : UsageError → String
  | missingValue s => s!"a value is required for '{s.usage}' but none was supplied"
  | invalidValue s value reason =>
    s!"invalid value '{Text.plain value}' for '{s.usage}': {reason}"
  | repeatedSetting s => s!"the argument '{s.usage}' cannot be used multiple times"
  | repeatedSwitch s => s!"the argument '{s.usage}' cannot be used multiple times"
  | unexpectedArgument text => s!"unexpected argument '{Text.plain text}' found"
  | unexpectedValue s value =>
    s!"unexpected value '{Text.plain value}' for '{s.usage}' found; no more were expected"

end UsageError

/-! ## Single arguments -/

/-- What an argument is by itself. -/
inductive Argument where
  /-- Two dashes: no options follow. -/
  | separator
  | setting (s : Setting) (value : Option String)
  | switch (s : Switch) (value : Option String)
  /-- It begins like an option that does not exist; the text names that option. -/
  | unknown (text : String)
  | plain (text : String)
  deriving DecidableEq, Repr

namespace Argument

/-- The argument with these characters behind two dashes. -/
def ofLong (cs : List Char) : Argument :=
  let name := String.ofList (cs.takeWhile (· != '='))
  let value :=
    match cs.dropWhile (· != '=') with
    | [] => none
    | _ :: rest => some (String.ofList rest)
  match Setting.all.find? (·.long == name), Switch.all.find? (·.long == name) with
  | some s, _ => .setting s value
  | none, some s => .switch s value
  | none, none => .unknown s!"--{name}"

/-- What is written behind the letter of a setting, an equals sign left out. -/
def attached? : List Char → Option String
  | [] => none
  | '=' :: cs => some (String.ofList cs)
  | cs => some (String.ofList cs)

/-- The argument with this letter and these characters behind one dash. -/
def ofLetter (c : Char) (cs : List Char) : Argument :=
  match Setting.all.find? (·.letter? == some c), Switch.all.find? (·.letter? == some c) with
  | some s, _ => .setting s (attached? cs)
  | none, some s => .switch s none
  | none, none => .unknown s!"-{c}"

/-- What a text is. -/
def ofText (text : String) : Argument :=
  match text.toList with
  | ['-', '-'] => .separator
  | '-' :: '-' :: cs => ofLong cs
  | '-' :: c :: cs => ofLetter c cs
  | _ => .plain text

end Argument

/-! ## All arguments -/

/-- What the program is asked for. -/
inductive Invocation where
  | serve (config : Config)
  | help
  | version
  deriving DecidableEq

/-- A count in a word with 64 bits. -/
def word (value : String) : Except String UInt64 :=
  match unsigned (UInt64.size - 1) value with
  | .ok n => .ok (UInt64.ofNat n)
  | .error e => .error e.message

/-- A port.  It is read as a signed word, so that a negative one is out of range and no fault of
spelling. -/
def portNumber (value : String) : Except String UInt16 :=
  match signed (UInt64.size / 2 - 1) value with
  | .error e => .error e.message
  | .ok n =>
    if 0 ≤ n ∧ n ≤ 65535 then .ok (UInt16.ofNat n.toNat)
    else .error s!"{n} is not in 0..=65535"

/-- The configuration with a setting set to a value. -/
def configure (c : Config) (value : String) : Setting → Except String Config
  | .ip =>
    match IpAddress.read value with
    | .ok ip => .ok { c with bindAddress := ip }
    | .error e => .error e.message
  | .port => (portNumber value).map fun port => { c with port }
  | .threads => (word value).map fun workers => { c with workers }
  | .poolSize => (word value).map fun poolSize => { c with poolSize }
  | .maxConnections => (word value).map fun maxConnections => { c with maxConnections }
  | .statsInterval => (word value).map fun (ms : UInt64) =>
    { c with statsInterval := if ms = 0 then none else some (ms.toNat * Config.millisecond) }

/-- Arguments read so far: the configuration they give, the options that were given, and the setting
that is still to be looked at, with its value if it has one. -/
structure Reading where
  config : Config
  settings : List Setting
  switches : List Switch
  pending : Option (Setting × Option String)

namespace Reading

def start : Reading :=
  ⟨Config.default, [], [], none⟩

/-- Sets a setting, which may be given once. -/
def assign (r : Reading) (s : Setting) (value : String) : Except UsageError Reading :=
  if s ∈ r.settings then .error (.repeatedSetting s)
  else
    match configure r.config value s with
    | .ok config => .ok { r with config, settings := s :: r.settings }
    | .error reason => .error (.invalidValue s value reason)

/-- Looks at the setting that is still to be looked at. -/
def settle (r : Reading) : Except UsageError Reading :=
  match r.pending with
  | none => .ok r
  | some (s, none) => .error (.missingValue s)
  | some (s, some value) => { r with pending := none }.assign s value

/-- A switch without a value; help and version end the reading. -/
def press (r : Reading) : Switch → Except UsageError (Invocation ⊕ Reading)
  | .help => .ok (.inl .help)
  | .version => .ok (.inl .version)
  | .pinWorkers =>
    if .pinWorkers ∈ r.switches then .error (.repeatedSwitch .pinWorkers)
    else
      .ok (.inr { r with
        config := { r.config with pinWorkers := true }
        switches := .pinWorkers :: r.switches })

/-- One argument in front of the separator. -/
def next (r : Reading) : Argument → Except UsageError (Invocation ⊕ Reading)
  | .separator => .ok (.inr r)
  | .unknown text => .error (.unexpectedArgument text)
  | .plain text =>
    match r.pending with
    | some (s, none) => .ok (.inr { r with pending := some (s, some text) })
    | _ => .error (.unexpectedArgument text)
  | .switch s (some value) => .error (.unexpectedValue s value)
  | .switch s none => do
    let r ← r.settle
    r.press s
  | .setting s none => do
    let r ← r.settle
    return .inr { r with pending := some (s, none) }
  | .setting s (some value) => do
    let r ← r.settle
    let r ← r.assign s value
    return .inr r

/-- What is asked for, where no arguments are left. -/
def finish (r : Reading) : Except UsageError Invocation := do
  let r ← r.settle
  return .serve r.config

/-- Reads what is left of the arguments. -/
def readAll (r : Reading) : List String → Except UsageError Invocation
  | [] => r.finish
  | text :: texts =>
    match Argument.ofText text, texts with
    | .separator, [] => r.finish
    | .separator, text :: _ => .error (.unexpectedArgument text)
    | argument, _ =>
      match r.next argument with
      | .error e => .error e
      | .ok (.inl invocation) => .ok invocation
      | .ok (.inr r) => r.readAll texts

end Reading

/-- What the arguments ask for. -/
def invocation (arguments : List String) : Except UsageError Invocation :=
  Reading.start.readAll arguments

end MessageServer.CommandLine
