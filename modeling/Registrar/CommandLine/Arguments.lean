import Registrar.Decimal.Text

/-!
The arguments of the program: options with values, flags, and a command. An option waits for its value,
and the value is looked at when the next option comes or the arguments end.
-/

namespace Registrar.CommandLine

inductive Command where
  | run
  | check
  | migrate
deriving DecidableEq, Repr

namespace Command

def name : Command → String
  | .run => "run"
  | .check => "check"
  | .migrate => "migrate"

def all : List Command :=
  [.run, .check, .migrate]

def ofName? (name : String) : Option Command :=
  all.find? (·.name = name)

end Command

/-- Why the arguments do not say what to do. Asking for help or for the version is one of the reasons. -/
inductive UsageFault where
  | unknownArgument
  | invalidCommand
  | missingValue
  | invalidValue
  | surplusValue
  | repeated
  | help
  | version
deriving DecidableEq, Repr

inductive ValueOption where
  | config
  | port
deriving DecidableEq, Repr

inductive Flag where
  | printConfig
  | verbose
  | help
  | version
deriving DecidableEq, Repr

structure Invocation where
  config : Option String
  port : Option UInt16
  printConfig : Bool
  /-- How often more output was asked for, at most 255 times. -/
  verbosity : Nat
  command : Option Command
deriving DecidableEq, Repr

namespace Invocation

def empty : Invocation :=
  ⟨none, none, false, 0, none⟩

def readPort (text : String) : Except UsageFault UInt16 :=
  match readInteger? text.toList with
  | some number => if 0 ≤ number ∧ number < Nat.pow 2 16 then .ok (.ofNat number.toNat) else .error .invalidValue
  | none => .error .invalidValue

def set (invocation : Invocation) (option : ValueOption) (text : String) : Except UsageFault Invocation :=
  match option with
  | .config =>
    if invocation.config.isSome then .error .repeated
    else if text.isEmpty then .error .missingValue
    else .ok { invocation with config := some text }
  | .port =>
    if invocation.port.isSome then .error .repeated
    else (readPort text).map fun port => { invocation with port := some port }

def raise (invocation : Invocation) : Flag → Except UsageFault Invocation
  | .printConfig =>
    if invocation.printConfig then .error .repeated else .ok { invocation with printConfig := true }
  | .verbose => .ok { invocation with verbosity := min 255 (invocation.verbosity + 1) }
  | .help => .error .help
  | .version => .error .version

end Invocation

def longOptions : List (String × (ValueOption ⊕ Flag)) :=
  [("config", .inl .config), ("port", .inl .port), ("print-config", .inr .printConfig),
    ("verbose", .inr .verbose), ("help", .inr .help), ("version", .inr .version)]

def shortOptions : List (Char × (ValueOption ⊕ Flag)) :=
  [('c', .inl .config), ('p', .inl .port), ('v', .inr .verbose), ('h', .inr .help), ('V', .inr .version)]

/-- What has been read: settled options, and one whose value is still to come or to be looked at. -/
structure Reading where
  settled : Invocation
  waiting : Option (ValueOption × Option String)
deriving DecidableEq, Repr

namespace Reading

def settle (reading : Reading) : Except UsageFault Invocation :=
  match reading.waiting with
  | none => .ok reading.settled
  | some (_, none) => .error .missingValue
  | some (option, some text) => reading.settled.set option text

def expectsValue (reading : Reading) : Bool :=
  match reading.waiting with
  | some (_, none) => true
  | _ => false

def takeOption (reading : Reading) (option : ValueOption) (attached : Option String) :
    Except UsageFault Reading := do
  let settled ← reading.settle
  match attached with
  | some text => return ⟨← settled.set option text, none⟩
  | none => return ⟨settled, some (option, none)⟩

def takeFlag (reading : Reading) (flag : Flag) : Except UsageFault Reading := do
  return ⟨← (← reading.settle).raise flag, none⟩

def takeLong (reading : Reading) (text : List Char) : Except UsageFault Reading :=
  let name := String.ofList (text.takeWhile (· ≠ '='))
  let attached :=
    match text.dropWhile (· ≠ '=') with
    | [] => none
    | _ :: rest => some (String.ofList rest)
  match longOptions.lookup name, attached with
  | some (.inl option), attached => reading.takeOption option attached
  | some (.inr flag), none => reading.takeFlag flag
  | some (.inr _), some _ => .error .surplusValue
  | none, _ => .error .unknownArgument

/-- Reads the letters after a single dash. Those after an option are its value, an equals sign in front of it left out. -/
def takeShort (reading : Reading) : List Char → Except UsageFault Reading
  | [] => .ok reading
  | letter :: rest =>
    match shortOptions.lookup letter with
    | some (.inl option) =>
      match rest with
      | [] => reading.takeOption option none
      | '=' :: value => reading.takeOption option (some (String.ofList value))
      | value => reading.takeOption option (some (String.ofList value))
    | some (.inr flag) => do (← reading.takeFlag flag).takeShort rest
    | none => .error .unknownArgument

end Reading

/-- The arguments after a command: nothing but help may be asked for. -/
def readAfterCommand : List String → Except UsageFault Unit
  | [] => .ok ()
  | argument :: rest =>
    match argument.toList with
    | ['-', '-'] => if rest.isEmpty then .ok () else .error .unknownArgument
    | '-' :: '-' :: text =>
      if text = "help".toList then .error .help
      else if text.take 5 = "help=".toList then .error .surplusValue
      else .error .unknownArgument
    | '-' :: 'h' :: _ => .error .help
    | _ => .error .unknownArgument

def readAfterHelp (arguments : List String) : UsageFault :=
  match arguments with
  | [] => .help
  | [name] => if name = "help" ∨ (Command.ofName? name).isSome then .help else .invalidCommand
  | _ => .invalidCommand

def readCommand (reading : Reading) (name : String) (rest : List String) :
    Except UsageFault Invocation :=
  if name = "help" then .error (readAfterHelp rest)
  else
    match Command.ofName? name with
    | none => .error .invalidCommand
    | some command => do
      readAfterCommand rest
      return { ← reading.settle with command := some command }

def readTrailing (reading : Reading) : List String → Except UsageFault Invocation
  | [] => reading.settle
  | name :: _ =>
    .error (if name = "help" ∨ (Command.ofName? name).isSome then .unknownArgument else .invalidCommand)

def readFrom (reading : Reading) : List String → Except UsageFault Invocation
  | [] => reading.settle
  | argument :: rest =>
    match argument.toList with
    | ['-', '-'] => readTrailing reading rest
    | '-' :: '-' :: text => do readFrom (← reading.takeLong text) rest
    | '-' :: letter :: letters => do readFrom (← reading.takeShort (letter :: letters)) rest
    | _ =>
      match reading.waiting with
      | some (option, none) => readFrom { reading with waiting := some (option, some argument) } rest
      | _ => readCommand reading argument rest

def parse (arguments : List String) : Except UsageFault Invocation :=
  readFrom ⟨.empty, none⟩ arguments

end Registrar.CommandLine
