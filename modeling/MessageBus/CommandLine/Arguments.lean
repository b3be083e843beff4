import MessageBus.Text.Numeral

namespace MessageBus
namespace CommandLine

open Text

/-!
# Arguments

What an operator writes behind the program's name.  An option is written with two
hyphens and its name, and most have a letter, too.  A value stands behind an equals
sign, directly behind the letter, or in the argument that follows, unless that one
looks like an option.

The value in a following argument is looked at only when the next known option or
the end is reached.  An argument that nobody expected is therefore reported before
a wrong value in front of it.
-/

/-- Options with a value. -/
inductive Parameter where
  | config
  | address
  | port
  | logLevel
deriving DecidableEq, Repr

namespace Parameter

def all : List Parameter := [.config, .address, .port, .logLevel]

def name : Parameter -> String
  | .config => "config"
  | .address => "addr"
  | .port => "port"
  | .logLevel => "log-level"

def letter : Parameter -> Char
  | .config => 'c'
  | .address => 'a'
  | .port => 'p'
  | .logLevel => 'l'

def usage : Parameter -> String
  | .config => "--config <CONFIG>"
  | .address => "--addr <ADDR>"
  | .port => "--port <PORT>"
  | .logLevel => "--log-level <LOG_LEVEL>"

def purpose : Parameter -> String
  | .config => "Path to configuration file"
  | .address => "Listen address (overrides transport.address)"
  | .port => "Listen port (overrides transport.port)"
  | .logLevel => "Log level (trace, debug, info, warn, error) [default: info]"

end Parameter

/-- Options without a value. -/
inductive Switch where
  | timecode
  | disableTiming
  | jsonLogs
  | help
  | version
deriving DecidableEq, Repr

namespace Switch

def all : List Switch := [.timecode, .disableTiming, .jsonLogs, .help, .version]

def name : Switch -> String
  | .timecode => "timecode"
  | .disableTiming => "disable-timing"
  | .jsonLogs => "json-logs"
  | .help => "help"
  | .version => "version"

def letter? : Switch -> Option Char
  | .help => some 'h'
  | .version => some 'V'
  | .timecode | .disableTiming | .jsonLogs => none

def usage (switch : Switch) : String :=
  "--" ++ switch.name

def purpose : Switch -> String
  | .timecode => "Use the 56-byte timecode header variant"
  | .disableTiming => "Disable sending of TIMING_MESSAGE"
  | .jsonLogs => "Enable JSON logging format"
  | .help => "Print help"
  | .version => "Print version"

end Switch

/-- What is wrong with a command line. -/
inductive UsageError where
  /-- No such option, or an argument that belongs to none. -/
  | unexpected (argument : String)
  | missingValue (parameter : Parameter)
  | invalidValue (parameter : Parameter) (value cause : String)
  /-- A value for an option that takes none. -/
  | surplusValue (switch : Switch) (value : String)
  | repeated (usage : String)
deriving DecidableEq, Repr

namespace UsageError

def message : UsageError -> String
  | .unexpected argument => s!"unexpected argument '{argument}' found"
  | .missingValue parameter =>
      s!"a value is required for '{parameter.usage}' but none was supplied"
  | .invalidValue parameter value cause =>
      s!"invalid value '{value}' for '{parameter.usage}': {cause}"
  | .surplusValue switch value =>
      s!"unexpected value '{value}' for '{switch.usage}' found; no more were expected"
  | .repeated usage => s!"the argument '{usage}' cannot be used multiple times"

end UsageError

structure Arguments where
  config : Option String := none
  address : Option String := none
  port : Option UInt16 := none
  logLevel : Option String := none
  switches : List Switch := []
deriving DecidableEq, Repr

/-! ## Values -/

/-- The absolute value of a numeral, up to a limit. -/
def magnitude (limit : Nat) (overflow : String) : (value : Nat) -> List Char -> Except String Nat
  | value, [] => .ok value
  | value, character :: rest =>
      match digitValue? 10 character with
      | none => .error "invalid digit found in string"
      | some digit =>
          let value := 10 * value + digit
          if limit < value then .error overflow else magnitude limit overflow value rest

/-- A number of 64 bits, with or without a sign. -/
def integer (text : String) : Except String Int :=
  let large := magnitude 0x7FFFFFFFFFFFFFFF "number too large to fit in target type" 0
  let small := magnitude 0x8000000000000000 "number too small to fit in target type" 0
  match text.toList with
  | [] => .error "cannot parse integer from empty string"
  | ['+'] | ['-'] => .error "invalid digit found in string"
  | '-' :: digits => (small digits).map fun value => -(Int.ofNat value)
  | '+' :: digits => (large digits).map Int.ofNat
  | digits => (large digits).map Int.ofNat

/-- A port, or what is wrong with the text of one. -/
def portOfText (text : String) : Except UsageError UInt16 :=
  match integer text with
  | .error cause => .error (.invalidValue .port text cause)
  | .ok value =>
      if 0 <= value && value <= 65535 then .ok (UInt16.ofNat value.toNat)
      else .error (.invalidValue .port (toString value) s!"{value} is not in 0..=65535")

namespace Arguments

def has (arguments : Arguments) : Parameter -> Bool
  | .config => arguments.config.isSome
  | .address => arguments.address.isSome
  | .port => arguments.port.isSome
  | .logLevel => arguments.logLevel.isSome

/-- Give a parameter its value. -/
def store (arguments : Arguments) (parameter : Parameter) (value : String) :
    Except UsageError Arguments :=
  if arguments.has parameter then .error (.repeated parameter.usage)
  else match parameter with
  | .config => .ok { arguments with config := some value }
  | .address => .ok { arguments with address := some value }
  | .logLevel => .ok { arguments with logLevel := some value }
  | .port => (portOfText value).map fun port => { arguments with port := some port }

def turnOn (arguments : Arguments) (switch : Switch) : Except UsageError Arguments :=
  if arguments.switches.contains switch then .error (.repeated switch.usage)
  else .ok { arguments with switches := switch :: arguments.switches }

end Arguments

/-! ## Reading them -/

/-- What an argument looks like. -/
inductive Word where
  /-- Two hyphens: nothing behind them is an option. -/
  | separator
  | long (name : String) (value : Option String)
  | short (letter : Char) (rest : List Char)
  | plain (text : String)
deriving DecidableEq, Repr

def Word.ofText (text : String) : Word :=
  match text.toList with
  | ['-', '-'] => .separator
  | '-' :: '-' :: rest =>
      let name := String.ofList (rest.takeWhile (· ≠ '='))
      match rest.dropWhile (· ≠ '=') with
      | [] => .long name none
      | _ :: value => .long name (some (String.ofList value))
  | '-' :: letter :: rest => .short letter rest
  | _ => .plain text

/-- What a command line asks for. -/
inductive Invocation where
  | serve (arguments : Arguments)
  | help
  | version
deriving DecidableEq, Repr

/-- How far the arguments were read: what they have said, and the parameter whose
value was not looked at, with the value if there was one. -/
structure Reading where
  arguments : Arguments := {}
  pending : Option (Parameter × Option String) := none
deriving DecidableEq, Repr

namespace Reading

/-- What was said, including the value that was not looked at. -/
def settle (reading : Reading) : Except UsageError Arguments :=
  match reading.pending with
  | none => .ok reading.arguments
  | some (parameter, none) => .error (.missingValue parameter)
  | some (parameter, some value) => reading.arguments.store parameter value

/-- Take a parameter, with its value if it is attached. -/
def parameter (reading : Reading) (parameter : Parameter) (attached : Option String) :
    Except UsageError Reading := do
  let arguments ← reading.settle
  match attached with
  | none => return { arguments, pending := some (parameter, none) }
  | some value => return { arguments := ← arguments.store parameter value }

/-- Take a switch, which may be all that is asked for. -/
def switch (reading : Reading) (switch : Switch) : Except UsageError (Invocation ⊕ Reading) := do
  let arguments ← reading.settle
  match switch with
  | .help => return .inl .help
  | .version => return .inl .version
  | .timecode | .disableTiming | .jsonLogs =>
      return .inr { arguments := ← arguments.turnOn switch }

/-- Take one argument. -/
def take (reading : Reading) (word : Word) : Except UsageError (Invocation ⊕ Reading) :=
  match word with
  | .separator => .ok (.inr reading)
  | .plain text =>
      match reading.pending with
      | some (parameter, none) =>
          .ok (.inr { reading with pending := some (parameter, some text) })
      | _ => .error (.unexpected text)
  | .long name value =>
      match Parameter.all.find? (·.name = name), Switch.all.find? (·.name = name), value with
      | some parameter, _, _ => (reading.parameter parameter value).map .inr
      | none, some switch, none => reading.switch switch
      | none, some switch, some value => .error (.surplusValue switch value)
      | none, none, _ => .error (.unexpected ("--" ++ name))
  | .short letter rest =>
      match Parameter.all.find? (·.letter = letter),
        Switch.all.find? (·.letter? = some letter) with
      | some parameter, _ =>
          let attached := match rest with
            | [] => none
            | '=' :: value => some value
            | value => some value
          (reading.parameter parameter (attached.map String.ofList)).map .inr
      | none, some switch => reading.switch switch
      | none, none => .error (.unexpected (String.ofList ['-', letter]))

/-- Take all arguments. -/
def takeAll (reading : Reading) : List String -> Except UsageError Invocation
  | [] => reading.settle.map .serve
  | argument :: rest =>
      match Word.ofText argument, rest with
      | .separator, surplus :: _ => .error (.unexpected surplus)
      | word, _ =>
          match reading.take word with
          | .error error => .error error
          | .ok (.inl invocation) => .ok invocation
          | .ok (.inr reading) => reading.takeAll rest

end Reading

/-- What the arguments ask for. -/
def Invocation.ofArguments (arguments : List String) : Except UsageError Invocation :=
  ({} : Reading).takeAll arguments

end CommandLine
end MessageBus
