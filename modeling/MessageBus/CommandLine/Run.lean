import MessageBus.CommandLine.Arguments
import MessageBus.CommandLine.LogFilter
import MessageBus.Config.Document

namespace MessageBus
namespace CommandLine

/-!
# From the command line to a listening manager

What comes before the manager serves anybody: the arguments are read, the
configuration is loaded and what the arguments say about it is put over it, and the
address is listened at.  Each of these can be the end.  The log says how far the
program has come, as far as the log is to be shown, and the reason for the end is
reported apart from it.

What the arguments override is never what a configuration is refused for, so a
configuration needs to be checked only when it is loaded.
-/

def programName : String := "message_manager"

def programVersion : String := "0.1.0"

/-- Why the manager cannot start. -/
inductive StartFailure where
  | loading (path : String) (cause : ConfigError)
  | binding (address : String)
deriving DecidableEq, Repr

namespace StartFailure

/-- What the failure is about, in one line. -/
def summary : StartFailure -> String
  | .loading path _ => s!"loading configuration from {path}"
  | .binding address => (StartupError.bind address).message

end StartFailure

/-- A line of the log. -/
structure LogLine where
  level : LogLevel
  text : String
deriving DecidableEq, Repr

namespace LogLine

def levelName : LogLevel -> String
  | .debug => "DEBUG"
  | .info => "INFO"
  | .warning => "WARN"
  | .error => "ERROR"

/-- The line as it is printed, behind the time. -/
def print (line : LogLine) : String :=
  s!"{levelName line.level} {programName}: {line.text}"

end LogLine

/-! ## The configuration -/

/-- What the arguments say, put over a configuration. -/
def Arguments.override (arguments : Arguments) (config : Config) : Config :=
  { config with
    transport :=
      { config.transport with
        address := arguments.address.getD config.transport.address
        port := arguments.port.getD config.transport.port
        timecode := arguments.switches.contains .timecode || config.transport.timecode }
    diagnostics :=
      { config.diagnostics with
        timingEnabled :=
          !arguments.switches.contains .disableTiming && config.diagnostics.timingEnabled } }

/-- The text of a configuration file as a configuration; there may be no text. -/
def configOfFile (text : Option String) : Except ConfigError Config :=
  match text with
  | none => .error .unreadable
  | some text => Config.ofToml text

/-- The configuration that the arguments ask for, if files have these texts. -/
def Arguments.load (arguments : Arguments) (fileText : String -> Option String) :
    Except StartFailure Config :=
  match arguments.config with
  | none => .ok (arguments.override {})
  | some path =>
      match configOfFile (fileText path) with
      | .error cause => .error (.loading path cause)
      | .ok config => .ok (arguments.override config)

/-! ## The run -/

/-- What a run leaves behind. -/
structure Run where
  exitCode : Nat
  /-- What is printed. -/
  output : List String := []
  /-- What is reported apart from that. -/
  errors : List String := []
deriving DecidableEq, Repr

/-- What the log says once a configuration is loaded. -/
def loadedLines (config : Config) : List LogLine :=
  let identity := config.identity
  let loaded := s!"Loaded configuration for {config.manager.name} " ++
    s!"(host {config.manager.hostId}, dynamic ids {identity.dynamicStart}..{identity.maxModules})"
  let unbounded := "Logger writes are unbounded: a stalled logger stalls the broker"
  ⟨.info, loaded⟩ ::
    if config.delivery.loggerWriteTimeout.isNone then [⟨.info, unbounded⟩] else []

/-- What the log says about a configuration that could not be loaded. -/
def failureLines : StartFailure -> List LogLine
  | .loading path cause =>
      let cause := (StartupError.configuration cause).message
      [⟨.error, s!"Failed to load configuration: loading configuration from {path}: {cause}"⟩]
  | .binding _ => []

/-- An option and what it is for. -/
def helpLine (letter : Option Char) (usage purpose : String) : String :=
  let option := match letter with
    | some letter => "-" ++ letter.toString ++ ", " ++ usage
    | none => "    " ++ usage
  "  " ++ option ++ String.ofList (List.replicate (29 - option.length) ' ') ++ purpose

def help : List String :=
  ["Real-time pub/sub message manager", "", s!"Usage: {programName} [OPTIONS]", "", "Options:"] ++
    (Parameter.all.map fun parameter =>
      helpLine (some parameter.letter) parameter.usage parameter.purpose) ++
    Switch.all.map fun switch => helpLine switch.letter? switch.usage switch.purpose

/-- A manager that is ready to serve, with what was printed so far, or a run that
has ended. -/
inductive Start where
  | ended (run : Run)
  | ready (config : Config) (output errors : List String)

/-- How the arguments start the manager, if files have these texts and these
addresses can be listened at. -/
def start (arguments : List String) (fileText : String -> Option String)
    (canListen : String -> Bool) : Start :=
  match Invocation.ofArguments arguments with
  | .error error => .ended { exitCode := 2, errors := ["error: " ++ error.message] }
  | .ok .help => .ended { exitCode := 0, output := help }
  | .ok .version => .ended { exitCode := 0, output := [s!"{programName} {programVersion}"] }
  | .ok (.serve arguments) =>
      let filter := LogFilter.ofText (arguments.logLevel.getD "info")
      let shown (lines : List LogLine) :=
        (lines.filter fun line => filter.shows programName line.level).map LogLine.print
      let remarks := filter.ignored.map LogFilter.remark
      let fail (lines : List LogLine) (failure : StartFailure) : Start :=
        .ended
          { exitCode := 1
            output := shown lines
            errors := remarks ++ ["Error: " ++ failure.summary] }
      match arguments.load fileText with
      | .error failure => fail (failureLines failure) failure
      | .ok config =>
          if canListen config.bindAddress then .ready config (shown (loadedLines config)) remarks
          else fail (loadedLines config) (.binding config.bindAddress)

end CommandLine
end MessageBus
