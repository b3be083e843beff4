import MessageBus.CommandLine.Run

/-!
# The manager's program

Reads the configuration file, prints, and ends with the exit code that the run has
come to.  There are no sockets here, so no address can be listened at, and every
run ends before anybody is served.
-/

namespace MessageBus
namespace CommandLine

/-- The text of a file, if it is there and is text. -/
def readText (path : String) : IO (Option String) := do
  try
    return some (← IO.FS.readFile path)
  catch _ =>
    return none

/-- The file that the arguments want to be read. -/
def wantedFile (arguments : List String) : Option String :=
  match Invocation.ofArguments arguments with
  | .ok (.serve arguments) => arguments.config
  | _ => none

def printAll (output errors : List String) : IO Unit := do
  for line in output do
    IO.println line
  for line in errors do
    IO.eprintln line

def runProgram (arguments : List String) : IO UInt32 := do
  let text ← match wantedFile arguments with
    | some path => readText path
    | none => pure none
  match start arguments (fun _ => text) (fun _ => false) with
  | .ended run =>
      printAll run.output run.errors
      return UInt32.ofNat run.exitCode
  | .ready _ output errors =>
      printAll output errors
      return 0

end CommandLine
end MessageBus

def main (arguments : List String) : IO UInt32 :=
  MessageBus.CommandLine.runProgram arguments
