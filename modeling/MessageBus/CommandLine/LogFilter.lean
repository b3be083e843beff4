import MessageBus.Protocol

namespace MessageBus
namespace CommandLine

/-!
# What the log shows

The operator says how much of the log is to be shown, in directives with commas
between them.  A directive is a level, or the beginning of a part's name with a
level behind an equals sign; a name alone stands for everything from that part.
Of the directives that concern a part, the one with the longest name counts, and of
two with the same name the later one.

A directive that is none is ignored, with a remark.  If none is left, only errors
are shown.
-/

/-- How much is shown. -/
inductive Verbosity where
  | off | error | warning | info | debug | trace
deriving DecidableEq, Repr

namespace Verbosity

def rank : Verbosity -> Nat
  | .off => 0
  | .error => 1
  | .warning => 2
  | .info => 3
  | .debug => 4
  | .trace => 5

/-- How much has to be shown for a level to be seen. -/
def ofLevel : LogLevel -> Verbosity
  | .debug => .debug
  | .info => .info
  | .warning => .warning
  | .error => .error

def ofText? : String -> Option Verbosity
  | "off" | "0" => some .off
  | "error" | "1" => some .error
  | "warn" | "2" => some .warning
  | "info" | "3" => some .info
  | "debug" | "4" => some .debug
  | "trace" | "5" => some .trace
  | _ => none

end Verbosity

/-- How much is shown of the parts whose names begin in a certain way. -/
structure Directive where
  name : String
  verbosity : Verbosity
deriving DecidableEq, Repr

namespace Directive

def isNameCharacter (character : Char) : Bool :=
  character.isAlphanum || character = '_' || character = ':' || character = '-' ||
    128 <= character.toNat

def ofText? (text : String) : Option Directive :=
  match Verbosity.ofText? text with
  | some verbosity => some ⟨"", verbosity⟩
  | none =>
      let name := text.toList.takeWhile (· ≠ '=')
      if name.isEmpty || !name.all isNameCharacter then none
      else match text.toList.dropWhile (· ≠ '=') with
        | [] | ['='] => some ⟨String.ofList name, .trace⟩
        | _ :: level => (Verbosity.ofText? (String.ofList level)).map (⟨String.ofList name, ·⟩)

end Directive

structure LogFilter where
  directives : List Directive
  /-- What was no directive. -/
  ignored : List String := []
deriving DecidableEq, Repr

namespace LogFilter

def ofText (text : String) : LogFilter :=
  let parts := (text.toLower.splitOn ",").filter (!·.isEmpty)
  let directives := parts.filterMap Directive.ofText?
  { directives := if directives.isEmpty then [⟨"", .error⟩] else directives
    ignored := parts.filter fun part => (Directive.ofText? part).isNone }

def remark (part : String) : String :=
  "ignoring \x60" ++ part ++ "\x60: invalid filter directive"

/-- How much is shown of a part. -/
def verbosity (filter : LogFilter) (part : String) : Verbosity :=
  let concerned := filter.directives.filter fun directive => directive.name.isPrefixOf part
  (concerned.foldl (fun (best : Directive) directive =>
    if directive.name.length < best.name.length then best else directive) ⟨"", .off⟩).verbosity

/-- Whether a line of a part is shown. -/
def shows (filter : LogFilter) (part : String) (level : LogLevel) : Bool :=
  (Verbosity.ofLevel level).rank <= (filter.verbosity part).rank

end LogFilter

end CommandLine
end MessageBus
