namespace MessageBus
namespace Toml

/-!
# TOML values

TOML is the notation of the configuration file.  A table remembers how it came
about, because that decides whether a later line of the document may still add
to it: a table that a header has named is complete once the next header begins,
and an inline table is complete when it is closed.
-/

/-- How a table came about. -/
inductive Origin where
  /-- A header names it. -/
  | header
  /-- A longer header passes through it. -/
  | implied
  /-- A dotted key passes through it. -/
  | dotted
  /-- It was written between braces. -/
  | inline
deriving DecidableEq, Repr

inductive Value where
  | text (content : String)
  | integer (number : Int)
  | boolean (flag : Bool)
  /-- A number with a fraction or an exponent.  No setting is one, so which
  number it is does not matter. -/
  | float
  /-- A date, a time or both.  No setting is one either. -/
  | moment
  | array (elements : List Value)
  | table (origin : Origin) (entries : List (String × Value))
  /-- Tables collected by repeated headers, of which the last is still open. -/
  | tables (earlier : List Value) (current : List (String × Value))

/-- The content of a table, in the order in which it was written. -/
abbrev Entries := List (String × Value)

namespace Entries

def get? (entries : Entries) (key : String) : Option Value :=
  (entries.find? (·.1 == key)).map (·.2)

/-- The entries with a new value for a key that is there. -/
def replace (entries : Entries) (key : String) (value : Value) : Entries :=
  entries.map fun (other, old) => if other = key then (other, value) else (other, old)

/-- One entry more, provided that its key is new. -/
def add? (entries : Entries) (key : String) (value : Value) : Option Entries :=
  if (entries.get? key).isSome then none else some (entries ++ [(key, value)])

end Entries

namespace Value

/-- The elements of a value that is a sequence. -/
def elements? : Value -> Option (List Value)
  | .array elements => some elements
  | .tables earlier current => some (earlier ++ [.table .header current])
  | _ => none

end Value

end Toml
end MessageBus
