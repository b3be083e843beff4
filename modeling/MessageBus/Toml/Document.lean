import MessageBus.Toml.Scalar
import MessageBus.Toml.StringLiteral

namespace MessageBus
namespace Toml

/-!
# TOML documents

A document is a sequence of lines, each of which names a value by a key or opens
a table by a header.  Keys and headers with points in them pass through tables,
which come into being on the way if they are not there.  Through which tables a
line may pass, and to which it may add, is decided by how they came about
(`Origin`); that is what keeps a document from saying the same thing twice.
-/

/-! ## Keys -/

/-- Whether a character can occur in a key without quotation marks. -/
def isBareChar (character : Char) : Bool :=
  character.isAlphanum || character = '_' || character = '-'

/-- One part of a key. -/
def keyPart? (text : List Char) : Option (List Char × List Char) :=
  match shortLiteral? text with
  | some read => some read
  | none =>
      let part := text.takeWhile isBareChar
      if part.isEmpty then none else some (part, text.drop part.length)

/-- The parts of a key with points between them, with blanks around each. -/
def keyParts? : (fuel : Nat) -> List Char -> Option (List String × List Char)
  | 0, _ => none
  | fuel + 1, text => do
      let (part, rest) ← keyPart? (skipBlanks text)
      match skipBlanks rest with
      | '.' :: rest =>
          let (parts, rest) ← keyParts? fuel rest
          some (String.ofList part :: parts, rest)
      | rest => some ([String.ofList part], rest)

/-- Values may be put into each other, and keys may be joined, this many times. -/
def depthLimit : Nat := 79

/-- A key, and the text behind it and the blanks that follow it. -/
def key? (text : List Char) : Option (List String × List Char) :=
  keyParts? depthLimit text

/-! ## Adding to tables -/

namespace Entries

/-- Change the table that a path leads to.  On the way, missing tables are made
with the given origin; a dotted key does not pass through a table that a header
has named, and nothing passes through an inline table. -/
def within (origin : Origin) (change : Origin -> Entries -> Option Entries) :
    (path : List String) -> (reached : Origin) -> Entries -> Option Entries
  | [], reached, entries => change reached entries
  | key :: path, _, entries =>
      match Entries.get? entries key with
      | none => do
          let inner ← within origin change path origin []
          some (entries ++ [(key, .table origin inner)])
      | some (.table made inner) =>
          if made = .inline || (origin = .dotted && made = .header) then none
          else do
            let inner ← within origin change path made inner
            some (Entries.replace entries key (.table made inner))
      | some (.tables earlier current) => do
          let current ← within origin change path .header current
          some (Entries.replace entries key (.tables earlier current))
      | some _ => none

/-- Add a value under a key.  What a key with points leads to must be a table
that such keys have made. -/
def addAt? (path : List String) (value : Value) (entries : Entries) : Option Entries :=
  match path.getLast? with
  | none => none
  | some key =>
      let add (reached : Origin) (inner : Entries) : Option Entries :=
        if 2 <= path.length && reached != .dotted then none else Entries.add? inner key value
      within .dotted add path.dropLast .header entries

/-- Open a table.  It may be there if it only came about on the way to another. -/
def openTable? (path : List String) (entries : Entries) : Option Entries :=
  match path.getLast? with
  | none => none
  | some key =>
      let opened (_ : Origin) (inner : Entries) : Option Entries :=
        match Entries.get? inner key with
        | none => some (inner ++ [(key, .table .header [])])
        | some (.table .implied content) =>
            some (Entries.replace inner key (.table .header content))
        | some _ => none
      within .implied opened path.dropLast .header entries

/-- Open the next one of several tables. -/
def openNext? (path : List String) (entries : Entries) : Option Entries :=
  match path.getLast? with
  | none => none
  | some key =>
      let opened (_ : Origin) (inner : Entries) : Option Entries :=
        match Entries.get? inner key with
        | none => some (inner ++ [(key, .tables [] [])])
        | some (.tables earlier current) =>
            some (Entries.replace inner key (.tables (earlier ++ [.table .header current]) []))
        | some _ => none
      within .implied opened path.dropLast .header entries

end Entries

/-! ## Values -/

/-- The elements of an array up to its closing bracket; a comma may stand behind
the last one. -/
def elements? (element? : List Char -> Option (Value × List Char)) :
    (fuel : Nat) -> List Char -> Option (List Value × List Char)
  | 0, _ => none
  | fuel + 1, text => do
      match ← skipLines false text with
      | ']' :: rest => some ([], rest)
      | text =>
          let (value, rest) ← element? text
          match ← skipLines false rest with
          | ']' :: rest => some ([value], rest)
          | ',' :: rest =>
              let (values, rest) ← elements? element? fuel rest
              some (value :: values, rest)
          | _ => none

/-- A key with its value, and the text behind them. -/
def pair? (element? : List Char -> Option (Value × List Char)) (text : List Char) :
    Option ((List String × Value) × List Char) := do
  let (path, rest) ← key? text
  match rest with
  | '=' :: rest =>
      let (value, rest) ← element? (skipBlanks rest)
      some ((path, value), skipBlanks rest)
  | _ => none

/-- The pairs of an inline table, of which there is one, up to its closing brace. -/
def pairs? (element? : List Char -> Option (Value × List Char)) :
    (fuel : Nat) -> List Char -> Option (List (List String × Value) × List Char)
  | 0, _ => none
  | fuel + 1, text => do
      let (pair, rest) ← pair? element? text
      match rest with
      | '\x7d' :: rest => some ([pair], rest)
      | ',' :: rest =>
          let (pairs, rest) ← pairs? element? fuel rest
          some (pair :: pairs, rest)
      | _ => none

/-- The content of an inline table. -/
def entriesOfPairs? (pairs : List (List String × Value)) : Option Entries :=
  pairs.foldlM (fun entries (path, value) => Entries.addAt? path value entries) []

/-- A value of any kind, and the text behind it. -/
def value? : (depth : Nat) -> List Char -> Option (Value × List Char)
  | depth, text =>
      match stringLiteral? text with
      | some (content, rest) => some (.text (String.ofList content), rest)
      | none =>
          match depth, text with
          | depth + 1, '[' :: rest => do
              let (values, rest) ← elements? (value? depth) (rest.length + 1) rest
              some (.array values, rest)
          | depth + 1, '\x7b' :: rest =>
              match skipBlanks rest with
              | '\x7d' :: rest => some (.table .inline [], rest)
              | rest => do
                  let (pairs, rest) ← pairs? (value? depth) (rest.length + 1) rest
                  let entries ← entriesOfPairs? pairs
                  some (.table .inline entries, rest)
          | _, text => scalar? text

/-! ## Lines -/

/-- What a line says. -/
inductive Line where
  | blank
  | table (path : List String)
  | nextTable (path : List String)
  | pair (path : List String) (value : Value)

/-- The next line, and the text behind it. -/
def line? (text : List Char) : Option (Line × List Char) :=
  match skipBlanks text with
  | '[' :: '[' :: rest => do
      let (path, rest) ← key? rest
      match rest with
      | ']' :: ']' :: rest => some (.nextTable path, ← endLine rest)
      | _ => none
  | '[' :: rest => do
      let (path, rest) ← key? rest
      match rest with
      | ']' :: rest => some (.table path, ← endLine rest)
      | _ => none
  | text =>
      match endLine text with
      | some rest => some (.blank, rest)
      | none => do
          let ((path, value), rest) ← pair? (value? depthLimit) text
          some (.pair path value, ← endLine rest)

/-- Read lines and add what they say.  `open?` is the path of the table that the
last header opened. -/
def readLines : (fuel : Nat) -> (opened : List String) -> Entries -> List Char -> Option Entries
  | _, _, entries, [] => some entries
  | 0, _, _, _ => none
  | fuel + 1, opened, entries, text => do
      let (line, rest) ← line? text
      match line with
      | .blank => readLines fuel opened entries rest
      | .table path => readLines fuel path (← Entries.openTable? path entries) rest
      | .nextTable path => readLines fuel path (← Entries.openNext? path entries) rest
      | .pair path value =>
          let entries ← Entries.within .implied
            (fun _ inner => Entries.addAt? path value inner) opened .header entries
          readLines fuel opened entries rest

/-- The content of a document, if it is one.  A byte order mark in front is not
part of it. -/
def parse? (document : String) : Option Entries :=
  let text := unifyLines document.toList
  let text := if text.head? = some (Char.ofNat 0xFEFF) then text.drop 1 else text
  readLines (text.length + 1) [] [] text

end Toml
end MessageBus
