import MessageBus.Text.Numeral
import MessageBus.Toml.Character

namespace MessageBus
namespace Toml

open Text (digitValue? numeralValue)

/-!
# Strings in TOML

There are four kinds: between quotation marks with escapes, between apostrophes
without, and either of them tripled to go over several lines.  A long string may
hold one or two of its own marks, also directly in front of the closing ones, so
a run of up to five marks closes it.  A line feed directly behind the opening
marks does not belong to it.
-/

/-- The character that an escape of one letter stands for. -/
def escapedChar? : Char -> Option Char
  | 'b' => some '\x08'
  | 't' => some '\t'
  | 'n' => some '\n'
  | 'f' => some '\x0c'
  | 'r' => some '\r'
  | '"' => some '"'
  | '\\' => some '\\'
  | _ => none

/-- The character of a code point in hexadecimal digits. -/
def pointChar? (digits : List Char) : Option Char :=
  let point := numeralValue 16 digits
  if digits.all fun digit => (digitValue? 16 digit).isSome then
    if point < 0xD800 ∨ (0xDFFF < point ∧ point < 0x110000) then some (Char.ofNat point) else none
  else none

/-- A character in front of what was read behind it. -/
def prepend (character : Char) (read : Option (List Char × List Char)) :
    Option (List Char × List Char) :=
  read.map fun (content, rest) => (character :: content, rest)

/-- The content of a string up to its closing quotation mark, and the text
behind that. -/
def basic : List Char -> Option (List Char × List Char)
  | [] => none
  | '"' :: rest => some ([], rest)
  | '\\' :: 'u' :: a :: b :: c :: d :: rest => do
      prepend (← pointChar? [a, b, c, d]) (basic rest)
  | '\\' :: 'U' :: a :: b :: c :: d :: e :: f :: g :: h :: rest => do
      prepend (← pointChar? [a, b, c, d, e, f, g, h]) (basic rest)
  | '\\' :: letter :: rest => do
      prepend (← escapedChar? letter) (basic rest)
  | character :: rest =>
      if isPlain character then prepend character (basic rest) else none

/-- The content of a long string with escapes.  A backslash at the end of a line
removes the line end and all blanks and line ends that follow; `folding` says
that this is going on. -/
def longBasic : (folding : Bool) -> List Char -> Option (List Char × List Char)
  | _, [] => none
  | _, '"' :: '"' :: '"' :: '"' :: '"' :: rest => some (['"', '"'], rest)
  | _, '"' :: '"' :: '"' :: '"' :: rest => some (['"'], rest)
  | _, '"' :: '"' :: '"' :: rest => some ([], rest)
  | _, '\\' :: 'u' :: a :: b :: c :: d :: rest => do
      prepend (← pointChar? [a, b, c, d]) (longBasic false rest)
  | _, '\\' :: 'U' :: a :: b :: c :: d :: e :: f :: g :: h :: rest => do
      prepend (← pointChar? [a, b, c, d, e, f, g, h]) (longBasic false rest)
  | _, '\\' :: letter :: rest =>
      if (skipBlanks (letter :: rest)).head? = some '\n' then longBasic true rest
      else do prepend (← escapedChar? letter) (longBasic false rest)
  | folding, character :: rest =>
      if folding && (isBlank character || character = '\n') then longBasic true rest
      else if isPlain character || character = '\n' then
        prepend character (longBasic false rest)
      else none

/-- The content of a string up to its closing apostrophe. -/
def plainString (text : List Char) : Option (List Char × List Char) :=
  let content := text.takeWhile fun character => isPlain character && character != '\''
  match text.drop content.length with
  | '\'' :: rest => some (content, rest)
  | _ => none

/-- The content of a long string without escapes. -/
def longPlain : List Char -> Option (List Char × List Char)
  | [] => none
  | '\'' :: '\'' :: '\'' :: '\'' :: '\'' :: rest => some (['\'', '\''], rest)
  | '\'' :: '\'' :: '\'' :: '\'' :: rest => some (['\''], rest)
  | '\'' :: '\'' :: '\'' :: rest => some ([], rest)
  | character :: rest =>
      if isPlain character || character = '\n' then prepend character (longPlain rest)
      else none

/-- The text without a line feed at its front. -/
def dropLineFeed : List Char -> List Char
  | '\n' :: rest => rest
  | text => text

/-- A string of any kind. -/
def stringLiteral? : List Char -> Option (List Char × List Char)
  | '"' :: '"' :: '"' :: rest => longBasic false (dropLineFeed rest)
  | '"' :: rest => basic rest
  | '\'' :: '\'' :: '\'' :: rest => longPlain (dropLineFeed rest)
  | '\'' :: rest => plainString rest
  | _ => none

/-- A string that stays within its line. -/
def shortLiteral? : List Char -> Option (List Char × List Char)
  | '"' :: rest => basic rest
  | '\'' :: rest => plainString rest
  | _ => none

end Toml
end MessageBus
