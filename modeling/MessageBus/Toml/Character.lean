namespace MessageBus
namespace Toml

/-!
# Blanks, comments and line ends

Only the tab and the space separate things within a line.  A line ends in a line
feed, possibly with a carriage return in front; everything below looks at texts
in which `unifyLines` has removed such carriage returns, so any that is left is
out of place.
-/

/-- The text with every line end written as a line feed. -/
def unifyLines : List Char -> List Char
  | [] => []
  | '\r' :: '\n' :: rest => '\n' :: unifyLines rest
  | character :: rest => character :: unifyLines rest

def isBlank (character : Char) : Bool :=
  character = ' ' || character = '\t'

/-- Whether a character may stand for itself in comments and strings. -/
def isPlain (character : Char) : Bool :=
  character = '\t' || (character.toNat != 0x7F && 0x20 <= character.toNat)

def skipBlanks (text : List Char) : List Char :=
  text.dropWhile isBlank

/-- The text behind the end of a line, where a comment may precede it. -/
def endLine (text : List Char) : Option (List Char) :=
  let text := skipBlanks text
  let text := if text.head? = some '#' then text.dropWhile isPlain else text
  match text with
  | [] => some []
  | '\n' :: rest => some rest
  | _ => none

/-- The text behind blanks, line ends and comments. -/
def skipLines : (inComment : Bool) -> List Char -> Option (List Char)
  | _, [] => some []
  | true, character :: rest =>
      if character = '\n' then skipLines false rest
      else if isPlain character then skipLines true rest
      else none
  | false, character :: rest =>
      if isBlank character || character = '\n' then skipLines false rest
      else if character = '#' then skipLines true rest
      else some (character :: rest)

end Toml
end MessageBus
