import MessageBus.Text.Printable

namespace MessageBus
namespace Text

/-!
# Quoted text

Names are chosen by modules and may hold anything, so a line that mentions one
puts it between quotation marks and writes every character in it that would not
show by itself as an escape.  The marks of the notation itself, the quotation
mark and the backslash, are escaped too, which keeps the end of the name
recognisable.
-/

/-- A character as it stands between quotation marks. -/
def quotedChar (character : Char) : List Char :=
  if character = '"' then ['\\', '"']
  else if character = '\\' then ['\\', '\\']
  else if character = '\x00' then ['\\', '0']
  else if character = '\t' then ['\\', 't']
  else if character = '\r' then ['\\', 'r']
  else if character = '\n' then ['\\', 'n']
  else if isPrintable character then [character]
  else "\\u\x7b".toList ++ Nat.toDigits 16 character.toNat ++ ['\x7d']

/-- A text between quotation marks. -/
def quoted (text : String) : String :=
  String.ofList ('"' :: text.toList.flatMap quotedChar ++ ['"'])

end Text
end MessageBus
