import MessageBus.Wire.Layout

namespace MessageBus
namespace Text

open Wire (Bytes)

/-!
# UTF-8 with replacement

Text arrives in byte fields that any peer may have filled with anything, so
reading it must not fail.  The reader below goes one byte at a time.  Between
characters it looks only at the leading byte, which fixes how many
continuation bytes the character owes and, for four of the leads, narrows the
range of the first of them: that narrowing is what excludes overlong forms,
surrogates and values above U+10FFFF.

A character that is broken off is replaced by one U+FFFD for all the bytes it
had already claimed, and the byte that broke it is looked at again as the start
of something new.  So every maximal piece that could have begun a character
counts once, and a byte that can begin nothing counts by itself.
-/

/-- What stands for bytes that are no text. -/
def replacement : Char := Char.ofNat 0xFFFD

/-- A character that has begun and still owes `missing` continuation bytes, the
next of which must lie between `low` and `high`. -/
structure Partial where
  value : Nat
  missing : Nat
  low : UInt8
  high : UInt8
deriving DecidableEq, Repr

/-- What a byte promises when it leads a character of several bytes. -/
def lead? (byte : UInt8) : Option Partial :=
  if 0xC2 <= byte ∧ byte <= 0xDF then some ⟨byte.toNat - 0xC0, 1, 0x80, 0xBF⟩
  else if byte = 0xE0 then some ⟨0, 2, 0xA0, 0xBF⟩
  else if byte = 0xED then some ⟨0xD, 2, 0x80, 0x9F⟩
  else if 0xE1 <= byte ∧ byte <= 0xEF then some ⟨byte.toNat - 0xE0, 2, 0x80, 0xBF⟩
  else if byte = 0xF0 then some ⟨0, 3, 0x90, 0xBF⟩
  else if byte = 0xF4 then some ⟨4, 3, 0x80, 0x8F⟩
  else if 0xF1 <= byte ∧ byte <= 0xF3 then some ⟨byte.toNat - 0xF0, 3, 0x80, 0xBF⟩
  else none

namespace Partial

/-- Whether a byte may come next. -/
def admits (character : Partial) (byte : UInt8) : Bool :=
  character.low <= byte && byte <= character.high

/-- The value with the six bits of a continuation byte added. -/
def extend (character : Partial) (byte : UInt8) : Nat :=
  character.value * 64 + (byte.toNat - 0x80)

end Partial

/-- The characters of a byte string, read from inside `open?` if a character has
already begun. -/
def decodeFrom : (open? : Option Partial) -> Bytes -> List Char
  | none, [] => []
  | some _, [] => [replacement]
  | none, byte :: rest =>
      if byte < 0x80 then Char.ofNat byte.toNat :: decodeFrom none rest
      else match lead? byte with
        | none => replacement :: decodeFrom none rest
        | some character => decodeFrom (some character) rest
  | some character, byte :: rest =>
      if character.admits byte then
        if character.missing <= 1 then
          Char.ofNat (character.extend byte) :: decodeFrom none rest
        else
          decodeFrom (some ⟨character.extend byte, character.missing - 1, 0x80, 0xBF⟩) rest
      else if byte < 0x80 then
        replacement :: Char.ofNat byte.toNat :: decodeFrom none rest
      else match lead? byte with
        | none => replacement :: replacement :: decodeFrom none rest
        | some next => replacement :: decodeFrom (some next) rest

/-- The text of a byte string, with U+FFFD wherever the bytes are no UTF-8. -/
def decodeUtf8 (bytes : Bytes) : String :=
  String.ofList (decodeFrom none bytes)

/-- The UTF-8 bytes of a list of characters. -/
def encodeChars (characters : List Char) : Bytes :=
  characters.flatMap String.utf8EncodeChar

/-- The UTF-8 bytes of a text. -/
def encodeUtf8 (text : String) : Bytes :=
  encodeChars text.toList

end Text
end MessageBus
