import MessageBus.Text.Utf8

namespace MessageBus
namespace Text

open Wire (Bytes)

/-!
# Text in a field of fixed width

Names, addresses and log lines travel in fields of a fixed number of bytes,
filled up with zeros.  A text that has exactly the width fills its field to the
last byte and then has no terminator, so a reader takes the bytes up to the
first zero or up to the end, whichever comes first.

There are two ways in.  `Field.ofText?` refuses a text that is too long, which
is right for what a client announces about itself.  `Field.ofPrefix` cuts it,
which is right for a log line; the cut never falls inside a character, because
half a character would be read back as something that nobody wrote.
-/

/-- A field of `width` bytes. -/
abbrev Field (width : Nat) := Vector UInt8 width

/-- The longest run of leading characters whose UTF-8 form fits into `room` bytes. -/
def prefixWithin : (room : Nat) -> List Char -> List Char
  | _, [] => []
  | room, character :: rest =>
      if character.utf8Size <= room then
        character :: prefixWithin (room - character.utf8Size) rest
      else []

/-- Why a text was refused for a field. -/
structure TooLong where
  length : Nat
  width : Nat
deriving DecidableEq, Repr

namespace TooLong

def message (refusal : TooLong) : String :=
  s!"text of {refusal.length} bytes does not fit a {refusal.width}-byte field"

end TooLong

namespace Field

/-- Bytes in the front of a field, zeros behind them. -/
def ofBytes (width : Nat) (bytes : Bytes) : Field width :=
  ⟨((bytes ++ List.replicate width 0).take width).toArray, by simp⟩

/-- The field that holds no text. -/
def empty (width : Nat) : Field width :=
  ofBytes width []

/-- A whole text in a field, or the reason why there is no room for it. -/
def ofText? (width : Nat) (text : String) : Except TooLong (Field width) :=
  let bytes := encodeUtf8 text
  if bytes.length <= width then .ok (ofBytes width bytes)
  else .error ⟨bytes.length, width⟩

/-- As many whole characters of a text as a field has room for. -/
def ofPrefix (width : Nat) (text : String) : Field width :=
  ofBytes width (encodeChars (prefixWithin width text.toList))

/-- The text of a byte string up to its first zero. -/
def textOf (bytes : Bytes) : String :=
  decodeUtf8 (bytes.takeWhile (· != 0))

/-- The text that a field holds. -/
def text (field : Field width) : String :=
  textOf field.toList

end Field

end Text
end MessageBus
