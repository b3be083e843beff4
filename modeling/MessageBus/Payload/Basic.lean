import MessageBus.Protocol
import MessageBus.Wire.Record
import MessageBus.Text.Field

namespace MessageBus

open Wire

/-!
# Payloads

A payload is a record that travels under a message type of its own.  `Payload`
binds the two together with the record's public name, from which the definition
text follows.  `Payload.decode` is the only way from bytes to a payload that a
peer wrote, and it insists on the exact size.
-/

class Payload (α : Type) where
  messageType : MessageType
  name : String
  record : Record α

/-- A byte string offered as a payload had the wrong size for it. -/
structure WrongSize where
  typeName : String
  expected : Nat
  got : Nat
deriving DecidableEq, Repr

namespace WrongSize

def message (refusal : WrongSize) : String :=
  s!"{refusal.typeName} payload is {refusal.got} bytes, expected {refusal.expected}"

end WrongSize

namespace Payload

variable (α : Type) [Payload α]

/-- The exact number of bytes on the wire. -/
def size : Nat :=
  (record (α := α)).size

/-- The text that pins down the payload's fields. -/
def definition : String :=
  Record.definition (name α) (record (α := α)).fields

variable {α}

def encode (payload : α) : Bytes :=
  (record (α := α)).layout.encode payload

variable (α) in
def decode (bytes : Bytes) : Except WrongSize α :=
  if bytes.length = size α then .ok ((record (α := α)).layout.decode bytes)
  else .error ⟨name α, size α, bytes.length⟩

theorem length_encode (payload : α) : (encode payload).length = size α :=
  (record (α := α)).layout.length_encode payload

end Payload

/-- The shape of a text field. -/
def textShape (width : Nat) (widthText : String) : Shape :=
  .array .u8 width widthText

end MessageBus
