import MessageBus.Protocol

namespace MessageBus

open Wire

/-!
# What can be wrong with a message or a stream

A fault of the stream itself ends a connection, and so does a header after
which the stream can no longer be cut into messages: there is no telling where
the next one begins.  All other errors concern one message whose frame was
intact, and the connection lives on.  `ProtocolError.isFatal` is this
distinction.
-/

/-- What a stream reports when it cannot be read or written. -/
inductive FaultKind where
  | unexpectedEnd | reset | aborted | brokenPipe | notConnected
  | other
deriving DecidableEq, Repr

structure Fault where
  kind : FaultKind
  text : String
deriving DecidableEq, Repr

namespace Fault

/-- The stream ended inside or before a frame. -/
def earlyEnd : Fault := ⟨.unexpectedEnd, "early eof"⟩

/-- The peer no longer takes anything. -/
def brokenPipe : Fault := ⟨.brokenPipe, "broken pipe"⟩

/-- A sink accepted no byte of what it was given. -/
def writeZero : Fault := ⟨.other, "write zero"⟩

end Fault

inductive ProtocolError where
  /-- The peer is gone. -/
  | connectionLost (cause : String)
  /-- The stream failed in any other way. -/
  | stream (cause : String)
  | sizeMismatch (messageType : MessageType) (expected got : Nat)
  | versionMismatch (messageType : MessageType) (expected got : Int32)
  | payloadTooLarge (messageType : MessageType) (declared limit : Nat)
  | invalidLength (messageType : MessageType) (declared : Int32)
  | invalidName (detail : String)
deriving DecidableEq, Repr

/-- A word as `0x` and eight hexadecimal digits. -/
def hexWord (word : Int32) : String :=
  let digits := Nat.toDigits 16 word.toUInt32.toNat
  "0x" ++ String.ofList (List.replicate (8 - digits.length) '0' ++ digits)

namespace ProtocolError

def ofFault (fault : Fault) : ProtocolError :=
  match fault.kind with
  | .other => .stream fault.text
  | _ => .connectionLost fault.text

/-- Whether the error ends the connection rather than concerning one message. -/
def isFatal : ProtocolError -> Bool
  | .connectionLost _ | .stream _ | .payloadTooLarge _ _ _ | .invalidLength _ _ => true
  | .sizeMismatch _ _ _ | .versionMismatch _ _ _ | .invalidName _ => false

def message : ProtocolError -> String
  | .connectionLost cause => s!"Connection lost: {cause}"
  | .stream cause => s!"I/O error: {cause}"
  | .sizeMismatch messageType expected got =>
      s!"Size mismatch for message type {messageType}: expected {expected} bytes, got {got}"
  | .versionMismatch messageType expected got =>
      s!"Version mismatch for message type {messageType}: expected hash {hexWord expected}, " ++
        s!"got {hexWord got}"
  | .payloadTooLarge messageType declared limit =>
      s!"Payload too large: message type {messageType} declares {declared} bytes, limit {limit}"
  | .invalidLength messageType declared =>
      s!"Invalid payload length {declared} for message type {messageType}"
  | .invalidName detail => s!"Invalid module name: {detail}"

end ProtocolError

end MessageBus
