import MessageBus.Message

namespace MessageBus

open Wire

/-!
# Cutting a stream into messages

A stream is a sequence of frames, each a head of fixed size and a payload of the
length that the head announces.  The reader is a machine that takes one byte at
a time.  It is either inside a head or inside a payload, and it knows how many
bytes are still missing there; with the last of them it has something to say,
and before it has nothing.  How the stream was cut into pieces on its way is
therefore invisible, because the machine never sees pieces.

A length that is negative or above the limit is refused at the last byte of the
head, before any room is made for the payload.  Nothing after it is looked at:
whatever follows cannot be told apart from a payload.
-/

namespace Frame

/-- How far the reader is.  The bytes seen are kept in reverse. -/
inductive Stage where
  | head (missing : Nat) (seen : Bytes)
  | body (missing : Nat) (header : Header) (timecode : Option Timecode) (seen : Bytes)
deriving DecidableEq, Repr

structure Reader where
  format : Format
  limit : Nat
  stage : Stage
deriving DecidableEq, Repr

namespace Reader

/-- A reader in front of a frame. -/
def start (format : Format) (limit : Nat) : Reader :=
  ⟨format, limit, .head format.size []⟩

/-- The reader after a complete frame. -/
def restart (reader : Reader) : Reader :=
  start reader.format reader.limit

/-- What one byte leads to. -/
inductive Step where
  | more (reader : Reader)
  | message (message : Message)
  | refused (error : ProtocolError)
deriving Repr

/-- What a complete head leads to, at the time it was received. -/
def acceptHead (reader : Reader) (receiveTime : UInt64) (bytes : Bytes) : Step :=
  match readHead reader.format bytes with
  | .error error => .refused error
  | .ok (header, timecode) =>
      let header := { header with receiveTime }
      if header.dataBytes < 0 then
        .refused (.invalidLength header.messageType header.dataBytes)
      else if reader.limit < header.payloadLength then
        .refused (.payloadTooLarge header.messageType header.payloadLength reader.limit)
      else if header.payloadLength = 0 then
        .message ⟨header, timecode, []⟩
      else
        .more { reader with stage := .body header.payloadLength header timecode [] }

/-- Take one byte. -/
def push (reader : Reader) (receiveTime : UInt64) (byte : UInt8) : Step :=
  match reader.stage with
  | .head missing seen =>
      if missing <= 1 then reader.acceptHead receiveTime (byte :: seen).reverse
      else .more { reader with stage := .head (missing - 1) (byte :: seen) }
  | .body missing header timecode seen =>
      if missing <= 1 then .message ⟨header, timecode, (byte :: seen).reverse⟩
      else .more { reader with stage := .body (missing - 1) header timecode (byte :: seen) }

/-- What a piece of a stream leads to: it is used up, or it completes a message
or cannot be read on, with what is left of it. -/
inductive Outcome where
  | hungry (reader : Reader)
  | message (message : Message) (rest : Bytes)
  | refused (error : ProtocolError) (rest : Bytes)
deriving Repr

/-- Take bytes up to the next thing that the reader has to say. -/
def take (receiveTime : UInt64) : Reader -> Bytes -> Outcome
  | reader, [] => .hungry reader
  | reader, byte :: rest =>
      match reader.push receiveTime byte with
      | .more next => take receiveTime next rest
      | .message message => .message message rest
      | .refused error => .refused error rest

/-- What a whole piece leads to: all messages that it completes, each received when
the clock says for its number, and the reader behind it or the error that stopped it
with the bytes it left. -/
def run : (clock : Nat -> UInt64) -> Reader -> Bytes ->
    List Message × Except (ProtocolError × Bytes) Reader
  | _, reader, [] => ([], .ok reader)
  | clock, reader, byte :: rest =>
      match reader.push (clock 0) byte with
      | .more next => run clock next rest
      | .message message =>
          let (messages, ending) := run (fun number => clock (number + 1)) reader.restart rest
          (message :: messages, ending)
      | .refused error => ([], .error (error, rest))

/-- What was read from the bytes that had arrived. -/
structure Harvest where
  messages : List Message
  /-- The reader to go on with, or why there is nothing to go on with. -/
  ending : Except ProtocolError Reader
  /-- The bytes that were not looked at. -/
  rest : Bytes

/-- Read at most so many messages from the bytes that have arrived.  An end of the
stream shows only to a reader that has looked at everything before it. -/
def harvest (receiveTime : UInt64) (isEnded : Bool) : (limit : Nat) -> Reader -> Bytes -> Harvest
  | 0, reader, bytes => ⟨[], .ok reader, bytes⟩
  | limit + 1, reader, bytes =>
      match take receiveTime reader bytes with
      | .hungry reader => ⟨[], if isEnded then .error (.ofFault .earlyEnd) else .ok reader, []⟩
      | .refused error rest => ⟨[], .error error, rest⟩
      | .message message rest =>
          let later := harvest receiveTime isEnded limit reader.restart rest
          { later with messages := message :: later.messages }

end Reader

/-! ## Streams in pieces -/

/-- What one read of a stream yields.  A read that yields no byte is the end. -/
inductive Chunk where
  | bytes (bytes : Bytes)
  | fault (fault : Fault)
deriving DecidableEq, Repr

namespace Chunk

/-- The number of bytes in a chunk. -/
def size : Chunk -> Nat
  | .bytes piece => piece.length
  | .fault _ => 0

end Chunk

/-- Everything there was to say about a stream. -/
structure Transcript where
  messages : List Message
  ending : ProtocolError
  /-- The number of bytes that were there but were never looked at. -/
  unread : Nat
deriving Repr

/-- Read messages until the stream ends or fails. -/
def readStream : (clock : Nat -> UInt64) -> Reader -> List Chunk -> Transcript
  | _, _, [] => ⟨[], .ofFault .earlyEnd, 0⟩
  | _, _, .fault fault :: rest => ⟨[], .ofFault fault, total (rest.map Chunk.size)⟩
  | _, _, .bytes [] :: rest => ⟨[], .ofFault .earlyEnd, total (rest.map Chunk.size)⟩
  | clock, reader, .bytes bytes :: rest =>
      let (messages, ending) := reader.run clock bytes
      match ending with
      | .error (error, left) => ⟨messages, error, left.length + total (rest.map Chunk.size)⟩
      | .ok next =>
          let transcript :=
            readStream (fun number => clock (number + messages.length)) next rest
          { transcript with messages := messages ++ transcript.messages }

/-- Read a stream while the clock stands still. -/
def readChunks (receiveTime : UInt64) : Reader -> List Chunk -> Transcript :=
  readStream fun _ => receiveTime

end Frame

end MessageBus
