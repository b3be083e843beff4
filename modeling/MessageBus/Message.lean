import MessageBus.Schema

namespace MessageBus

open Wire

/-!
# Messages

A message is a header, a timecode if its format carries one, and a payload of
as many bytes as the header says.  The builders keep that number in step and
take the present time as an argument, so that they are functions and a message
is determined by what is said about it.
-/

structure Message where
  header : Header
  timecode : Option Timecode
  payload : Bytes
deriving DecidableEq, Repr

namespace Message

def messageType (message : Message) : MessageType :=
  message.header.messageType

/-- A message around a payload of any kind. -/
def new (clock : ClockReading) (messageType : MessageType) (payload : Bytes) : Message where
  header :=
    { messageType
      sendTime := clock.seconds
      dataBytes := Int32.ofNat payload.length }
  timecode := none
  payload

/-- A message that says everything by its type. -/
def signal (clock : ClockReading) (messageType : MessageType) : Message :=
  new clock messageType []

/-- A message with a payload of the bus, tagged with the payload's hash. -/
def ofPayload [Payload α] (clock : ClockReading) (payload : α) : Message :=
  let message := new clock (Payload.messageType α) (Payload.encode payload)
  { message with header.version := Payload.hash α }

/-- The same message for a module on a host. -/
def addressed (message : Message) (module : ModuleId) (host : HostId) : Message :=
  { message with header.destinationModule := module, header.destinationHost := host }

/-- The same message in the name of a module on a host. -/
def fromSource (message : Message) (module : ModuleId) (host : HostId) : Message :=
  { message with header.sourceModule := module, header.sourceHost := host }

/-- The bytes of the message, header first. -/
def encode (message : Message) (format : Format) (present : Timecode) : Bytes :=
  format.encodeHead present message.header message.timecode ++ message.payload

variable (α : Type) [Payload α]

/-- The payload as a record of the bus. -/
def decodePayload (message : Message) : Except ProtocolError α :=
  match Payload.decode α message.payload with
  | .ok payload => .ok payload
  | .error refusal =>
      .error (.sizeMismatch message.messageType refusal.expected refusal.got)

end Message

/-- Read what precedes a payload from a string that must have exactly its size.
No message type is known at that point, which the error shows as -1. -/
def readHead (format : Format) (bytes : Bytes) :
    Except ProtocolError (Header × Option Timecode) :=
  if bytes.length = format.size then .ok (format.decodeHead bytes)
  else .error (.sizeMismatch (-1) format.size bytes.length)

end MessageBus
