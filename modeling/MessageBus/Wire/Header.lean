import MessageBus.Wire.Layout

namespace MessageBus
namespace Wire

/-!
# Message headers

Every message begins with the same 48 bytes: what it is, where it comes from
and where it goes, when it was sent and received, and how many bytes of payload
follow.  A bus may run all of its connections in a second format, in which an
eight-byte UTC timecode stands between the header and the payload; the header
itself is the same in both.

A header is what a peer wrote, so no field of it can be trusted to make sense.
In particular the payload length is a signed number.  `payloadLength` reads a
negative one as no payload, and the places that must not overlook a negative
length test the field itself.
-/

/-- The number that says what a message is. -/
abbrev MessageType := Int32

/-- The number that names a module on the bus; zero is the manager itself. -/
abbrev ModuleId := Int16

/-- The number that names a host. -/
abbrev HostId := Int16

structure Header where
  messageType : MessageType := 0
  /-- The sender's running number, stamped immediately before transmission. -/
  messageCount : Int32 := 0
  /-- Seconds since the Unix epoch at the sender, as bits. -/
  sendTime : UInt64 := 0
  /-- Seconds since the Unix epoch at the receiver, as bits, filled in by it. -/
  receiveTime : UInt64 := 0
  sourceHost : HostId := 0
  sourceModule : ModuleId := 0
  destinationHost : HostId := 0
  destinationModule : ModuleId := 0
  dataBytes : Int32 := 0
  remainingBytes : Int32 := 0
  isDynamic : Int32 := 0
  /-- The hash of the payload's definition; zero says nothing about it. -/
  version : Int32 := 0
deriving DecidableEq, Repr

namespace Header

def layout : Layout Header :=
  (Layout.i32.pair <| Layout.i32.pair <| Layout.f64.pair <| Layout.f64.pair <|
    Layout.i16.pair <| Layout.i16.pair <| Layout.i16.pair <| Layout.i16.pair <|
    Layout.i32.pair <| Layout.i32.pair <| Layout.i32.pair Layout.i32).iso
    (fun (messageType, messageCount, sendTime, receiveTime, sourceHost, sourceModule,
        destinationHost, destinationModule, dataBytes, remainingBytes, isDynamic, version) =>
      { messageType, messageCount, sendTime, receiveTime, sourceHost, sourceModule,
        destinationHost, destinationModule, dataBytes, remainingBytes, isDynamic, version })
    (fun header =>
      (header.messageType, header.messageCount, header.sendTime, header.receiveTime,
        header.sourceHost, header.sourceModule, header.destinationHost,
        header.destinationModule, header.dataBytes, header.remainingBytes,
        header.isDynamic, header.version))
    (fun _ => rfl) (fun _ => rfl)

theorem size_layout : layout.size = 48 := rfl

/-- How many bytes of payload the header announces; a negative number announces none. -/
def payloadLength (header : Header) : Nat :=
  header.dataBytes.toInt.toNat

/-- Whether the message is for every subscriber rather than for one module. -/
def isBroadcast (header : Header) : Bool :=
  header.destinationModule == 0

end Header

/-- A point of UTC as whole seconds and a fraction in units of 2^-32 seconds. -/
structure Timecode where
  seconds : UInt32 := 0
  fraction : UInt32 := 0
deriving DecidableEq, Repr

namespace Timecode

def layout : Layout Timecode :=
  (Layout.u32.pair Layout.u32).iso
    (fun (seconds, fraction) => { seconds, fraction })
    (fun timecode => (timecode.seconds, timecode.fraction))
    (fun _ => rfl) (fun _ => rfl)

theorem size_layout : layout.size = 8 := rfl

end Timecode

/-- One look at the wall clock, in the two forms that messages carry. -/
structure ClockReading where
  /-- Seconds since the Unix epoch, as bits. -/
  seconds : UInt64 := 0
  timecode : Timecode := {}
deriving DecidableEq, Repr

/-- The two shapes of what precedes a payload. -/
inductive Format where
  | standard
  | timecode
deriving DecidableEq, Repr

namespace Format

def ofTimecodeFlag (timecode : Bool) : Format :=
  if timecode then .timecode else .standard

def hasTimecode : Format -> Bool
  | .standard => false
  | .timecode => true

/-- The number of bytes in front of the payload. -/
def size : Format -> Nat
  | .standard => Header.layout.size
  | .timecode => Header.layout.size + Timecode.layout.size

/-- What precedes the payload.  A message without a timecode of its own is
given the present one where the format has a place for it. -/
def encodeHead (format : Format) (present : Timecode) (header : Header)
    (timecode : Option Timecode) : Bytes :=
  match format with
  | .standard => Header.layout.encode header
  | .timecode =>
      Header.layout.encode header ++ Timecode.layout.encode (timecode.getD present)

/-- Read what precedes the payload; meaningful on exactly `format.size` bytes. -/
def decodeHead (format : Format) (bytes : Bytes) : Header × Option Timecode :=
  match format with
  | .standard => (Header.layout.decode bytes, none)
  | .timecode =>
      (Header.layout.decode (bytes.take Header.layout.size),
        some (Timecode.layout.decode (bytes.drop Header.layout.size)))

end Format

/-- Where the running number stands in an encoded header. -/
def messageCountOffset : Nat := 4

/-- An encoded frame with its running number replaced.  Anything too short to
hold one is left alone. -/
def stampMessageCount (frame : Bytes) (count : Int32) : Bytes :=
  if messageCountOffset + Layout.i32.size <= frame.length then
    frame.take messageCountOffset ++ Layout.i32.encode count ++
      frame.drop (messageCountOffset + Layout.i32.size)
  else frame

end Wire
end MessageBus
