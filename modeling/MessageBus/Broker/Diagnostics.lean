import MessageBus.Duration
import MessageBus.Module.Table
import MessageBus.Payload.Report

namespace MessageBus

open Wire

/-!
# Counting messages

Every message that arrives is counted under its type, twice: once for the timing
reports and once for the traffic reports, because either is due at times of its
own and starts again from nothing.  Negative types have no place in a report and
are not counted.

A timing report is a table with one slot per type and saturates.  A traffic
report lists the types that occurred, in parts of limited length.

A counter has 32 bits and begins again when it is full.  A tally knows the whole
number, of which a report sees as much as the counter does.
-/

/-- Numbers of messages by type, in ascending order of the types. -/
abbrev Tally := List (MessageType × Nat)

namespace Tally

/-- One message more. -/
def add (messageType : MessageType) : Tally -> Tally
  | [] => [(messageType, 1)]
  | (other, count) :: rest =>
      if messageType = other then (other, count + 1) :: rest
      else if messageType < other then (messageType, 1) :: (other, count) :: rest
      else (other, count) :: add messageType rest

def get (tally : Tally) (messageType : MessageType) : Nat :=
  (tally.lookup messageType).getD 0

end Tally

structure Diagnostics where
  timing : Tally := []
  traffic : Tally := []
  /-- The number of the last traffic report. -/
  trafficSequence : UInt32 := 0
  lastTiming : Milliseconds
  lastTraffic : Milliseconds
  lastDirectory : Milliseconds
deriving DecidableEq, Repr

namespace Diagnostics

/-- Nothing counted, and nothing due before its time from now. -/
def start (now : Milliseconds) : Diagnostics where
  lastTiming := now
  lastTraffic := now
  lastDirectory := now

def count (diagnostics : Diagnostics) (messageType : MessageType) : Diagnostics :=
  if messageType < 0 then diagnostics
  else { diagnostics with
    timing := Tally.add messageType diagnostics.timing
    traffic := Tally.add messageType diagnostics.traffic }

end Diagnostics

/-- Whether a period is over. -/
def isDue (last now period : Milliseconds) : Bool :=
  period <= now - last

/-- A table of numbers with some slots filled in; what has no slot is left out. -/
def fillSlots (start : Vector α size) (slots : List (Int × α)) : Vector α size :=
  slots.foldl
    (fun table (slot, value) => if slot < 0 then table else table.setIfInBounds slot.toNat value)
    start

namespace Timing

/-- What a slot shows of a count: above what it can hold, the most that it can hold. -/
def slotOf (count : Nat) : UInt16 :=
  UInt16.ofNat (min (UInt32.ofNat count).toNat 65535)

/-- The report on a tally.  Of several modules of one number the last one shows. -/
def ofTally (tally : Tally) (own : Int32) (modules : List Module) (sendTime : UInt64) :
    Timing where
  counts := fillSlots (Vector.replicate _ 0)
    (tally.map fun (messageType, count) => (messageType.toInt, slotOf count))
  pids := fillSlots (Vector.replicate _ 0)
    (((0 : Int), own) :: modules.map fun module => (module.id.toInt, module.pid))
  sendTime

end Timing

namespace Traffic

/-- A list in pieces of `size + 1`, except that the last may be shorter. -/
def pieces (size : Nat) : List α -> List (List α)
  | [] => []
  | head :: tail => (head :: tail.take size) :: pieces size (tail.drop size)
termination_by values => values.length

/-- One part of a report. -/
def ofPiece (sequence : UInt32) (timestamp duration : UInt64) (part : Nat) (piece : Tally) :
    Traffic where
  sequence
  part := UInt32.ofNat part
  timestamp
  duration
  listed := UInt32.ofNat piece.length
  reserved := 0
  types := fillSlots (Vector.replicate _ 0) (piece.zipIdx.map fun ((messageType, _), slot) =>
    ((slot : Int), messageType.toUInt32))
  counts := fillSlots (Vector.replicate _ 0) (piece.zipIdx.map fun ((_, count), slot) =>
    ((slot : Int), UInt32.ofNat count))

/-- All parts of the report on a tally; there is none on an empty one. -/
def ofTally (sequence : UInt32) (timestamp duration : UInt64) (tally : Tally) : List Traffic :=
  (pieces (Limit.trafficEntries - 1) tally).zipIdx.map fun (piece, part) =>
    ofPiece sequence timestamp duration part piece

end Traffic

namespace ClientInfo

/-- What the directory says about a module. -/
def ofModule (timestamp : UInt64) (module : Module) : ClientInfo where
  timestamp
  pid := module.pid
  module := module.id
  isLogger := module.isLogger.toUInt8
  isUnique := module.isUnique.toUInt8
  isDaemon := module.isDaemon.toUInt8
  reserved := Vector.replicate _ 0
  port := Int32.ofNat module.peer.port.toNat
  address := Text.Field.ofPrefix Limit.addressWidth module.peer.ip.text
  name := Text.Field.ofPrefix Limit.nameWidth (module.name.getD "")

end ClientInfo

namespace ClientClosed

/-- The notice that a module has left. -/
def ofModule (timestamp : UInt64) (module : Module) : ClientClosed where
  timestamp
  module := module.id
  reserved := 0
  pid := module.pid
  name := Text.Field.ofPrefix Limit.nameWidth (module.name.getD "")

end ClientClosed

namespace ActiveClients

/-- The list of the given modules, as far as there is room. -/
def ofModules (timestamp : UInt64) (modules : List Module) : ActiveClients :=
  let listed := modules.take Limit.modules
  { timestamp
    count := Int32.ofNat listed.length
    reserved := 0
    modules := fillSlots (Vector.replicate _ 0)
      (listed.zipIdx.map fun (module, slot) => ((slot : Int), module.id))
    pids := fillSlots (Vector.replicate _ 0)
      (listed.zipIdx.map fun (module, slot) => ((slot : Int), module.pid)) }

end ActiveClients

end MessageBus
