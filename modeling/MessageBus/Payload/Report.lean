import MessageBus.Payload.Request

namespace MessageBus

open Wire Text

/-!
# What the manager tells the modules

Notices about single modules and deliveries, and the periodic reports.  The
periodic ones have tables of fixed size: a slot per message type, per listed
type, or per module.
-/

/-- A message could not be handed to a module. -/
structure FailedMessage where
  destination : ModuleId
  reserved : Vector Int16 3
  failureTime : UInt64
  /-- The header of the message that was not delivered. -/
  failed : Header
deriving DecidableEq, Repr

instance : Payload FailedMessage where
  messageType := MessageType.failedMessage
  name := "FAILED_MESSAGE"
  record :=
    ((Record.field "dest_mod_id" (.scalar .i16)).followedBy <|
      (Record.field "reserved" (.array .i16 3 "3")).followedBy <|
      (Record.field "time_of_failure" (.scalar .f64)).followedBy <|
      Record.field "msg_header" .header).iso
      (fun (destination, reserved, failureTime, failed) =>
        { destination, reserved, failureTime, failed })
      (fun payload => (payload.destination, payload.reserved, payload.failureTime,
        payload.failed))
      (fun _ => rfl) (fun _ => rfl)

/-- How many messages of each type arrived in one period, and which process
holds each number. -/
structure Timing where
  counts : Vector UInt16 Limit.countedTypes
  pids : Vector Int32 Limit.modules
  sendTime : UInt64
deriving DecidableEq, Repr

instance : Payload Timing where
  messageType := MessageType.timing
  name := "TIMING_MESSAGE"
  record :=
    ((Record.field "timing" (.array .u16 Limit.countedTypes "MAX_MESSAGE_TYPES")).followedBy <|
      (Record.field "module_pid" (.array .i32 Limit.modules "MAX_MODULES")).followedBy <|
      Record.field "send_time" (.scalar .f64)).iso
      (fun (counts, pids, sendTime) => { counts, pids, sendTime })
      (fun payload => (payload.counts, payload.pids, payload.sendTime))
      (fun _ => rfl) (fun _ => rfl)

/-- One part of a traffic report.  Parts of one report share `sequence` and are
numbered by `part`. -/
structure Traffic where
  sequence : UInt32
  part : UInt32
  timestamp : UInt64
  duration : UInt64
  listed : UInt32
  reserved : UInt32
  types : Vector UInt32 Limit.trafficEntries
  counts : Vector UInt32 Limit.trafficEntries
deriving DecidableEq, Repr

instance : Payload Traffic where
  messageType := MessageType.traffic
  name := "MESSAGE_TRAFFIC"
  record :=
    ((Record.field "seq" (.scalar .u32)).followedBy <|
      (Record.field "sub_seq" (.scalar .u32)).followedBy <|
      (Record.field "timestamp" (.scalar .f64)).followedBy <|
      (Record.field "duration" (.scalar .f64)).followedBy <|
      (Record.field "num_msg_types" (.scalar .u32)).followedBy <|
      (Record.field "reserved" (.scalar .u32)).followedBy <|
      (Record.field "msg_type"
        (.array .u32 Limit.trafficEntries "MESSAGE_TRAFFIC_SIZE")).followedBy <|
      Record.field "msg_count" (.array .u32 Limit.trafficEntries "MESSAGE_TRAFFIC_SIZE")).iso
      (fun (sequence, part, timestamp, duration, listed, reserved, types, counts) =>
        { sequence, part, timestamp, duration, listed, reserved, types, counts })
      (fun payload => (payload.sequence, payload.part, payload.timestamp, payload.duration,
        payload.listed, payload.reserved, payload.types, payload.counts))
      (fun _ => rfl) (fun _ => rfl)

/-- The numbers and processes of all registered modules. -/
structure ActiveClients where
  timestamp : UInt64
  count : Int32
  reserved : Int32
  modules : Vector Int16 Limit.modules
  pids : Vector Int32 Limit.modules
deriving DecidableEq, Repr

instance : Payload ActiveClients where
  messageType := MessageType.activeClients
  name := "ACTIVE_CLIENTS"
  record :=
    ((Record.field "timestamp" (.scalar .f64)).followedBy <|
      (Record.field "num_clients" (.scalar .i32)).followedBy <|
      (Record.field "reserved" (.scalar .i32)).followedBy <|
      (Record.field "client_mod_id" (.array .i16 Limit.modules "MAX_MODULES")).followedBy <|
      Record.field "client_pid" (.array .i32 Limit.modules "MAX_MODULES")).iso
      (fun (timestamp, count, reserved, modules, pids) =>
        { timestamp, count, reserved, modules, pids })
      (fun payload => (payload.timestamp, payload.count, payload.reserved, payload.modules,
        payload.pids))
      (fun _ => rfl) (fun _ => rfl)

/-- A module has registered, or is listed in the directory. -/
structure ClientInfo where
  timestamp : UInt64
  pid : Int32
  module : ModuleId
  isLogger : UInt8
  isUnique : UInt8
  isDaemon : UInt8
  reserved : Vector UInt8 3
  port : Int32
  address : Text.Field Limit.addressWidth
  name : Text.Field Limit.nameWidth
deriving DecidableEq, Repr

instance : Payload ClientInfo where
  messageType := MessageType.clientInfo
  name := "CLIENT_INFO"
  record :=
    ((Record.field "timestamp" (.scalar .f64)).followedBy <|
      (Record.field "pid" (.scalar .i32)).followedBy <|
      (Record.field "mod_id" (.scalar .i16)).followedBy <|
      (Record.field "is_logger" (.scalar .u8)).followedBy <|
      (Record.field "is_unique" (.scalar .u8)).followedBy <|
      (Record.field "is_daemon" (.scalar .u8)).followedBy <|
      (Record.field "reserved" (.array .u8 3 "3")).followedBy <|
      (Record.field "port" (.scalar .i32)).followedBy <|
      (Record.field "addr" (textShape Limit.addressWidth "MAX_ADDRESS_LENGTH")).followedBy <|
      Payload.nameField).iso
      (fun (timestamp, pid, module, isLogger, isUnique, isDaemon, reserved, port, address,
          name) =>
        { timestamp, pid, module, isLogger, isUnique, isDaemon, reserved, port, address, name })
      (fun payload => (payload.timestamp, payload.pid, payload.module, payload.isLogger,
        payload.isUnique, payload.isDaemon, payload.reserved, payload.port, payload.address,
        payload.name))
      (fun _ => rfl) (fun _ => rfl)

/-- A registered module has left. -/
structure ClientClosed where
  timestamp : UInt64
  module : ModuleId
  reserved : Int16
  pid : Int32
  name : Text.Field Limit.nameWidth
deriving DecidableEq, Repr

instance : Payload ClientClosed where
  messageType := MessageType.clientClosed
  name := "CLIENT_CLOSED"
  record :=
    ((Record.field "timestamp" (.scalar .f64)).followedBy <|
      (Record.field "mod_id" (.scalar .i16)).followedBy <|
      (Record.field "reserved" (.scalar .i16)).followedBy <|
      (Record.field "pid" (.scalar .i32)).followedBy Payload.nameField).iso
      (fun (timestamp, module, reserved, pid, name) =>
        { timestamp, module, reserved, pid, name })
      (fun payload => (payload.timestamp, payload.module, payload.reserved, payload.pid,
        payload.name))
      (fun _ => rfl) (fun _ => rfl)

/-- A line of the manager's log. -/
structure ManagerLog where
  level : Int32
  reserved : Int32
  timestamp : UInt64
  text : Text.Field Limit.logWidth
deriving DecidableEq, Repr

namespace ManagerLog

instance : Payload ManagerLog where
  messageType := MessageType.managerLog
  name := "MM_LOG"
  record :=
    ((Record.field "level" (.scalar .i32)).followedBy <|
      (Record.field "reserved" (.scalar .i32)).followedBy <|
      (Record.field "timestamp" (.scalar .f64)).followedBy <|
      Record.field "message" (textShape Limit.logWidth "MAX_LOG_LENGTH")).iso
      (fun (level, reserved, timestamp, text) => { level, reserved, timestamp, text })
      (fun payload => (payload.level, payload.reserved, payload.timestamp, payload.text))
      (fun _ => rfl) (fun _ => rfl)

/-- A log line, cut to the room that a record has for it. -/
def ofLine (level : LogLevel) (timestamp : UInt64) (line : String) : ManagerLog where
  level := level.number
  reserved := 0
  timestamp
  text := Field.ofPrefix Limit.logWidth line

end ManagerLog

end MessageBus
