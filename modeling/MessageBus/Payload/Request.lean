import MessageBus.Payload.Basic

namespace MessageBus

open Wire Text

/-!
# What modules send to the manager

The payloads of the eight requests that the manager understands, and of three
that concern it but that it only passes on.  The record of each type lists its
fields in wire order; everything else about the payload follows from that list.
-/

namespace Payload

/-- The record of a text field that holds a module's name. -/
def nameField : Record (Text.Field Limit.nameWidth) :=
  Record.field "name" (textShape Limit.nameWidth "MAX_NAME_LENGTH")

end Payload

/-- The first message of every module.  A non-zero source in the header that
carries it asks for that number. -/
structure Connect where
  loggerStatus : Int16
  daemonStatus : Int16
  /-- Zero marks the module as the only one of its number and name. -/
  allowMultiple : Int16
  reserved : Int16
  pid : Int32
  name : Text.Field Limit.nameWidth
deriving DecidableEq, Repr

namespace Connect

instance : Payload Connect where
  messageType := MessageType.connect
  name := "CONNECT"
  record :=
    ((Record.field "logger_status" (.scalar .i16)).followedBy <|
      (Record.field "daemon_status" (.scalar .i16)).followedBy <|
      (Record.field "allow_multiple" (.scalar .i16)).followedBy <|
      (Record.field "reserved" (.scalar .i16)).followedBy <|
      (Record.field "pid" (.scalar .i32)).followedBy Payload.nameField).iso
      (fun (loggerStatus, daemonStatus, allowMultiple, reserved, pid, name) =>
        { loggerStatus, daemonStatus, allowMultiple, reserved, pid, name })
      (fun payload => (payload.loggerStatus, payload.daemonStatus, payload.allowMultiple,
        payload.reserved, payload.pid, payload.name))
      (fun _ => rfl) (fun _ => rfl)

/-- The request of a module that presents itself; fails only on a long name. -/
def ofFlags? (logger daemon unique : Bool) (pid : Int32) (name : String) :
    Except TooLong Connect := do
  let name ← Field.ofText? Limit.nameWidth name
  return {
    loggerStatus := if logger then 1 else 0
    daemonStatus := if daemon then 1 else 0
    allowMultiple := if unique then 0 else 1
    reserved := 0
    pid
    name }

def isLogger (payload : Connect) : Bool := payload.loggerStatus != 0

def isDaemon (payload : Connect) : Bool := payload.daemonStatus != 0

def isUnique (payload : Connect) : Bool := payload.allowMultiple == 0

/-- The announced name; an empty field announces none. -/
def name? (payload : Connect) : Option String :=
  let text := payload.name.text
  if text.isEmpty then none else some text

end Connect

/-- The record of a payload that consists of one message type. -/
private def typeRecord : Record Int32 :=
  Record.field "msg_type" (.scalar .i32)

structure Subscribe where
  messageType : MessageType
deriving DecidableEq, Repr

instance : Payload Subscribe where
  messageType := MessageType.subscribe
  name := "SUBSCRIBE"
  record := typeRecord.iso Subscribe.mk Subscribe.messageType (fun _ => rfl) (fun _ => rfl)

structure Unsubscribe where
  messageType : MessageType
deriving DecidableEq, Repr

instance : Payload Unsubscribe where
  messageType := MessageType.unsubscribe
  name := "UNSUBSCRIBE"
  record := typeRecord.iso Unsubscribe.mk Unsubscribe.messageType (fun _ => rfl) (fun _ => rfl)

structure PauseSubscription where
  messageType : MessageType
deriving DecidableEq, Repr

instance : Payload PauseSubscription where
  messageType := MessageType.pauseSubscription
  name := "PAUSE_SUBSCRIPTION"
  record := typeRecord.iso PauseSubscription.mk PauseSubscription.messageType
    (fun _ => rfl) (fun _ => rfl)

structure ResumeSubscription where
  messageType : MessageType
deriving DecidableEq, Repr

instance : Payload ResumeSubscription where
  messageType := MessageType.resumeSubscription
  name := "RESUME_SUBSCRIPTION"
  record := typeRecord.iso ResumeSubscription.mk ResumeSubscription.messageType
    (fun _ => rfl) (fun _ => rfl)

/-- A module tells under which process it runs. -/
structure ModuleReady where
  pid : Int32
deriving DecidableEq, Repr

instance : Payload ModuleReady where
  messageType := MessageType.moduleReady
  name := "MODULE_READY"
  record := (Record.field "pid" (.scalar .i32)).iso ModuleReady.mk ModuleReady.pid
    (fun _ => rfl) (fun _ => rfl)

structure ClientSetName where
  name : Text.Field Limit.nameWidth
deriving DecidableEq, Repr

instance : Payload ClientSetName where
  messageType := MessageType.clientSetName
  name := "CLIENT_SET_NAME"
  record := Payload.nameField.iso ClientSetName.mk ClientSetName.name
    (fun _ => rfl) (fun _ => rfl)

/-- A subscription was refused. -/
structure FailSubscribe where
  module : ModuleId
  reserved : Int16
  messageType : MessageType
deriving DecidableEq, Repr

instance : Payload FailSubscribe where
  messageType := MessageType.failSubscribe
  name := "FAIL_SUBSCRIBE"
  record :=
    ((Record.field "mod_id" (.scalar .i16)).followedBy <|
      (Record.field "reserved" (.scalar .i16)).followedBy typeRecord).iso
      (fun (module, reserved, messageType) => { module, reserved, messageType })
      (fun payload => (payload.module, payload.reserved, payload.messageType))
      (fun _ => rfl) (fun _ => rfl)

structure ForceDisconnect where
  module : Int32
deriving DecidableEq, Repr

instance : Payload ForceDisconnect where
  messageType := MessageType.forceDisconnect
  name := "FORCE_DISCONNECT"
  record := (Record.field "mod_id" (.scalar .i32)).iso ForceDisconnect.mk ForceDisconnect.module
    (fun _ => rfl) (fun _ => rfl)

/-- A logger is asked to write its log to a file. -/
structure SaveMessageLog where
  pathname : Text.Field Limit.pathWidth
  pathnameLength : Int32
deriving DecidableEq, Repr

instance : Payload SaveMessageLog where
  messageType := MessageType.saveMessageLog
  name := "SAVE_MESSAGE_LOG"
  record :=
    ((Record.field "pathname"
        (textShape Limit.pathWidth "MAX_LOGGER_FILENAME_LENGTH")).followedBy <|
      Record.field "pathname_length" (.scalar .i32)).iso
      (fun (pathname, pathnameLength) => { pathname, pathnameLength })
      (fun payload => (payload.pathname, payload.pathnameLength))
      (fun _ => rfl) (fun _ => rfl)

end MessageBus
