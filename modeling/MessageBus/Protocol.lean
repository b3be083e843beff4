import MessageBus.Wire.Header

namespace MessageBus

open Wire

/-!
# Reserved numbers

The numbers that every participant of a bus knows without being told: the
types of the messages that the manager itself reads or writes, the widths of
the text fields, and the bounds on identities.  All other message types belong
to applications, and the bus gives them no meaning.
-/

namespace MessageType

def exit : MessageType := 0
def kill : MessageType := 1
def acknowledge : MessageType := 2
def failSubscribe : MessageType := 6
def failedMessage : MessageType := 8
def connect : MessageType := 13
def disconnect : MessageType := 14
def subscribe : MessageType := 15
def unsubscribe : MessageType := 16
def moduleReady : MessageType := 26
def loggerExit : MessageType := 55
def saveMessageLog : MessageType := 56
def messageLogSaved : MessageType := 57
def timing : MessageType := 80
def forceDisconnect : MessageType := 82
def pauseSubscription : MessageType := 85
def resumeSubscription : MessageType := 86
def managerLog : MessageType := 87
def traffic : MessageType := 88
def activeClients : MessageType := 89
def clientInfo : MessageType := 90
def clientClosed : MessageType := 91
def clientSetName : MessageType := 92
def loggerReady : MessageType := 96

/-- Subscribing to this number subscribes to every type. -/
def everything : MessageType := 0x7FFFFFFF

/-- Types whose failed delivery is never reported.  A report about a failed
report would itself fail at the same place, so the chain has to end here. -/
def isFailureExempt (messageType : MessageType) : Bool :=
  messageType == failedMessage || messageType == managerLog

end MessageType

namespace ModuleId

/-- The manager's own number. -/
def manager : ModuleId := 0

/-- The first number that the manager hands out by itself, by default. -/
def dynamicStart : ModuleId := 100

/-- Whether a module may ask for this number by default. -/
def isStatic (id : ModuleId) : Bool :=
  1 <= id && id < dynamicStart

end ModuleId

namespace HostId

/-- The number that addresses every host at once. -/
def all : HostId := 0x7FFF

end HostId

namespace Limit

/-- No bus holds more modules than this. -/
def modules : Nat := 200

/-- Hosts are numbered up to this by default. -/
def hosts : HostId := 5

/-- Types below this number have a slot of their own in a timing report. -/
def countedTypes : Nat := 10000

/-- A client sends no payload larger than this. -/
def clientPayload : Nat := 9000

/-- A reader accepts no payload larger than this unless told otherwise. -/
def payload : Nat := 1048576

/-- The number of types that one traffic report lists. -/
def trafficEntries : Nat := 128

def nameWidth : Nat := 32
def logWidth : Nat := 256
def addressWidth : Nat := 64
def pathWidth : Nat := 256

end Limit

/-- How serious a line of the manager's log is. -/
inductive LogLevel where
  | debug | info | warning | error
deriving DecidableEq, Repr

namespace LogLevel

def number : LogLevel -> Int32
  | .debug => 10
  | .info => 20
  | .warning => 30
  | .error => 40

end LogLevel

end MessageBus
