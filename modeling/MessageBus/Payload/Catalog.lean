import MessageBus.Payload.Report

namespace MessageBus

open Wire

/-!
# The catalogue of payloads

All payload types that the bus defines, in one list.  An entry remembers a type
together with its `Payload` instance, so what is said of `Payload` can be said
of every entry, and a payload can be looked up by the name that a peer knows it
by.
-/

/-- Some payload type. -/
structure PayloadKind where
  carrier : Type
  payload : Payload carrier

namespace PayloadKind

def of (α : Type) [payload : Payload α] : PayloadKind := ⟨α, payload⟩

def messageType (kind : PayloadKind) : MessageType := kind.payload.messageType

def name (kind : PayloadKind) : String := kind.payload.name

def fields (kind : PayloadKind) : List Field := kind.payload.record.fields

def size (kind : PayloadKind) : Nat := kind.payload.record.size

def definition (kind : PayloadKind) : String :=
  Record.definition kind.name kind.fields

/-- Every payload of the bus. -/
def all : List PayloadKind :=
  [of Connect, of Subscribe, of Unsubscribe, of PauseSubscription, of ResumeSubscription,
    of ModuleReady, of ClientSetName, of FailedMessage, of FailSubscribe, of ForceDisconnect,
    of SaveMessageLog, of Timing, of Traffic, of ActiveClients, of ClientInfo,
    of ClientClosed, of ManagerLog]

def named? (name : String) : Option PayloadKind :=
  all.find? (·.name == name)

def ofMessageType? (messageType : MessageType) : Option PayloadKind :=
  all.find? (·.messageType == messageType)

end PayloadKind

end MessageBus
