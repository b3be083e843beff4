import MessageBus.Message

namespace MessageBus

open Wire

/-!
# What a message asks of the manager

The manager reads the payload of eight message types and of no other; every
other message is somebody else's business and is `Request.other` to it.

A request is first held against the schemas, as its header announces it, and
only then is the payload read.  Two requests are taken without that: a
DISCONNECT, because nothing in it could change what it means, and a CONNECT of
four bytes, an older form of the handshake that knows only the two status
flags.  The older form has neither name nor process, and whoever uses it counts
as unique.
-/

/-- What a module says about itself when it connects. -/
structure ConnectRequest where
  /-- The number it wants; zero leaves the choice to the manager. -/
  requestedId : ModuleId
  logger : Bool
  daemon : Bool
  unique : Bool
  pid : Int32
  name : Option String
deriving DecidableEq, Repr

inductive Request where
  | connect (request : ConnectRequest)
  | disconnect
  | subscribe (messageType : MessageType)
  | unsubscribe (messageType : MessageType)
  | pause (messageType : MessageType)
  | resume (messageType : MessageType)
  | moduleReady (pid : Int32)
  | setName (name : String)
  | other
deriving DecidableEq, Repr

namespace Request

/-- The size of the older form of a CONNECT. -/
def legacyConnectSize : Nat := 4

/-- The older form: two status flags and nothing else. -/
def ofLegacyConnect (requestedId : ModuleId) (payload : Bytes) : ConnectRequest where
  requestedId
  logger := Layout.i16.decode (payload.take 2) != 0
  daemon := Layout.i16.decode (payload.drop 2) != 0
  unique := true
  pid := 0
  name := none

def ofConnect (requestedId : ModuleId) (payload : Connect) : ConnectRequest where
  requestedId
  logger := payload.isLogger
  daemon := payload.isDaemon
  unique := payload.isUnique
  pid := payload.pid
  name := payload.name?

/-- A payload of the given type, from a message that agrees with the schemas. -/
def checkedPayload (α : Type) [Payload α] (schemas : Schemas) (message : Message) :
    Except ProtocolError α := do
  schemas.validate message.header
  message.decodePayload α

/-- The types that ask something of the manager. -/
def isControl (messageType : MessageType) : Bool :=
  [MessageType.connect, MessageType.disconnect, MessageType.subscribe,
    MessageType.unsubscribe, MessageType.pauseSubscription, MessageType.resumeSubscription,
    MessageType.moduleReady, MessageType.clientSetName].contains messageType

/-- Understand a message, or say what is wrong with it. -/
def classify (schemas : Schemas) (message : Message) : Except ProtocolError Request :=
  let messageType := message.messageType
  let requestedId := message.header.sourceModule
  if messageType = MessageType.connect then
    if message.payload.length = legacyConnectSize then
      .ok (.connect (ofLegacyConnect requestedId message.payload))
    else do
      let payload ← checkedPayload Connect schemas message
      return .connect (ofConnect requestedId payload)
  else if messageType = MessageType.disconnect then
    .ok .disconnect
  else if messageType = MessageType.subscribe then do
    let payload ← checkedPayload Subscribe schemas message
    return .subscribe payload.messageType
  else if messageType = MessageType.unsubscribe then do
    let payload ← checkedPayload Unsubscribe schemas message
    return .unsubscribe payload.messageType
  else if messageType = MessageType.pauseSubscription then do
    let payload ← checkedPayload PauseSubscription schemas message
    return .pause payload.messageType
  else if messageType = MessageType.resumeSubscription then do
    let payload ← checkedPayload ResumeSubscription schemas message
    return .resume payload.messageType
  else if messageType = MessageType.moduleReady then do
    let payload ← checkedPayload ModuleReady schemas message
    return .moduleReady payload.pid
  else if messageType = MessageType.clientSetName then do
    let payload ← checkedPayload ClientSetName schemas message
    let name := payload.name.text
    if name.isEmpty then .error (.invalidName "empty name") else return .setName name
  else
    .ok .other

end Request

end MessageBus
