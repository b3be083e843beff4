import MessageBus.Broker.Basic

namespace MessageBus

open Wire Text

/-!
# Reacting to messages

A connection that has not been let in can do two things: ask to be let in, and
leave.  Everything else that it sends is dropped without a word.  A module that
has been let in can do the rest; what the manager has no use for it passes on.

A message that disagrees with the schemas is dropped and leaves a line in the
log, whoever sent it.  It never costs the sender the connection, because its
frame was intact.
-/

namespace Broker

/-- Leave a line in the log about a message that is dropped. -/
def reportMismatch (broker : Broker) (handle : Handle) (error : ProtocolError) : Broker :=
  let source := match broker.modules.get? handle with
    | some module => module.label
    | none => s!"#{handle}"
  broker.publishLog .warning s!"Dropping message from {source}: {error.message}"

/-- Let a connection in, or turn it away. -/
def connect (broker : Broker) (handle : Handle) (request : ConnectRequest) : Broker :=
  let dynamicStart := broker.config.identity.dynamicStart
  let (answer, identities) :=
    broker.modules.chooseId broker.identities handle request dynamicStart
  let broker := { broker with identities }
  match answer with
  | .error cause => broker.remove handle (.refused cause)
  | .ok id =>
      let registered := broker.modules.register handle id request.logger
      let modules := registered.modify handle fun module =>
        { module with
          name := request.name
          pid := request.pid
          isDaemon := request.daemon
          isUnique := request.unique }
      ({ broker with modules }.acknowledge handle).publishClientInfo handle

/-- Give a module another name, unless it wants the name for itself and another
module has it. -/
def rename (broker : Broker) (handle : Handle) (name : String) : Broker :=
  match broker.modules.get? handle with
  | none => broker
  | some module =>
      if module.isUnique && (broker.modules.uniqueHolderOfName? name handle).isSome then
        broker.publishLog .warning
          (s!"SET_NAME refused for {module.label}: {quoted name}" ++
            " is held by another unique module")
      else
        let modules := broker.modules.modify handle fun module =>
          { module with name := some name }
        ({ broker with modules }.acknowledge handle).publishClientInfo handle

def subscribe (broker : Broker) (handle : Handle) (messageType : MessageType) : Broker :=
  { broker with
    subscriptions := (broker.subscriptions.subscribe handle messageType).2 }.acknowledge handle

def unsubscribe (broker : Broker) (handle : Handle) (messageType : MessageType) : Broker :=
  { broker with
    subscriptions := (broker.subscriptions.unsubscribe handle messageType).2 }.acknowledge handle

/-- Whether somebody could be meant by a header's destination. -/
def isValidDestination (broker : Broker) (header : Header) : Bool :=
  let identity := broker.config.identity
  0 <= header.destinationModule && header.destinationModule <= identity.maxModules &&
    ((0 <= header.destinationHost && header.destinationHost <= identity.maxHosts) ||
      header.destinationHost == HostId.all)

/-- Put a module's message into the outbox as it came. -/
def forward (broker : Broker) (message : Message) : Broker :=
  if broker.isValidDestination message.header then
    let frame := message.encode broker.config.format broker.clock.timecode
    { broker with
      outbox := broker.outbox ++ [⟨message.header, ⟨.forwarded, frame⟩, .subscribers⟩] }
  else broker

/-- Do what a registered module asks for. -/
def serve (broker : Broker) (handle : Handle) (message : Message) : Request -> Broker
  | .connect _ => broker
  | .disconnect => broker.remove handle .disconnected
  | .subscribe messageType | .resume messageType => broker.subscribe handle messageType
  | .unsubscribe messageType | .pause messageType => broker.unsubscribe handle messageType
  | .moduleReady pid =>
      { broker with modules := broker.modules.modify handle fun module => { module with pid } }
  | .setName name => broker.rename handle name
  | .other =>
      match broker.schemas.validate message.header with
      | .error error => broker.reportMismatch handle error
      | .ok _ => broker.forward message

/-- Do what a connection asks for that has not been let in. -/
def greet (broker : Broker) (handle : Handle) : Request -> Broker
  | .connect request => broker.connect handle request
  | .disconnect => broker.remove handle .disconnected
  | _ => broker

/-- React to a message. -/
def dispatch (broker : Broker) (handle : Handle) (message : Message) : Broker :=
  match Request.classify broker.schemas message with
  | .error error => broker.reportMismatch handle error
  | .ok request =>
      if broker.modules.isRegistered handle then broker.serve handle message request
      else broker.greet handle request

/-- Count a message and react to it.  Messages of connections that are gone do
not exist. -/
def receive (broker : Broker) (handle : Handle) (message : Message) : Broker :=
  if broker.modules.contains handle then
    { broker with
      diagnostics := broker.diagnostics.count message.messageType }.dispatch handle message
  else broker

end Broker

end MessageBus
