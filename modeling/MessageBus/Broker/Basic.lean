import MessageBus.Broker.Diagnostics
import MessageBus.Broker.Outbound
import MessageBus.Config.Basic
import MessageBus.Module.Admission

namespace MessageBus

open Wire

/-!
# The broker

The broker is everything that the manager knows, and what it does is a function
from one state to the next.  It has neither sockets nor a clock.  The frames that
it wants delivered stand in its outbox, the connections that it wants closed in
`closings`, and the present time is whatever its surroundings have last written
into `clock`.

Nothing is delivered from here.  A reaction to a message only puts frames into
the outbox, so all that follows from the message is decided before the first of
its frames goes out.
-/

/-- How a connection is to be closed. -/
inductive Farewell where
  /-- What is queued is still written. -/
  | flushed
  /-- Everything stops at once. -/
  | abrupt
deriving DecidableEq, Repr

/-- Why a module leaves. -/
inductive Departure where
  | disconnected
  | refused (cause : Rejection)
  | lost (cause : String)
deriving DecidableEq, Repr

namespace Departure

def farewell : Departure -> Farewell
  | .disconnected => .flushed
  | .refused _ | .lost _ => .abrupt

/-- What the log says about it. -/
def announcement? (departure : Departure) (module : Module) : Option (LogLevel × String) :=
  match departure with
  | .disconnected => none
  | .refused cause =>
      some (.warning, s!"CONNECT refused for {module.peer.text}: {cause.message}")
  | .lost cause => some (.error, s!"Connection lost for {module.label}: {cause}")

end Departure

structure Broker where
  config : Config
  /-- The process that the broker is, for the timing reports. -/
  pid : Int32
  clock : ClockReading
  schemas : Schemas
  identities : IdentityPool
  diagnostics : Diagnostics
  modules : ModuleTable := {}
  subscriptions : Subscriptions := {}
  /-- The frames to be delivered, the next one first. -/
  outbox : List Pending := []
  /-- The connections to be closed, in the order in which that was decided. -/
  closings : List (Handle × Farewell) := []
deriving DecidableEq, Repr

namespace Broker

/-- A broker that nobody has connected to yet. -/
def start (config : Config) (pid : Int32) (clock : ClockReading) (now : Milliseconds) :
    Except ConfigError Broker := do
  config.validate
  return {
    config
    pid
    clock
    schemas := config.knownSchemas
    identities := IdentityPool.new config.identity.dynamicStart config.identity.maxModules
    diagnostics := Diagnostics.start now }

/-! ## Filling the outbox -/

/-- Put a message of the broker's own into the outbox. -/
def publish (broker : Broker) (message : Message) (route : Route) : Broker :=
  let message := message.fromSource ModuleId.manager broker.config.manager.hostId
  let frame := message.encode broker.config.format broker.clock.timecode
  { broker with outbox := broker.outbox ++ [⟨message.header, ⟨.originated, frame⟩, route⟩] }

/-- Tell every subscriber. -/
def publishPayload [Payload α] (broker : Broker) (payload : α) : Broker :=
  broker.publish (Message.ofPayload broker.clock payload) .subscribers

def publishPayloads [Payload α] (broker : Broker) (payloads : List α) : Broker :=
  payloads.foldl publishPayload broker

def publishLog (broker : Broker) (level : LogLevel) (line : String) : Broker :=
  broker.publishPayload (ManagerLog.ofLine level broker.clock.seconds line)

def publishClientInfo (broker : Broker) (handle : Handle) : Broker :=
  match broker.modules.get? handle with
  | none => broker
  | some module => broker.publishPayload (ClientInfo.ofModule broker.clock.seconds module)

/-- Tell a module, and only it, that its request was carried out. -/
def acknowledge (broker : Broker) (handle : Handle) : Broker :=
  match broker.modules.get? handle with
  | none => broker
  | some module =>
      let message := Message.signal broker.clock MessageType.acknowledge
      broker.publish (message.addressed module.id 0) (.direct handle)

/-- Report that a message could not be handed to the module of a number, unless
a report about it would start a chain of reports. -/
def notifyFailure (broker : Broker) (destination : ModuleId) (failed : Header) : Broker :=
  if MessageType.isFailureExempt failed.messageType then broker
  else
    let counted :=
      { broker with diagnostics := broker.diagnostics.count MessageType.failedMessage }
    counted.publishPayload
      { destination
        reserved := Vector.replicate _ 0
        failureTime := broker.clock.seconds
        failed : FailedMessage }

/-! ## Connections that come and go -/

/-- Take in a connection, and give it a handle. -/
def attach (broker : Broker) (peer : SocketAddress) : Handle × Broker :=
  let (handle, modules) := broker.modules.insert peer
  (handle, { broker with modules })

/-- Take a handle out of every list that it may be in. -/
def forget (broker : Broker) (handle : Handle) : Broker :=
  { broker with
    modules := broker.modules.remove handle
    subscriptions := broker.subscriptions.remove handle }

/-- Forget a connection and tell about it.  A handle that is not in use names
nobody, and nothing is told. -/
def remove (broker : Broker) (handle : Handle) (departure : Departure) : Broker :=
  let left := broker.forget handle
  match broker.modules.get? handle with
  | none => left
  | some module =>
      let closed := { left with closings := left.closings ++ [(handle, departure.farewell)] }
      let logged := match departure.announcement? module with
        | none => closed
        | some (level, line) => closed.publishLog level line
      if module.isRegistered then
        logged.publishPayload (ClientClosed.ofModule broker.clock.seconds module)
      else logged

/-- A connection broke off. -/
def lose (broker : Broker) (handle : Handle) (cause : String) : Broker :=
  broker.remove handle (.lost cause)

/-- End all connections after writing what is queued for them. -/
def shutDown (broker : Broker) : Broker :=
  let handles := broker.modules.modules.map Module.handle
  { broker with
    modules := handles.foldl ModuleTable.remove broker.modules
    subscriptions := handles.foldl Subscriptions.remove broker.subscriptions
    outbox := []
    closings := broker.closings ++ handles.map fun handle => (handle, .flushed) }

end Broker

end MessageBus
