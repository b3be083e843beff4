import MessageBus.Address
import MessageBus.Client.Error
import MessageBus.Index
import MessageBus.Message
import MessageBus.Payload.Request

namespace MessageBus

open Wire

/-!
# The client

A client is a module's end of its connection to the manager.  Like the broker it
has neither sockets nor a clock: what the stream from the manager brings lies in
the inbox of its line, and what it wants written is returned to whoever runs it.

Messages can be out of the inbox and yet unread.  While the client waits for an
acknowledgement it takes whatever comes, and what is not an acknowledgement goes
to `pending`.  From there it is read before anything in the inbox, so a wait
changes nothing about the order in which messages are read.  Pending messages
were checked when they were taken; they survive the end of the line and are not
checked again.
-/

structure ClientSettings where
  /-- The number to ask for; zero leaves the choice to the manager. -/
  moduleId : ModuleId := 0
  hostId : HostId := 0
  format : Format := .standard
  ackTimeout : Milliseconds := 3000
  /-- Whether what arrives is compared with the schemas. -/
  isChecking : Bool := false
  schemas : Schemas := .core
  maxPayload : Nat := Limit.payload
deriving DecidableEq, Repr

/-- How a module presents itself to the manager. -/
structure Introduction where
  isLogger : Bool := false
  isDaemon : Bool := false
  /-- No other module may have the same number or name. -/
  isUnique : Bool := true
  name : String := ""
deriving DecidableEq, Repr

/-- What a stream brings. -/
inductive Arrival where
  | message (message : Message)
  | failure (error : ProtocolError)
deriving DecidableEq, Repr

/-- An open connection. -/
structure Line where
  server : SocketAddress
  /-- What has arrived and was not taken, the oldest first. -/
  inbox : List Arrival := []
deriving DecidableEq, Repr

structure Client where
  settings : ClientSettings
  /-- The process that the client announces. -/
  pid : Int32
  clock : ClockReading
  moduleId : ModuleId
  isLogger : Bool := false
  /-- The number of the next message. -/
  messageCount : Int32 := 0
  line : Option Line := none
  subscribed : List MessageType := []
  paused : List MessageType := []
  /-- Messages taken while waiting for something else, the oldest first. -/
  pending : List Message := []
deriving DecidableEq, Repr

/-- What a client thinks of a type. -/
inductive Standing where
  | subscribed
  | paused
  | unknown
deriving DecidableEq, Repr

namespace Client

/-- A client that has not connected yet. -/
def start (settings : ClientSettings) (pid : Int32) (clock : ClockReading) :
    Except ClientError Client :=
  if 0 <= settings.moduleId && settings.moduleId < ModuleId.dynamicStart then
    .ok { settings, pid, clock, moduleId := settings.moduleId }
  else .error (.invalidModuleId settings.moduleId ModuleId.dynamicStart)

def isConnected (client : Client) : Bool :=
  client.line.isSome

/-- The client as a reader of a log is to see it. -/
def label (client : Client) : String :=
  match client.line with
  | some line => s!"Client(module_id={client.moduleId}, server={line.server.text})"
  | none => s!"Client(module_id={client.moduleId}, disconnected)"

/-! ## Its line -/

/-- The client without its line. -/
def letGo (client : Client) : Client :=
  { client with line := none }

/-- The client with a new line. -/
def pickUp (client : Client) (server : SocketAddress) : Client :=
  { client with line := some { server } }

/-- Put what the stream brought into the inbox. -/
def deliver (client : Client) (arrivals : List Arrival) : Client :=
  { client with
    line := client.line.map fun line => { line with inbox := line.inbox ++ arrivals } }

/-- The client after a goodbye: nothing of the connection is left. -/
def hangUp (client : Client) : Client :=
  { client with line := none, subscribed := [], paused := [], pending := [] }

/-- The client as it is before it presents itself on a new line.  A number that
the manager has chosen is given back, one that was asked for is kept. -/
def present (client : Client) (introduction : Introduction) : Client :=
  { client with
    moduleId := if client.settings.moduleId = 0 then 0 else client.moduleId
    isLogger := introduction.isLogger }

/-- The client once the manager has let it in: without a number of its own it
takes the one that the acknowledgement is addressed to. -/
def enroll (client : Client) (acknowledgement : Message) : Client :=
  { client with
    moduleId :=
      if client.moduleId = 0 then acknowledgement.header.destinationModule else client.moduleId
    subscribed := []
    paused := [] }

/-! ## What it wants -/

/-- Take note of a type's standing. -/
def mark (client : Client) (messageType : MessageType) (standing : Standing) : Client :=
  let without (types : List MessageType) := types.filter (· ≠ messageType)
  match standing with
  | .subscribed =>
      { client with
        subscribed := Ascending.insert messageType client.subscribed
        paused := without client.paused }
  | .paused =>
      { client with
        subscribed := without client.subscribed
        paused := Ascending.insert messageType client.paused }
  | .unknown =>
      { client with
        subscribed := without client.subscribed
        paused := without client.paused }

/-- Whether the client wants to see messages of a type. -/
def accepts (client : Client) (messageType : MessageType) : Bool :=
  client.isLogger || client.subscribed.contains messageType ||
    client.subscribed.contains MessageType.everything

/-! ## What it sends -/

/-- Whether a module can be addressed by this number. -/
def isModuleAddress (module : ModuleId) : Bool :=
  0 <= module && module <= Int16.ofNat Limit.modules

/-- Whether a host can be addressed by this number. -/
def isHostAddress (host : HostId) : Bool :=
  (0 <= host && host <= Limit.hosts) || host == HostId.all

/-- The message as it would be sent now. -/
def stamp (client : Client) (message : Message) (module : ModuleId) (host : HostId) : Message :=
  let message := (message.fromSource client.moduleId client.settings.hostId).addressed module host
  { message with header.messageCount := client.messageCount }

/-- The frame of a message, unless it must not be sent. -/
def frame (client : Client) (message : Message) (module : ModuleId) (host : HostId) :
    Except ClientError Bytes :=
  if !client.isConnected then .error .notConnected
  else if !isModuleAddress module then .error (.invalidDestinationModule module)
  else if !isHostAddress host then .error (.invalidDestinationHost host)
  else if Limit.clientPayload < message.payload.length then
    .error (.payloadTooLarge message.payload.length Limit.clientPayload)
  else
    .ok ((client.stamp message module host).encode client.settings.format client.clock.timecode)

/-- The client after a frame was written. -/
def advance (client : Client) : Client :=
  { client with messageCount := client.messageCount + 1 }

end Client

end MessageBus
