import MessageBus.Broker.Batch
import MessageBus.Broker.Delivery
import MessageBus.Broker.Writer
import MessageBus.Frame.Reader

namespace MessageBus

open Wire

/-!
# The manager at work

A service is a broker with everything around it that a broker does not want to
know about: a reader and a writer for each connection, a channel through which
the readers and writers tell what has happened, and a loop that takes events from
the channel and lets the broker react.

The loop wakes up for a new connection, for a batch of events, and at every poll.
After each of these it asks for the reports that are due.  Everything that it has
to do then stands in its agenda, because it may have to interrupt its work: when
a logger has no room, the delivery stays where it is until there is room or the
time is over, and nothing else happens in the loop.  Readers and writers go on
meanwhile, which is how room comes about.

The channel is bounded.  Whoever has an event for a full channel waits in line
with it and does nothing else, so a manager that is behind stops reading.
-/

/-- What the loop still has to do. -/
inductive Duty where
  | handle (event : Event)
  | report
deriving DecidableEq, Repr

/-- Which of the two ends of a connection's work. -/
inductive Worker where
  | reader
  | writer
deriving DecidableEq, Repr

structure Connection where
  handle : Handle
  /-- Which stream it is. -/
  link : Nat
  /-- None once nothing more is read. -/
  reader : Option Frame.Reader
  writer : Writer := {}
  /-- Nothing more will be queued. -/
  isEnding : Bool := false
  /-- The stream has failed, and nothing more is written. -/
  isBroken : Bool := false
deriving DecidableEq, Repr

/-- A delivery that stands still, and how long it may. -/
structure Standstill where
  sweep : Sweep
  deadline : Option Milliseconds
deriving DecidableEq, Repr

structure Service where
  broker : Broker
  connections : List Connection := []
  /-- Connections that have not been accepted, with their peers. -/
  backlog : List (Nat × SocketAddress) := []
  /-- How many attempts to accept a connection are going to fail. -/
  failedAccepts : Nat := 0
  channel : List Event := []
  /-- Events in line for the channel. -/
  line : List (Worker × Event) := []
  agenda : List Duty := []
  standstill : Option Standstill := none
  nextPoll : Milliseconds := 0
  /-- The streams of connections that were cut off. -/
  severed : List Nat := []
  isStopping : Bool := false
  isStopped : Bool := false

namespace Service

def settings (service : Service) : DeliverySettings :=
  service.broker.config.delivery

/-! ## The channel -/

/-- How many events the channel takes at once. -/
def room (service : Service) : Nat :=
  if service.line.isEmpty then service.settings.eventQueueDepth - service.channel.length else 0

/-- Bring events to the channel, and stand in line with those it does not take. -/
def post (service : Service) (worker : Worker) (events : List Event) : Service :=
  let (taken, left) := events.splitAt service.room
  { service with
    channel := service.channel ++ taken
    line := service.line ++ left.map fun event => (worker, event) }

/-- Let those who stand in line into the channel. -/
def advanceLine (service : Service) : Bool × Service :=
  let (taken, left) :=
    service.line.splitAt (service.settings.eventQueueDepth - service.channel.length)
  (!taken.isEmpty,
    { service with channel := service.channel ++ taken.map (·.2), line := left })

/-- Whether a worker stands in line. -/
def isInLine (service : Service) (worker : Worker) (handle : Handle) : Bool :=
  service.line.any fun (other, event) => other = worker && event.source = handle

/-- Take a worker out of the line. -/
def leaveLine (service : Service) (worker : Worker) (handle : Handle) : Service :=
  { service with
    line := service.line.filter fun (other, event) =>
      !(other = worker && event.source = handle) }

/-! ## Connections -/

def change (service : Service) (handle : Handle) (change : Connection -> Connection) : Service :=
  { service with
    connections := service.connections.map fun connection =>
      if connection.handle = handle then change connection else connection }

def forget (service : Service) (handle : Handle) : Service :=
  { service with connections := service.connections.filter (·.handle ≠ handle) }

/-- Take in the connection of a stream. -/
def accept (service : Service) (link : Nat) (peer : SocketAddress) : Service :=
  let (handle, broker) := service.broker.attach peer
  let { timecode, maxPayloadBytes, .. } := broker.config.transport
  let reader := Frame.Reader.start (.ofTimecodeFlag timecode) maxPayloadBytes
  { service with
    broker
    connections := service.connections ++ [{ handle, link, reader := some reader }] }

/-- Close the connections that the broker wants closed. -/
def close (service : Service) : (Handle × Farewell) -> Service
  | (handle, .flushed) =>
      (service.leaveLine .reader handle).change handle fun connection =>
        { connection with reader := none, isEnding := true }
  | (handle, .abrupt) =>
      let links := (service.connections.filter (·.handle = handle)).map Connection.link
      let service := ((service.leaveLine .reader handle).leaveLine .writer handle).forget handle
      { service with severed := service.severed ++ links }

def closeAll (service : Service) : Service :=
  let closings := service.broker.closings
  closings.foldl close { service with broker := { service.broker with closings := [] } }

/-- Read what has arrived on a connection: the bytes left on the stream, and
whether anything was done. -/
def read (service : Service) (connection : Connection) (bytes : Bytes) (isEnded : Bool) :
    Bool × Bytes × Service :=
  let handle := connection.handle
  match connection.reader with
  | none => (false, bytes, service)
  | some reader =>
      if service.isInLine .reader handle || (bytes.isEmpty && !isEnded) then
        (false, bytes, service)
      else
        let harvest :=
          reader.harvest service.broker.clock.seconds isEnded (service.room + 1) bytes
        let messages := harvest.messages.map (.message handle)
        let (ended, reader) := match harvest.ending with
          | .ok reader => ([], some reader)
          | .error error => ([.ended handle error.message], none)
        let service := service.change handle fun connection => { connection with reader }
        (true, harvest.rest, service.post .reader (messages ++ ended))

/-- Give up writing on a connection whose stream has failed. -/
def fail (service : Service) (handle : Handle) (error : ProtocolError) : Service :=
  let service := service.change handle fun connection =>
    { connection with writer := {}, isBroken := true }
  service.post .writer [.ended handle error.message]

/-! ## Deliveries -/

/-- The queues of the connections, and whether the time for the first logger in
them without room is over. -/
structure Queues where
  connections : List Connection
  isOver : Bool := false

/-- How the queues take a frame. -/
def Queues.offer (settings : DeliverySettings) : Offer Queues := fun queues module outbound =>
  let isOver := queues.isOver || settings.loggerWriteTimeout = some 0
  let queues := { queues with isOver := false }
  match queues.connections.find? (·.handle = module.handle) with
  | none => some (.closed, queues)
  | some connection =>
      if connection.isBroken then some (.closed, queues)
      else if connection.writer.queue.length < settings.outboundQueueDepth then
        some (.delivered, { queues with
          connections := queues.connections.map fun connection =>
            if connection.handle = module.handle then
              { connection with writer := connection.writer.push outbound }
            else connection })
      else if !module.isLogger then some (.full, queues)
      else if isOver then some (.timedOut, queues)
      else none

/-- Take over what a delivery has led to. -/
def absorb (service : Service) (now : Milliseconds) (flushed : Broker.Flushed Queues) : Service :=
  let limit := service.settings.loggerWriteTimeout
  { service with
    broker := flushed.broker
    connections := flushed.queues.connections
    standstill := flushed.waiting.map fun sweep => ⟨sweep, limit.map (now + ·)⟩ : Service }.closeAll

/-- Let something happen to the broker, and deliver what follows. -/
def react (service : Service) (now : Milliseconds) (event : Broker -> Broker) : Service :=
  let queues : Queues := { connections := service.connections }
  service.absorb now ((event service.broker).flush (Queues.offer service.settings) queues)

/-- Whether a delivery that stands still can go on: there is room, the logger is
gone, or the time is over. -/
def canResume (service : Service) (now : Milliseconds) (standstill : Standstill) : Bool :=
  let isOver := standstill.deadline.any (· <= now)
  let hasRoom := standstill.sweep.remaining.head?.any fun handle =>
    match service.connections.find? (·.handle = handle) with
    | none => true
    | some connection => connection.isBroken ||
        connection.writer.queue.length < service.settings.outboundQueueDepth
  isOver || hasRoom

/-- Go on with a delivery that stood still. -/
def resume (service : Service) (now : Milliseconds) (standstill : Standstill) : Service :=
  let isOver := standstill.deadline.any (· <= now)
  let queues : Queues := { connections := service.connections, isOver }
  service.absorb now
    (service.broker.resume (Queues.offer service.settings) queues standstill.sweep)

/-! ## The loop -/

/-- The moment of the next poll.  A poll that was late by more than five
milliseconds puts off all later ones. -/
def pollAfter (service : Service) (now : Milliseconds) : Milliseconds :=
  let period := service.broker.config.diagnostics.pollInterval
  if service.nextPoll + 5 < now then now + period else service.nextPoll + period

/-- What the loop wakes up for, if there is anything. -/
def wake (service : Service) (now : Milliseconds) : Option Service :=
  if service.isStopping then
    let severed := service.severed ++ service.backlog.map (·.1)
    let broker := service.broker.shutDown
    some { service with broker, severed, backlog := [], isStopped := true : Service }.closeAll
  else match service.backlog with
  | (link, peer) :: backlog =>
      some ({ service with backlog, agenda := [.report] }.accept link peer)
  | [] =>
      if 0 < service.failedAccepts then
        some { service with failedAccepts := service.failedAccepts - 1, agenda := [.report] }
      else if !service.channel.isEmpty then
        let (batch, channel) := service.channel.splitAt service.settings.eventBatchSize
        let events := Turns.asTheyCame.order batch
        some { service with channel, agenda := events.map Duty.handle ++ [.report] }
      else if service.nextPoll <= now then
        some { service with nextPoll := service.pollAfter now, agenda := [.report] }
      else none

/-- Do the next thing, if there is one to do. -/
def step (service : Service) (now : Milliseconds) : Option Service :=
  if service.isStopped then none
  else match service.standstill with
  | some standstill =>
      if service.canResume now standstill then some (service.resume now standstill) else none
  | none =>
      match service.agenda with
      | [] => service.wake now
      | .handle event :: agenda => some ({ service with agenda }.react now (·.observe event))
      | .report :: agenda => some ({ service with agenda }.react now (·.report now))

/-- Do at most so many things, and tell whether there was one to do. -/
def run (now : Milliseconds) : (limit : Nat) -> Service -> Bool × Service
  | 0, service => (false, service)
  | limit + 1, service =>
      match service.step now with
      | none => (false, service)
      | some service => (true, (run now limit service).2)

/-- More things than there are to do before the channel has to be filled again. -/
def load (service : Service) : Nat :=
  service.agenda.length + 3 * service.channel.length +
    2 * (service.backlog.length + service.failedAccepts) + 20

/-- When the loop has to be looked at again even if nothing happens. -/
def timer (service : Service) : Option Milliseconds :=
  if service.isStopped then none
  else match service.standstill with
  | some standstill => standstill.deadline
  | none => some service.nextPoll

end Service

end MessageBus
