import MessageBus.Client.Call
import MessageBus.Frame.Cut
import MessageBus.Network.Link
import MessageBus.Network.Service

namespace MessageBus

open Wire

/-!
# A bus in memory

To look at a whole bus, a network is kept in memory: links instead of sockets, a
clock that moves only when it is told to, and at most one listener.  The listener
is a service, or a script that greets whoever connects, or somebody who never
answers.  The other participants are clients, and sockets that are written to and
read from byte by byte.

Between two moments everything runs until nothing can happen without time passing.
It runs in rounds, and in a round everybody has one turn, in a fixed order.  The
order is one of many that are possible, and whatever is said about a network
should not depend on it.
-/

/-- A client in a network, with the stream that it reads. -/
structure Seat where
  client : Client
  link : Option Nat := none
  /-- None if nothing more can be read. -/
  reader : Option Frame.Reader := none

/-- An end of a link that nobody interprets. -/
structure Socket where
  link : Nat
  side : Side
  /-- Bytes that were read and do not yet make up a frame. -/
  left : Bytes := []

/-- A listener that does nothing but greet. -/
structure Script where
  greeting : Bytes := []
  /-- Whether it hangs up after the greeting. -/
  isClosing : Bool := false
  backlog : List Nat := []
  /-- A greeting that is being written: where, what is left, and what comes then. -/
  current : Option (Nat × Bytes × Bool) := none
  /-- How many connections it has kept. -/
  kept : Nat := 0

inductive Listener where
  | nobody
  /-- Somebody who takes connections and leaves them alone. -/
  | silent
  | script (script : Script)
  | service (service : Service)

structure Network where
  /-- How many bytes a pipe holds. -/
  capacity : Nat := 1048576
  now : Milliseconds := 0
  links : Array Link := #[]
  nextPort : UInt16 := 40001
  listener : Listener := .nobody
  /-- Where the listener is found. -/
  port : UInt16 := 7111
  /-- Why there is no service, if there was to be one. -/
  failure : Option StartupError := none
  seats : List (String × Seat) := []
  sockets : List (String × Socket) := []

namespace Network

/-- How many messages a client's reader collects before it waits for the client. -/
def inboxDepth : Nat := 4096

/-! ## Links -/

def link (network : Network) (index : Nat) : Link :=
  network.links.getD index { capacity := 0 }

def changeLink (network : Network) (index : Nat) (change : Link -> Link) : Network :=
  { network with links := network.links.modify index change }

/-- Connect to a port in the name of a peer: the new link, if somebody listens. -/
def dial (network : Network) (port : Option UInt16) (peer : SocketAddress) :
    Option Nat × Network :=
  let index := network.links.size
  let linked := { network with links := network.links.push { capacity := network.capacity } }
  if port ≠ some network.port then (none, network)
  else match network.listener with
  | .nobody => (none, network)
  | .silent => (some index, linked)
  | .script script =>
      let backlog := script.backlog ++ [index]
      (some index, { linked with listener := .script { script with backlog } })
  | .service service =>
      if service.isStopped then (none, network)
      else
        let backlog := service.backlog ++ [(index, peer)]
        (some index, { linked with listener := .service { service with backlog } })

/-- The address of the next connection of this host. -/
def localAddress (network : Network) : SocketAddress × Network :=
  (⟨.v4 [127, 0, 0, 1], network.nextPort, 0⟩, { network with nextPort := network.nextPort + 1 })

/-! ## Participants -/

def seat? (network : Network) (name : String) : Option Seat :=
  network.seats.lookup name

def socket? (network : Network) (name : String) : Option Socket :=
  network.sockets.lookup name

def setSeat (network : Network) (name : String) (seat : Seat) : Network :=
  { network with
    seats := network.seats.map fun (other, old) => (other, if other = name then seat else old) }

def setSocket (network : Network) (name : String) (socket : Socket) : Network :=
  { network with
    sockets := network.sockets.map fun (other, old) =>
      (other, if other = name then socket else old) }

/-- Take a socket away, with its end of the link. -/
def removeSocket (network : Network) (name : String) : Network :=
  match network.socket? name with
  | none => network
  | some socket =>
      { network.changeLink socket.link (·.drop socket.side) with
        sockets := network.sockets.filter (·.1 ≠ name) }

/-- Put a socket in place of one of the same name. -/
def addSocket (network : Network) (name : String) (socket : Socket) : Network :=
  let network := network.removeSocket name
  { network with sockets := network.sockets ++ [(name, socket)] }

/-- Take a client away, with its end of the link. -/
def removeSeat (network : Network) (name : String) : Network :=
  match network.seat? name with
  | none => network
  | some seat =>
      let network := { network with seats := network.seats.filter (·.1 ≠ name) }
      seat.link.elim network fun link => network.changeLink link (·.drop .caller)

/-- Put a client in place of one of the same name. -/
def addSeat (network : Network) (name : String) (seat : Seat) : Network :=
  let network := network.removeSeat name
  { network with seats := network.seats ++ [(name, seat)] }

/-! ## Turns

Each of these tells whether anything was done. -/

/-- The script's turn: it goes on with a greeting, or begins one. -/
def greet (network : Network) : Bool × Network :=
  match network.listener with
  | .script script =>
      let (current, backlog) := match script.current, script.backlog with
        | some current, backlog => (some current, backlog)
        | none, link :: backlog => (some (link, script.greeting, script.isClosing), backlog)
        | none, [] => (none, [])
      match current with
      | none => (false, network)
      | some (index, bytes, isClosing) =>
          let link := network.link index
          let room := if link.isGone .caller then bytes.length else link.room .answerer
          let network := network.changeLink index (·.write .answerer (bytes.take room))
          let moved := script.current.isNone || (0 < room && !bytes.isEmpty)
          if room < bytes.length then
            let current := some (index, bytes.drop room, isClosing)
            (moved, { network with listener := .script { script with current, backlog } })
          else if isClosing then
            (true, { network.changeLink index (·.drop .answerer) with
              listener := .script { script with current := none, backlog } })
          else
            let kept := script.kept + 1
            let network :=
              { network with listener := .script { script with current := none, backlog, kept } }
            (true, network.addSocket s!"s{kept}" { link := index, side := .answerer })
  | _ => (false, network)

/-- What the readers of a service have on their streams, taken in one by one. -/
def readAll (service : Service) (links : Array Link) : List Connection ->
    Bool × Service × Array Link
  | [] => (false, service, links)
  | connection :: rest =>
      let link := links.getD connection.link { capacity := 0 }
      let pipe := link.incoming .answerer
      let (moved, bytes, service) := service.read connection pipe.contents pipe.isEnded
      let links :=
        if moved then links.modify connection.link (·.leave .answerer bytes) else links
      let (movedLater, service, links) := readAll service links rest
      (moved || movedLater, service, links)

/-- What the writers of a service have for their streams, put there one by one. -/
def writeAll (service : Service) (links : Array Link) : List Connection ->
    Bool × Service × Array Link
  | [] => (false, service, links)
  | connection :: rest =>
      let link := links.getD connection.link { capacity := 0 }
      let writer := connection.writer
      let (moved, service, links) :=
        if connection.isBroken || writer.isIdle then (false, service, links)
        else if link.isGone .caller then
          (true, service.fail connection.handle (.ofFault .brokenPipe),
            links.modify connection.link (·.stopWriting .answerer))
        else
          let (bytes, left) := writer.write (link.room .answerer)
          (!bytes.isEmpty || left.queue.length < writer.queue.length,
            service.change connection.handle fun connection => { connection with writer := left },
            links.modify connection.link (·.write .answerer bytes))
      let (movedLater, service, links) := writeAll service links rest
      (moved || movedLater, service, links)

/-- Give up the rights of a service's connections that are not used any more. -/
def release (service : Service) (links : Array Link) : Service × Array Link :=
  let isOver (connection : Connection) :=
    connection.isEnding && (connection.isBroken || connection.writer.isIdle)
  let done := (service.connections.filter isOver).map Connection.link
  let unread := (service.connections.filter (·.reader.isNone)).map Connection.link
  let links := service.severed.foldl (fun links index => links.modify index (·.drop .answerer)) links
  let links := unread.foldl (fun links index => links.modify index (·.stopReading .answerer)) links
  let links := done.foldl (fun links index => links.modify index (·.stopWriting .answerer)) links
  let connections := service.connections.filter (!isOver ·)
  ({ service with connections, severed := [] }, links)

/-- The service's turn: its readers, then its loop, then its writers. -/
def serve (network : Network) : Bool × Network :=
  match network.listener with
  | .service service =>
      let (advanced, service) := service.advanceLine
      let (read, service, links) := readAll service network.links service.connections
      let (worked, service) := service.run network.now service.load
      let (service, links) := release service links
      let (written, service, links) := writeAll service links service.connections
      let (service, links) := release service links
      (advanced || read || worked || written,
        { network with listener := .service service, links })
  | _ => (false, network)

/-- A client's turn: what has arrived for it goes to its inbox. -/
def receive (network : Network) (name : String) : Bool × Network :=
  match network.seat? name with
  | some { client, link := some index, reader := some reader } =>
      let pipe := (network.link index).incoming .caller
      let inbox := (client.line.map (·.inbox.length)).getD 0
      let bytes := pipe.contents
      if inboxDepth < inbox || (bytes.isEmpty && !pipe.isEnded) then (false, network)
      else
        let harvest :=
          reader.harvest client.clock.seconds pipe.isEnded (inboxDepth + 1 - inbox) bytes
        let (failure, reader) := match harvest.ending with
          | .ok reader => ([], some reader)
          | .error error => ([Arrival.failure error], none)
        let client := client.deliver (harvest.messages.map Arrival.message ++ failure)
        let network := network.changeLink index fun link =>
          let link := link.leave .caller harvest.rest
          if reader.isNone then link.stopReading .caller else link
        (true, network.setSeat name { client, link := some index, reader })
  | _ => (false, network)

/-- One turn for everybody. -/
def round (network : Network) : Bool × Network :=
  let (greeted, network) := network.greet
  let (served, network) := network.serve
  let (received, network) := (network.seats.map (·.1)).foldl (fun (moved, network) name =>
    let (here, network) := network.receive name
    (moved || here, network)) (false, network)
  (greeted || served || received, network)

/-- At most so many rounds, until there is nothing to do. -/
def rounds : (limit : Nat) -> Network -> Network
  | 0, network => network
  | limit + 1, network =>
      match network.round with
      | (true, network) => rounds limit network
      | (false, network) => network

/-- Everything that happens without time passing. -/
def settle (network : Network) : Network :=
  rounds 1000000 network

/-! ## Time -/

/-- The next moment at which something happens by itself. -/
def timer (network : Network) : Option Milliseconds :=
  match network.listener with
  | .service service => service.timer
  | _ => none

/-- Let time pass to the next moment at which something happens by itself, but no
further than to a limit. -/
def waitUntil (network : Network) (limit : Milliseconds) : Network :=
  let next := max network.now (min limit (network.timer.getD limit))
  { network with now := next }

/-- Let time pass up to a moment, with everything that happens on the way.  At most
so many moments are looked at. -/
def passUntil (moment : Milliseconds) : (limit : Nat) -> Network -> Network
  | 0, network => { network with now := moment }.settle
  | limit + 1, network =>
      let network := network.settle
      if network.now < moment then passUntil moment limit (network.waitUntil moment)
      else network

def advance (network : Network) (duration : Milliseconds) : Network :=
  passUntil (network.now + duration) (duration + 1) network

/-! ## Listeners -/

/-- A network in which a broker of a configuration is to listen. -/
def serving (config : Config) (pid : Int32) (clock : ClockReading) (isPortTaken : Bool) :
    Except ConfigError Network := do
  let broker <- Broker.start config pid clock 0
  let failure := some (.bind config.bindAddress)
  let port := config.transport.port
  return match SocketAddress.ofText? config.bindAddress with
    | none => { port, failure }
    | some _ =>
        if isPortTaken then { port, failure, listener := .silent }
        else { port, listener := .service { broker } }

/-- A network in which a script listens. -/
def scripted : Network :=
  { listener := .script {} }

/-- Let the next attempt to accept a connection fail. -/
def failAccept (network : Network) : Network :=
  match network.listener with
  | .service service =>
      { network with
        listener := .service { service with failedAccepts := service.failedAccepts + 1 } }
  | _ => network

/-- How the script greets from now on. -/
def setGreeting (network : Network) (greeting : Bytes) (isClosing : Bool) : Network :=
  match network.listener with
  | .script script =>
      { network with listener := .script { script with greeting, isClosing } }
  | _ => network

/-- How long anybody is waited for, at most. -/
def patience : Milliseconds := 600000

/-- Let time pass until the service has stopped, or patience is at its end. -/
def awaitStop (moment : Milliseconds) : (limit : Nat) -> Network -> Bool × Network
  | 0, network => (false, network)
  | limit + 1, network =>
      let network := network.settle
      match network.listener with
      | .service service =>
          if service.isStopped then (true, network)
          else if network.now < moment then awaitStop moment limit (network.waitUntil moment)
          else (false, network)
      | _ => (true, network)

/-- What came of shutting a service down. -/
inductive Stopped where
  | stopped
  | failed (error : StartupError)
  /-- A logger keeps it from stopping. -/
  | hanging

/-- Shut the service down; connections that it has not accepted are cut off. -/
def shutDown (network : Network) : Stopped × Network :=
  match network.failure, network.listener with
  | some error, _ => (.failed error, network)
  | none, .service service =>
      let stopping :=
        { network with listener := .service { service with isStopping := true } }
      match awaitStop (network.now + patience) (patience + 1) stopping with
      | (true, network) => (.stopped, network)
      | (false, network) => (.hanging, network)
  | none, _ => (.stopped, network)

end Network

end MessageBus
