import MessageBus.Network.Basic

namespace MessageBus

open Wire

/-!
# Sockets in a network

A socket is an end of a link in the hands of somebody who is no client: bytes go
out as they are given, and what comes in is cut into frames without a look at
what is in them.  Reading goes on as long as reading makes room for more.
-/

namespace Network

/-- Connect a socket, in the name of a peer if one is given. -/
def openSocket (network : Network) (name : String) (peer : Option SocketAddress)
    (port : UInt16) : Bool × Network :=
  let (localPeer, network) := network.localAddress
  match network.dial (some port) (peer.getD localPeer) with
  | (some link, network) => (true, network.addSocket name { link, side := .caller })
  | (none, network) => (false, network)

/-! ## Writing -/

/-- What became of bytes that were to be written. -/
inductive Written where
  | done
  | failed (error : ProtocolError)
  /-- There was no room; what fitted stays written. -/
  | blocked
deriving DecidableEq, Repr

/-- Write as much as there is room for: what is left, or none if nobody will ever
read it. -/
def put (network : Network) (index : Nat) (side : Side) (bytes : Bytes) :
    Option Bytes × Network :=
  let link := network.link index
  if bytes.isEmpty then (some [], network)
  else if link.isGone side.other || (link.outgoing side).isEnded then (none, network)
  else
    let room := link.room side
    (some (bytes.drop room), network.changeLink index (·.write side (bytes.take room)))

/-- Write, and let the others make room as long as they do. -/
def putAll (index : Nat) (side : Side) : (limit : Nat) -> Bytes -> Network -> Written × Network
  | 0, _, network => (.blocked, network)
  | limit + 1, bytes, network =>
      match network.put index side bytes with
      | (none, network) => (.failed (.ofFault .brokenPipe), network)
      | (some [], network) => (.done, network)
      | (some left, network) =>
          let network := network.settle
          if (network.link index).room side = 0 && !(network.link index).isGone side.other then
            (.blocked, { network with now := network.now + 1 })
          else putAll index side limit left network

/-- Write to a socket.  Finding no room takes a millisecond. -/
def writeSocket (network : Network) (name : String) (bytes : Bytes) : Written × Network :=
  match network.socket? name with
  | none => (.failed (.ofFault .brokenPipe), network)
  | some socket => putAll socket.link socket.side (bytes.length + 2) bytes network

/-- Say that a socket will write nothing more. -/
def finishSocket (network : Network) (name : String) : Network :=
  match network.socket? name with
  | none => network
  | some socket => network.changeLink socket.link (·.finish socket.side)

/-! ## Reading -/

/-- Read at most so many bytes, and let the others bring more as long as they do. -/
def take (index : Nat) (side : Side) : (turns limit : Nat) -> Network -> Bytes × Network
  | 0, _, network => ([], network)
  | turns + 1, limit, network =>
      let arrived := ((network.link index).incoming side).contents
      let taken := arrived.take limit
      if taken.isEmpty then ([], network)
      else
        let network := (network.changeLink index (·.leave side (arrived.drop limit))).settle
        let (later, network) := take index side turns (limit - taken.length) network
        (taken ++ later, network)

/-- What was read from a socket. -/
structure Received where
  messages : List Message := []
  /-- How many bytes do not make up a frame. -/
  left : Nat := 0
  isEnded : Bool := false

/-- Read what there is on a socket. -/
def readSocket (network : Network) (name : String) (format : Format) (limit : Option Nat) :
    Received × Network :=
  match network.socket? name with
  | none => ({}, network)
  | some socket =>
      let limit := limit.getD UInt32.size
      let (bytes, network) := take socket.link socket.side (limit + 1) limit network
      let pipe := (network.link socket.link).incoming socket.side
      let (messages, left) := Frame.cut format (socket.left ++ bytes)
      let isEnded := bytes.length < limit && pipe.isEnded && pipe.size = 0
      ({ messages, left := left.length, isEnded }, network.setSocket name { socket with left })

end Network

end MessageBus
