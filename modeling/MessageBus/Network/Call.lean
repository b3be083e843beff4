import MessageBus.Network.Socket

namespace MessageBus

open Wire Text

/-!
# Calls in a network

A client in a network makes one call at a time, and the call is carried on until
it has ended.  What it needs is looked at first without anybody else having a
turn, then after everybody has had theirs, and then time passes.  A call that has
reached its deadline does not wait for what others do at the same moment.

Some calls never end.  After a long time such a call is given up, and the
messages that it held are lost with it.
-/

namespace Network

/-- Take over what has become of a client.  Without its line it gives up its end
of the link. -/
def place (network : Network) (name : String) (client : Client) : Network :=
  match network.seat? name with
  | none => network
  | some seat =>
      match client.line, seat.link with
      | none, some link => (network.changeLink link (·.drop .caller)).setSeat name { client }
      | _, _ => network.setSeat name { seat with client }

/-- The port that an address ends in. -/
def portOf (address : String) : Option UInt16 :=
  let digits := (address.toList.reverse.takeWhile (· ≠ ':')).reverse
  let value := numeralValue 10 digits
  if digits.isEmpty || !digits.all Char.isDigit || 65535 < value || digits.length = address.length
  then none
  else some (UInt16.ofNat value)

/-- The address under which a client knows whom it has reached. -/
def addressOf (address : String) : SocketAddress :=
  (SocketAddress.ofText? address).getD ⟨.v4 [127, 0, 0, 1], (portOf address).getD 0, 0⟩

/-- Connect a client's seat. -/
def connectSeat (network : Network) (name : String) (seat : Seat) (address : String) :
    Client.Signal × Network :=
  let (peer, network) := network.localAddress
  match network.dial (portOf address) peer with
  | (none, network) => (.unanswered, network)
  | (some link, network) =>
      let { format, maxPayload, .. } := seat.client.settings
      let reader := Frame.Reader.start format maxPayload
      (.answered (addressOf address),
        network.setSeat name { seat with link := some link, reader := some reader })

/-- When a need stops being one. -/
def deadlineOf : Client.Need -> Option Milliseconds
  | .message deadline => deadline
  | .acknowledgement _ _ deadline _ | .time deadline => some deadline
  | .server _ | .room _ => none

/-- What can be said about a need now, and what of it is still there. -/
def attempt (network : Network) (name : String) (seat : Seat) (need : Client.Need) :
    Option Client.Signal × Client.Need × Network :=
  match need with
  | .server address =>
      let (signal, network) := network.connectSeat name seat address
      (some signal, need, network)
  | .room frame =>
      match network.put (seat.link.getD network.links.size) .caller frame with
      | (none, network) => (some (.broken (.ofFault .brokenPipe)), need, network)
      | (some [], network) => (some .written, need, network)
      | (some left, network) => (none, .room left, network)
  | .message _ | .acknowledgement _ _ _ _ =>
      let signal :=
        if seat.client.line.any (!·.inbox.isEmpty) then some .arrived
        else if (deadlineOf need).any (· <= network.now) then some .expired
        else none
      (signal, need, network)
  | .time deadline =>
      (some (if deadline <= network.now then .expired else .inTime), need, network)

/-- Carry a call on, for at most so many turns and no longer than to a moment.
The others have had their turn since the last change if `isSettled`. -/
def carry (name : String) (moment : Milliseconds) :
    (turns : Nat) -> (isSettled : Bool) -> Client.Progress -> Network ->
    Option (Except ClientError Client.Reply) × Network
  | 0, _, _, network => (none, network)
  | _ + 1, _, .finished result, network => (some result, network)
  | turns + 1, isSettled, .waiting need rest, network =>
      match network.seat? name with
      | none => (none, network)
      | some seat =>
          match network.attempt name seat need with
          | (some signal, need, network) =>
              let (progress, client) := seat.client.proceed network.now need rest signal
              carry name moment turns false progress (network.place name client)
          | (none, left, network) =>
              if !isSettled || left ≠ need then
                carry name moment turns true (.waiting left rest) network.settle
              else if moment <= network.now then (none, network)
              else
                let limit := min moment ((deadlineOf left).getD moment)
                carry name moment turns false (.waiting left rest) (network.waitUntil limit)

/-- Make a call: its result, or none if it does not end. -/
def call (network : Network) (name : String) (call : Client.Call) :
    Option (Except ClientError Client.Reply) × Network :=
  match network.seat? name with
  | none => (none, network)
  | some seat =>
      let (progress, client) := seat.client.begin network.now call
      carry name (network.now + patience) 10000000 false progress (network.place name client)

end Network

end MessageBus
