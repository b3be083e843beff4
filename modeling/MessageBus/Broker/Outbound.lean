import MessageBus.Message
import MessageBus.Subscriptions

namespace MessageBus

open Wire

/-!
# Frames on their way out

A frame that leaves the manager was either written by a module and is passed on
as it is, or by the manager itself.  Only the manager's own frames are numbered,
and each connection counts them for itself, immediately before they go onto the
wire: the gaps in the numbers that a module sees are then exactly the frames
that were lost on the way to it.
-/

/-- Who wrote a frame. -/
inductive Provenance where
  | forwarded
  | originated
deriving DecidableEq, Repr

structure Outbound where
  provenance : Provenance
  frame : Bytes
deriving DecidableEq, Repr

namespace Outbound

/-- The bytes for the wire on a connection that has seen `count` numbered frames,
with the new count. -/
def numbered (count : Int32) (outbound : Outbound) : Bytes × Int32 :=
  match outbound.provenance with
  | .forwarded => (outbound.frame, count)
  | .originated => (stampMessageCount outbound.frame (count + 1), count + 1)

/-- The bytes for the wire of several frames. -/
def numberAll : (count : Int32) -> List Outbound -> List Bytes
  | _, [] => []
  | count, outbound :: rest =>
      let (frame, count) := outbound.numbered count
      frame :: numberAll count rest

end Outbound

/-- For whom a frame is, besides the loggers. -/
inductive Route where
  /-- The subscribers of its type, as far as its header does not narrow them. -/
  | subscribers
  /-- One module, whatever it subscribed to. -/
  | direct (handle : Handle)
deriving DecidableEq, Repr

/-- A frame that waits for delivery. -/
structure Pending where
  header : Header
  outbound : Outbound
  route : Route
deriving DecidableEq, Repr

end MessageBus
