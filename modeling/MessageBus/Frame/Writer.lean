import MessageBus.Frame.Reader

namespace MessageBus

open Wire

/-!
# Putting frames on a stream

A sink takes as many bytes of what it is offered as it likes.  A frame is on the
stream when all of it has been taken; a sink that takes nothing will not take
anything later, and a sink that fails has failed.  What had been taken before
stays on the stream, so a failed write leaves a beginning of the frame there.
-/

namespace Frame

/-- What a sink is going to do: how many bytes it accepts at each call, and how
it ends after that. -/
structure Sink where
  room : List Nat
  ending : Fault
deriving Repr

/-- Offer a frame until all of it is taken: the error, if any, and the bytes
that the sink took. -/
def writeAll : Bytes -> (room : List Nat) -> (ending : Fault) -> Except ProtocolError Unit × Bytes
  | [], _, _ => (.ok (), [])
  | _ :: _, [], ending => (.error (.ofFault ending), [])
  | byte :: bytes, room :: rooms, ending =>
      if room = 0 then (.error (.ofFault .writeZero), [])
      else
        let frame := byte :: bytes
        let (result, written) := writeAll (frame.drop room) rooms ending
        (result, frame.take room ++ written)

def write (frame : Bytes) (sink : Sink) : Except ProtocolError Unit × Bytes :=
  writeAll frame sink.room sink.ending

end Frame

end MessageBus
