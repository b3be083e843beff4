import MessageBus.Broker.Outbound

namespace MessageBus

open Wire

/-!
# Writing a queue onto a stream

A writer stands between the queue of one connection and its stream.  It takes a
frame from the queue as soon as the one before is written to its last byte, and
numbers it at that moment, so a frame that waits for room on the stream no longer
takes up room in the queue.

How much the stream takes at a time is the stream's affair.  Whatever it takes,
what has been written is always a beginning of the same bytes: the frames of the
queue, one after the other, each with its number.
-/

structure Writer where
  queue : List Outbound := []
  /-- How many frames were numbered. -/
  count : Int32 := 0
  /-- What is left of the frame that is being written. -/
  current : Bytes := []
deriving DecidableEq, Repr

namespace Writer

/-- Put a frame into the queue. -/
def push (writer : Writer) (outbound : Outbound) : Writer :=
  { writer with queue := writer.queue ++ [outbound] }

/-- Whether nothing is left to be written. -/
def isIdle (writer : Writer) : Bool :=
  writer.current.isEmpty && writer.queue.isEmpty

/-- Write to a stream that has room for so many bytes: the bytes, and the writer
behind them, given by its parts. -/
def writeQueue (room : Nat) (count : Int32) (current : Bytes) :
    List Outbound -> Bytes × Writer
  | [] => (current.take room, { count, current := current.drop room })
  | outbound :: rest =>
      if current.length <= room then
        let (frame, count) := outbound.numbered count
        let (bytes, writer) := writeQueue (room - current.length) count frame rest
        (current ++ bytes, writer)
      else (current.take room, { queue := outbound :: rest, count, current := current.drop room })

def write (writer : Writer) (room : Nat) : Bytes × Writer :=
  writeQueue room writer.count writer.current writer.queue

/-- Everything that is left to be written. -/
def remaining (writer : Writer) : Bytes :=
  writer.current ++ (Outbound.numberAll writer.count writer.queue).flatten

/-- What is written and what is left are what was left before. -/
theorem write_append_remaining (writer : Writer) (room : Nat) :
    (writer.write room).1 ++ (writer.write room).2.remaining = writer.remaining := by
  obtain ⟨queue, count, current⟩ := writer
  unfold write
  induction queue generalizing room count current with
  | nil => simp [writeQueue, remaining, Outbound.numberAll]
  | cons outbound rest ih =>
      unfold writeQueue
      split
      · have later := ih (room - current.length) (outbound.numbered count).2
          (outbound.numbered count).1
        simp only [remaining, Outbound.numberAll, List.flatten_cons, List.append_assoc] at later ⊢
        rw [later]
      · simp [remaining, ← List.append_assoc]

end Writer

end MessageBus
