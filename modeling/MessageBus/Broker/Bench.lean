import MessageBus.Broker.Delivery
import MessageBus.Broker.Dispatch
import MessageBus.Broker.Reports

namespace MessageBus

open Wire

/-!
# A broker on the bench

To look at what the broker does without any connections, it is put on a bench:
every module has a queue in memory, and whoever stands at the bench decides when
the queues are emptied.  Three ways of emptying a queue correspond to a reader
that keeps up from one event to the next, one that reads only when told, and one
that also reads while the broker waits for a logger.

When the broker waits and nobody makes room, time passes until the limit for
loggers.  If there is no such limit the broker stands still for good, and so does
the bench.
-/

namespace Bench

/-- When a queue is emptied. -/
inductive Reading where
  | betweenEvents
  | onRequest
  | always
deriving DecidableEq, Repr

structure Queue where
  handle : Handle
  reading : Reading
  items : List Outbound := []
  /-- What was read since the queue was last looked at. -/
  read : List Outbound := []
  /-- The broker has let go of the queue. -/
  isEnded : Bool := false
deriving DecidableEq, Repr

namespace Queue

/-- Read everything. -/
def empty (queue : Queue) : Queue :=
  { queue with items := [], read := queue.read ++ queue.items }

def push (queue : Queue) (item : Outbound) : Queue :=
  { queue with items := queue.items ++ [item] }

end Queue

/-- The queues of the connections that still have somebody at the other end. -/
abbrev Queues := List Queue

namespace Queues

def get? (queues : Queues) (handle : Handle) : Option Queue :=
  queues.find? (·.handle == handle)

def modify (queues : Queues) (handle : Handle) (change : Queue -> Queue) : Queues :=
  queues.map fun queue => if queue.handle = handle then change queue else queue

/-- The queues after the broker has waited for somebody to make room. -/
def wait (queues : Queues) : Queues :=
  queues.map fun queue => if queue.reading = .always then queue.empty else queue

/-- Whether a queue takes another item. -/
def hasRoom (queues : Queues) (handle : Handle) (depth : Nat) : Bool :=
  ((queues.get? handle).map fun queue => decide (queue.items.length < depth)).getD false

/-- How the queues take a frame. -/
def offer (settings : DeliverySettings) : Offer Queues := fun queues module outbound =>
  let depth := settings.outboundQueueDepth
  let put (queues : Queues) := queues.modify module.handle (·.push outbound)
  match queues.get? module.handle with
  | none => some (.closed, queues)
  | some _ =>
      if queues.hasRoom module.handle depth then some (.delivered, put queues)
      else if !module.isLogger then some (.full, queues)
      else if settings.loggerWriteTimeout = some 0 then some (.timedOut, queues)
      else
        let queues := queues.wait
        if queues.hasRoom module.handle depth then some (.delivered, put queues)
        else if settings.loggerWriteTimeout.isSome then some (.timedOut, queues)
        else none

end Queues

/-- What comes out of a queue. -/
inductive Item where
  | frame (outbound : Outbound)
  /-- There will be nothing any more. -/
  | closed
deriving DecidableEq, Repr

end Bench

structure Bench where
  broker : Broker
  queues : Bench.Queues := []
  /-- The broker waits for a logger and nothing will ever make room. -/
  isStuck : Bool := false

namespace Bench

/-- Take note of the queues that the broker has let go of. -/
def endQueues (bench : Bench) : Bench :=
  let isEnded (queue : Queue) :=
    queue.isEnded || bench.broker.closings.any fun (handle, _) => handle == queue.handle
  { bench with
    broker := { bench.broker with closings := [] }
    queues := bench.queues.map fun queue => { queue with isEnded := isEnded queue } }

/-- Let something happen to the broker, and let it deliver what follows. -/
def react (bench : Bench) (event : Broker -> Broker) : Bench :=
  if bench.isStuck then bench
  else
    let flushed :=
      (event bench.broker).flush (Queues.offer bench.broker.config.delivery) bench.queues
    { broker := flushed.broker
      queues := flushed.queues
      isStuck := flushed.waiting.isSome : Bench }.endQueues

def attach (bench : Bench) (peer : SocketAddress) (reading : Reading) : Handle × Bench :=
  let (handle, broker) := bench.broker.attach peer
  (handle, { bench with broker, queues := bench.queues ++ [{ handle, reading }] })

def receive (bench : Bench) (handle : Handle) (message : Message) : Bench :=
  bench.react (·.receive handle message)

def lose (bench : Bench) (handle : Handle) (cause : String) : Bench :=
  bench.react (·.lose handle cause)

def report (bench : Bench) (now : Milliseconds) : Bench :=
  bench.react (·.report now)

/-- Nobody reads from a queue any more. -/
def abandon (bench : Bench) (handle : Handle) : Bench :=
  { bench with queues := bench.queues.filter (·.handle ≠ handle) }

/-- Put copies of an item into a module's queue, at most up to a limit, behind the
broker's back; the answer is how many there was room for. -/
def fill (bench : Bench) (handle : Handle) (item : Outbound) (limit : Option Nat) :
    Option Nat × Bench :=
  if !bench.broker.modules.contains handle then (none, bench)
  else match bench.queues.get? handle with
    | none => (some 0, bench)
    | some queue =>
        let room := bench.broker.config.delivery.outboundQueueDepth - queue.items.length
        let number := min room (limit.getD room)
        (some number, { bench with
          queues := bench.queues.modify handle fun queue =>
            { queue with items := queue.items ++ List.replicate number item } })

/-- Read at most so many items from a queue. -/
def drain (bench : Bench) (handle : Handle) (limit : Option Nat) :
    Option (List Item) × Bench :=
  match bench.queues.get? handle with
  | none => (none, bench)
  | some queue =>
      let number := limit.getD (queue.items.length + 1)
      let frames := (queue.items.take number).map .frame
      let closed := if queue.isEnded && queue.items.length < number then [Item.closed] else []
      (some (frames ++ closed), { bench with
        queues := bench.queues.modify handle fun queue =>
          { queue with items := queue.items.drop number } })

/-- What a queue shows after an event. -/
def Queue.shown (queue : Queue) : List Item :=
  if queue.reading = .onRequest then []
  else (queue.read ++ queue.items).map .frame ++ if queue.isEnded then [.closed] else []

/-- Look at all queues after an event, which also empties those that are emptied
between events, and forgets those that are at their end. -/
def collect (bench : Bench) : List (Handle × List Item) × Bench :=
  let shown := bench.queues.map fun queue => (queue.handle, queue.shown)
  let kept := bench.queues.filter fun queue => queue.reading = .onRequest || !queue.isEnded
  (shown.filter fun (_, items) => !items.isEmpty,
    { bench with
      queues := kept.map fun queue =>
        if queue.reading = .onRequest then queue else { queue with items := [], read := [] } })

end Bench

end MessageBus
