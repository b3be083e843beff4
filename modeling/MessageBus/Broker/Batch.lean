import MessageBus.Broker.Dispatch
import MessageBus.Broker.Reports

namespace MessageBus

open Wire

/-!
# Batches of events

The manager takes what has happened on its connections in batches, and a batch
must not favour the connection that happened to fill most of it.  So a batch is
split by source, and the sources take turns: in each round every source that has
something left has one of its events handled.  Within a source the order is kept;
in which order the sources have their turn in a round is left to `Turns`.
-/

/-- What happens on a connection. -/
inductive Event where
  | message (handle : Handle) (message : Message)
  /-- The connection is over. -/
  | ended (handle : Handle) (cause : String)
deriving DecidableEq, Repr

namespace Event

def source : Event -> Handle
  | .message handle _ | .ended handle _ => handle

/-- The events of each source, the sources in the order of their first event. -/
def bySource (events : List Event) : List (List Event) :=
  (events.map source).eraseDups.map fun handle => events.filter (·.source = handle)

end Event

/-- In which order the sources have their turn in a round. -/
structure Turns where
  arrange : (round : Nat) -> List (List Event) -> List (List Event)
  isPermutation : ∀ round queues, (arrange round queues).Perm queues

namespace Turns

/-- Every round begins with the source that began the batch. -/
def asTheyCame : Turns where
  arrange _ queues := queues
  isPermutation _ _ := List.Perm.refl _

/-- The queues that are not empty. -/
def filled (queues : List (List α)) : List (List α) :=
  queues.filter (!·.isEmpty)

theorem total_length_filled (queues : List (List α)) :
    total ((filled queues).map List.length) = total (queues.map List.length) := by
  induction queues with
  | nil => rfl
  | cons queue rest ih =>
      cases queue with
      | nil => simpa [filled, total] using ih
      | cons event events => simpa [filled, total] using ih

theorem total_length_tail_le (queues : List (List α)) :
    total ((queues.map List.tail).map List.length) <= total (queues.map List.length) := by
  induction queues with
  | nil => simp
  | cons queue rest ih =>
      simp only [List.map_cons, total, List.length_tail]
      omega

/-- A round that begins handles something. -/
theorem total_length_tail_lt {queues : List (List α)} (nonempty : ∀ queue ∈ queues, queue ≠ [])
    (some : queues ≠ []) :
    total ((queues.map List.tail).map List.length) < total (queues.map List.length) := by
  cases queues with
  | nil => exact absurd rfl some
  | cons queue rest =>
      have first : 0 < queue.length :=
        List.length_pos_iff.mpr (nonempty queue List.mem_cons_self)
      have later := total_length_tail_le rest
      simp only [List.map_cons, total, List.length_tail]
      omega

theorem round_decreases (turns : Turns) (round : Nat) (queues : List (List Event))
    (some : turns.arrange round (filled queues) ≠ []) :
    total (((turns.arrange round (filled queues)).map List.tail).map List.length) <
      total (queues.map List.length) := by
  have same := turns.isPermutation round (filled queues)
  have nonempty : ∀ queue ∈ turns.arrange round (filled queues), queue ≠ [] := by
    intro queue here
    have kept := (List.mem_filter.mp (same.mem_iff.mp here)).2
    intro empty
    simp [empty] at kept
  rw [← total_length_filled queues, ← total_perm (same.map List.length)]
  exact total_length_tail_lt nonempty some

/-- The events of several queues, round by round. -/
def interleave (turns : Turns) (round : Nat) (queues : List (List Event)) : List Event :=
  if _done : turns.arrange round (filled queues) = [] then []
  else
    let arranged := turns.arrange round (filled queues)
    arranged.filterMap List.head? ++ interleave turns (round + 1) (arranged.map List.tail)
termination_by total (queues.map List.length)
decreasing_by exact round_decreases turns round queues _done

/-- The events of a batch in the order in which they are handled. -/
def order (turns : Turns) (batch : List Event) : List Event :=
  turns.interleave 0 (Event.bySource batch)

end Turns

namespace Broker

/-- React to an event.  Events of a connection that was forgotten do not exist. -/
def observe (broker : Broker) : Event -> Broker
  | .message handle message => broker.receive handle message
  | .ended handle cause => broker.lose handle cause

end Broker

end MessageBus
