import MessageBus.Proofs.Forwarding
import Mathlib.Data.List.Perm.Basic

namespace MessageBus

open Wire

/-!
# Taking turns

The sources of a batch take turns, and in which order they do so in a round is left open.
Three things do not depend on it.  The batch is handled as a whole: what is handled is a
permutation of the batch.  The events of a source are handled in the order of the batch.
And the sources come along evenly: the numbers of the turns that are taken one after the
other never go down (`Event.turnsAfter`), so nobody has another turn as long as somebody
is waiting for an earlier one.

All three rest on one property of the queues.  They are `Parted`: the events of a queue have
one source, and different queues have different ones.  Every choice that is made between
two rounds keeps this up, and whatever is taken from each of parted queues, the share of one
source is what is taken from its queue (`Parted.share_flatMap`).

How the stream of events was cut into batches can therefore not be seen in what one source
has said (`Turns.share_handled`).  For the queues at the other end more is needed.  What
was accepted leaves the outbox in the order in which it was met, so the frames that have left
it can be given back to the messages that they come from, one to one (`History.origins`).
-/

namespace Event

variable {queues first second : List (List Event)} {events queue : List Event} {event : Event}
  {handle : Handle}

/-! ## The share of a source -/

/-- The events of one source. -/
def share (handle : Handle) (events : List Event) : List Event :=
  events.filter (·.source = handle)

theorem mem_share : event ∈ share handle events ↔ event ∈ events ∧ event.source = handle := by
  unfold share
  rw [List.mem_filter, decide_eq_true_eq]

theorem share_cons (handle : Handle) (event : Event) (events : List Event) :
    share handle (event :: events) =
      if event.source = handle then event :: share handle events else share handle events := by
  simp only [share, List.filter_cons, decide_eq_true_eq]

theorem share_append (handle : Handle) (first second : List Event) :
    share handle (first ++ second) = share handle first ++ share handle second :=
  List.filter_append ..

theorem share_eq_self (own : ∀ event ∈ events, event.source = handle) :
    share handle events = events :=
  List.filter_eq_self.mpr fun event here => decide_eq_true (own event here)

theorem share_eq_nil (foreign : ∀ event ∈ events, event.source ≠ handle) :
    share handle events = [] :=
  List.filter_eq_nil_iff.mpr fun event here => by simpa using foreign event here

theorem share_share (one other : Handle) (events : List Event) :
    share one (share other events) = if other = one then share one events else [] := by
  by_cases same : other = one
  · subst same
    rw [if_pos rfl]
    exact share_eq_self fun event here => (mem_share.mp here).2
  · rw [if_neg same]
    exact share_eq_nil fun event here own => same ((mem_share.mp here).2.symm.trans own)

/-! ## Parted queues -/

/-- The events of a queue have one source, and no other queue has events of it. -/
structure Parted (queues : List (List Event)) : Prop where
  single : ∀ queue ∈ queues, ∀ one ∈ queue, ∀ other ∈ queue, one.source = other.source
  apart : queues.Pairwise fun first second =>
    ∀ one ∈ first, ∀ other ∈ second, one.source ≠ other.source

namespace Parted

theorem tail (parted : Parted (queue :: queues)) : Parted queues where
  single other here := parted.single other (List.mem_cons_of_mem _ here)
  apart := parted.apart.tail

theorem of_perm (parted : Parted first) (same : first.Perm second) : Parted second where
  single queue here := parted.single queue (same.mem_iff.mpr here)
  apart := by
    refine (same.pairwise_iff ?_).mp parted.apart
    exact fun different one here other there => (different other there one here).symm

/-- Parts of parted queues are parted. -/
theorem map (parted : Parted queues) {part : List Event -> List Event}
    (within : ∀ queue, part queue ⊆ queue) : Parted (queues.map part) where
  single := by
    intro queue here
    rcases List.mem_map.mp here with ⟨whole, listed, rfl⟩
    exact fun one first other second =>
      parted.single whole listed one (within whole first) other (within whole second)
  apart := List.pairwise_map.mpr <| parted.apart.imp fun different one first other second =>
    different one (within _ first) other (within _ second)

theorem filled (parted : Parted queues) : Parted (Turns.filled queues) where
  single queue here := parted.single queue (List.mem_of_mem_filter here)
  apart := parted.apart.filter _

/-- A queue has the whole share of a source, or nothing of it. -/
theorem own_or_foreign (parted : Parted (queue :: queues)) (handle : Handle) :
    (∀ event ∈ queue, event.source = handle) ∧
        (∀ event ∈ queues.flatten, event.source ≠ handle) ∨
      ∀ event ∈ queue, event.source ≠ handle := by
  by_cases has : ∃ event ∈ queue, event.source = handle
  · rcases has with ⟨event, here, rfl⟩
    refine Or.inl ⟨fun other there => ?_, fun other there => ?_⟩
    · exact parted.single queue List.mem_cons_self other there event here
    · rcases List.mem_flatten.mp there with ⟨later, listed, within⟩
      exact ((List.pairwise_cons.mp parted.apart).1 later listed event here other within).symm
  · exact Or.inr fun event here own => has ⟨event, here, own⟩

/-- Whatever is taken from each queue, the share of a source is what is taken from its
queue. -/
theorem share_flatMap (parted : Parted queues) {part : List Event -> List Event}
    (within : ∀ queue, part queue ⊆ queue) (handle : Handle) :
    share handle (queues.flatMap part) = part (share handle queues.flatten) := by
  have nothing : part [] = [] := List.subset_nil.mp (within [])
  induction queues with
  | nil => exact nothing.symm
  | cons queue rest ih =>
      rw [List.flatMap_cons, List.flatten_cons, share_append, share_append, ih parted.tail]
      rcases parted.own_or_foreign handle with ⟨own, others⟩ | foreign
      · rw [share_eq_self own, share_eq_nil others, nothing, List.append_nil, List.append_nil]
        exact share_eq_self fun event taken => own event (within queue taken)
      · rw [share_eq_nil foreign, List.nil_append]
        rw [share_eq_nil fun event taken => foreign event (within queue taken), List.nil_append]

/-- The share of a source does not depend on the order of the queues. -/
theorem share_flatten_perm (parted : Parted first) (same : first.Perm second)
    (handle : Handle) : share handle first.flatten = share handle second.flatten := by
  induction same with
  | nil => rfl
  | cons queue _ ih =>
      rw [List.flatten_cons, List.flatten_cons, share_append, share_append, ih parted.tail]
  | swap one other rest =>
      simp only [List.flatten_cons, share_append]
      rcases parted.own_or_foreign handle with ⟨_, others⟩ | foreign
      · rw [share_eq_nil fun event here =>
          others event (List.mem_flatten_of_mem List.mem_cons_self here)]
        rfl
      · rw [share_eq_nil foreign]
        rfl
  | trans before _ ihFirst ihSecond =>
      exact (ihFirst parted).trans (ihSecond (parted.of_perm before))

end Parted

theorem nodup_eraseDups (handles : List Handle) : handles.eraseDups.Nodup := by
  cases handles with
  | nil => exact List.nodup_nil
  | cons handle rest =>
      rw [List.eraseDups_cons, List.nodup_cons]
      refine ⟨fun again => ?_, nodup_eraseDups _⟩
      simpa using List.mem_eraseDups.mp again
termination_by handles.length
decreasing_by exact Nat.lt_succ_of_le (List.length_filter_le ..)

theorem parted_bySource (events : List Event) : Parted (bySource events) where
  single := by
    intro queue listed one first other second
    rcases List.mem_map.mp listed with ⟨handle, _, rfl⟩
    exact (mem_share.mp first).2.trans (mem_share.mp second).2.symm
  apart := by
    refine List.pairwise_map.mpr
      ((nodup_eraseDups _).imp fun different one first other second same => different ?_)
    exact (mem_share.mp first).2.symm.trans (same.trans (mem_share.mp second).2)

/-- No source loses anything when a batch is split. -/
theorem share_bySource (events : List Event) (handle : Handle) :
    share handle (bySource events).flatten = share handle events := by
  have shares : ∀ handles : List Handle, handles.Nodup ->
      share handle (handles.flatMap (share · events)) =
        if handle ∈ handles then share handle events else [] := by
    intro handles distinct
    induction handles with
    | nil => rfl
    | cons other rest ih =>
        rcases List.nodup_cons.mp distinct with ⟨absent, later⟩
        rw [List.flatMap_cons, share_append, share_share, ih later]
        by_cases same : other = handle
        · subst same
          rw [if_pos rfl, if_neg absent, if_pos List.mem_cons_self, List.append_nil]
        · rw [if_neg same, List.nil_append]
          exact if_congr (by simp [Ne.symm same]) rfl rfl
  have split : (bySource events).flatten =
      (events.map source).eraseDups.flatMap (share · events) := (List.flatMap_def ..).symm
  rw [split, shares _ (nodup_eraseDups _)]
  split
  · rfl
  · next unknown =>
    refine (share_eq_nil fun event here own => unknown ?_).symm
    exact List.mem_eraseDups.mpr (List.mem_map.mpr ⟨event, here, own⟩)

end Event

/-! ## The order in a batch -/

namespace Turns

open Event

variable {queues : List (List Event)}

theorem interleave_of_nil {turns : Turns} {round : Nat}
    (done : turns.arrange round (filled queues) = []) : turns.interleave round queues = [] := by
  rw [interleave, dif_pos done]

theorem interleave_of_ne_nil {turns : Turns} {round : Nat}
    (begun : turns.arrange round (filled queues) ≠ []) :
    turns.interleave round queues =
      (turns.arrange round (filled queues)).filterMap List.head? ++
        turns.interleave (round + 1) ((turns.arrange round (filled queues)).map List.tail) := by
  rw [interleave, dif_neg begun]

/-- The first event of every queue. -/
theorem heads_eq (queues : List (List Event)) :
    queues.filterMap List.head? = queues.flatMap (List.take 1) := by
  induction queues with
  | nil => rfl
  | cons queue rest ih =>
      rw [List.flatMap_cons, ← ih]
      cases queue <;> rfl

theorem share_heads (parted : Parted queues) (handle : Handle) :
    share handle (queues.filterMap List.head?) = (share handle queues.flatten).take 1 := by
  rw [heads_eq]
  exact parted.share_flatMap (fun queue => List.take_subset 1 queue) handle

theorem share_tails (parted : Parted queues) (handle : Handle) :
    share handle (queues.map List.tail).flatten = (share handle queues.flatten).tail := by
  rw [← List.flatMap_def]
  exact parted.share_flatMap (fun queue => List.tail_subset queue) handle

theorem parted_tails (parted : Parted queues) : Parted (queues.map List.tail) :=
  parted.map fun queue => List.tail_subset queue

theorem parted_arrange (turns : Turns) (round : Nat) (parted : Parted queues) :
    Parted (turns.arrange round (filled queues)) :=
  parted.filled.of_perm (turns.isPermutation round _).symm

theorem share_arrange (turns : Turns) (round : Nat) (parted : Parted queues) (handle : Handle) :
    share handle (turns.arrange round (filled queues)).flatten = share handle queues.flatten := by
  rw [(parted_arrange turns round parted).share_flatten_perm (turns.isPermutation round _)]
  exact congrArg (share handle) List.flatten_filter_not_isEmpty

/-- Whatever the order in each round, each source has its events handled in their order. -/
theorem share_interleave (turns : Turns) (round : Nat) (parted : Parted queues)
    (handle : Handle) :
    share handle (turns.interleave round queues) = share handle queues.flatten := by
  fun_induction interleave turns round queues with
  | case1 round queues done =>
      rw [← share_arrange turns round parted, done]
      rfl
  | case2 round queues begun arranged ih =>
      have arrangedParted : Parted arranged := parted_arrange turns round parted
      rw [share_append, ih (parted_tails arrangedParted), share_heads arrangedParted,
        share_tails arrangedParted, ← List.drop_one, List.take_append_drop,
        share_arrange turns round parted]

theorem share_order (turns : Turns) (batch : List Event) (handle : Handle) :
    share handle (turns.order batch) = share handle batch :=
  (share_interleave turns 0 (parted_bySource batch) handle).trans (share_bySource batch handle)

/-- Every event of a batch is handled, and as often as it is in the batch. -/
theorem order_perm (turns : Turns) (batch : List Event) : (turns.order batch).Perm batch := by
  rw [List.perm_iff_count]
  intro event
  have own : ∀ events : List Event,
      (share event.source events).count event = events.count event :=
    fun events => List.count_filter (decide_eq_true rfl)
  rw [← own, share_order, own]

end Turns

/-! ## The numbers of the turns -/

namespace Event

/-- How many turns the source of an event has had in some earlier ones. -/
def turn (earlier : List Event) (event : Event) : Nat :=
  (share event.source earlier).length

/-- The numbers of the turns that are taken one after the other, counted for each source by
itself. -/
def turnsAfter (earlier : List Event) : List Event -> List Nat
  | [] => []
  | event :: rest => event.turn earlier :: turnsAfter (earlier ++ [event]) rest

theorem turn_append (first second : List Event) (event : Event) :
    event.turn (first ++ second) = event.turn first + event.turn second := by
  unfold turn
  rw [share_append, List.length_append]

theorem turnsAfter_append (earlier first second : List Event) :
    turnsAfter earlier (first ++ second) =
      turnsAfter earlier first ++ turnsAfter (earlier ++ first) second := by
  induction first generalizing earlier with
  | nil => rw [List.append_nil]; rfl
  | cons event rest ih =>
      show _ :: turnsAfter (earlier ++ [event]) (rest ++ second) = _
      rw [ih, List.append_assoc]
      rfl

end Event

namespace Turns

open Event

variable {queues : List (List Event)} {earlier : List Event} {number : Nat}

/-- In a round everybody has the same turn. -/
theorem turnsAfter_heads (parted : Parted queues)
    (even : ∀ event ∈ queues.flatten, event.turn earlier = number) :
    ∀ taken ∈ turnsAfter earlier (queues.filterMap List.head?), taken = number := by
  induction queues generalizing earlier with
  | nil => exact List.forall_mem_nil _
  | cons queue rest ih =>
      cases queue with
      | nil => exact ih parted.tail even
      | cons event others =>
          show ∀ taken ∈ event.turn earlier :: turnsAfter (earlier ++ [event]) _, taken = number
          refine List.forall_mem_cons.mpr ⟨even event List.mem_cons_self, ih parted.tail ?_⟩
          intro later here
          rcases List.mem_flatten.mp here with ⟨queue, listed, within⟩
          have different := (List.pairwise_cons.mp parted.apart).1 queue listed event
            List.mem_cons_self later within
          have foreign : later.turn [event] = 0 := by
            unfold turn
            rw [share_eq_nil (List.forall_mem_singleton.mpr different)]
            rfl
          rw [turn_append, foreign]
          exact even later (List.mem_append_right _ here)

/-- Whoever is left after a round has had a turn in it. -/
theorem turn_heads (parted : Parted queues) {event : Event}
    (left : event ∈ (queues.map List.tail).flatten) :
    event.turn (queues.filterMap List.head?) = 1 := by
  have filled : share event.source (queues.map List.tail).flatten ≠ [] :=
    List.ne_nil_of_mem (mem_share.mpr ⟨left, rfl⟩)
  unfold turn
  rw [share_tails parted] at filled
  rw [share_heads parted]
  cases whole : share event.source queues.flatten with
  | nil => exact absurd (congrArg List.tail whole) filled
  | cons first rest => rfl

/-- The numbers of the turns never go down. -/
theorem turnsAfter_interleave (turns : Turns) (round : Nat) (parted : Parted queues) :
    ∀ (earlier : List Event) (number : Nat),
      (∀ event ∈ queues.flatten, event.turn earlier = number) ->
        (turnsAfter earlier (turns.interleave round queues)).Pairwise (· ≤ ·) ∧
          ∀ taken ∈ turnsAfter earlier (turns.interleave round queues), number ≤ taken := by
  fun_induction interleave turns round queues with
  | case1 => exact fun _ _ _ => ⟨List.Pairwise.nil, List.forall_mem_nil _⟩
  | case2 round queues begun arranged ih =>
      intro earlier number even
      have arrangedParted : Parted arranged := parted_arrange turns round parted
      have evenArranged : ∀ event ∈ arranged.flatten, event.turn earlier = number := by
        intro event here
        have kept : event ∈ share event.source arranged.flatten := mem_share.mpr ⟨here, rfl⟩
        rw [share_arrange turns round parted] at kept
        exact even event (mem_share.mp kept).1
      have evenLeft : ∀ event ∈ (arranged.map List.tail).flatten,
          event.turn (earlier ++ arranged.filterMap List.head?) = number + 1 := by
        intro event left
        rcases List.mem_flatten.mp left with ⟨_, listed, within⟩
        rcases List.mem_map.mp listed with ⟨queue, there, rfl⟩
        rw [turn_append, turn_heads arrangedParted left]
        rw [evenArranged event (List.mem_flatten_of_mem there (List.mem_of_mem_tail within))]
      have now := turnsAfter_heads arrangedParted evenArranged
      rcases ih (parted_tails arrangedParted) _ _ evenLeft with ⟨ascending, later⟩
      rw [turnsAfter_append]
      refine ⟨List.pairwise_append.mpr ⟨?_, ascending, ?_⟩, fun taken here => ?_⟩
      · exact List.pairwise_of_forall_mem_list fun one first other second =>
          Nat.le_of_eq ((now one first).trans (now other second).symm)
      · intro one first other second
        exact Nat.le_of_succ_le (now one first ▸ later other second)
      · rcases List.mem_append.mp here with first | second
        · exact Nat.le_of_eq (now taken first).symm
        · exact Nat.le_of_succ_le (later taken second)

theorem turnsAfter_order (turns : Turns) (batch : List Event) :
    (turnsAfter [] (turns.order batch)).Pairwise (· ≤ ·) :=
  (turnsAfter_interleave turns 0 (parted_bySource batch) [] 0 fun _ _ => rfl).1

end Turns

/-! ## Several batches -/

namespace Event

def message? : Event -> Option Message
  | .message _ said => some said
  | .ended _ _ => none

/-- What a source has said. -/
def emitted (source : Handle) (events : List Event) : List Message :=
  (share source events).filterMap message?

theorem emitted_message (source handle : Handle) (said : Message) (events : List Event) :
    emitted source (.message handle said :: events) =
      if handle = source then said :: emitted source events else emitted source events := by
  unfold emitted
  rw [share_cons]
  by_cases own : handle = source
  · rw [if_pos own]
    exact (congrArg _ (if_pos own)).trans (List.filterMap_cons_some rfl)
  · rw [if_neg own]
    exact congrArg _ (if_neg own)

theorem emitted_ended (source handle : Handle) (cause : String) (events : List Event) :
    emitted source (.ended handle cause :: events) = emitted source events := by
  unfold emitted
  rw [share_cons]
  split
  · exact List.filterMap_cons_none rfl
  · rfl

end Event

namespace Turns

open Event

/-- The events of several batches in the order in which they are handled. -/
def handled (batches : List (Turns × List Event)) : List Event :=
  batches.flatMap fun batch => batch.1.order batch.2

/-- How the events are cut into batches cannot be seen in those of one source. -/
theorem share_handled (batches : List (Turns × List Event)) (source : Handle) :
    share source (handled batches) = share source (batches.flatMap Prod.snd) := by
  induction batches with
  | nil => rfl
  | cons batch rest ih =>
      have split : handled (batch :: rest) = batch.1.order batch.2 ++ handled rest := rfl
      rw [split, List.flatMap_cons, share_append, share_append, share_order, ih]

end Turns

/-! ## From the events to the queues -/

def Moment.event? : Moment -> Option Event
  | .met _ (.event event) => some event
  | .met _ (.arrival _) | .met _ (.poll _) | .met _ (.upkeep _) | .delivered _ => none

def Moment.delivery? : Moment -> Option Delivery
  | .delivered delivery => some delivery
  | .met _ _ => none

/-- Whether the frame was put into the queue of a module. -/
def Delivery.reaches (delivery : Delivery) (handle : Handle) : Bool :=
  delivery.attempts.any (· = (handle, .delivered))

theorem Delivery.reaches_iff {delivery : Delivery} {handle : Handle} :
    delivery.reaches handle = true ↔ (handle, .delivered) ∈ delivery.attempts := by
  simp [reaches]

namespace History

open Event

/-- The events that a broker has met in a run. -/
def events (history : List Moment) : List Event :=
  history.filterMap Moment.event?

def deliveries (history : List Moment) : List Delivery :=
  history.filterMap Moment.delivery?

/-- The deliveries of frames that the broker has not written itself. -/
def relays (history : List Moment) : List Delivery :=
  (deliveries history).filter (·.pending.outbound.provenance = .forwarded)

/-- The messages that were met and passed on. -/
def accepted (history : List Moment) : List Inbound :=
  (inbound history).filter (·.passedOn?.isSome)

/-- The messages whose frames were put into a queue.  The first message that was accepted
belongs to the first frame that was handed on, and so forth. -/
def origins (handle : Handle) (history : List Moment) : List Inbound :=
  (((accepted history).zip (relays history)).filter fun pair => pair.2.reaches handle).map Prod.fst

/-- What was met of a source is what the source has said. -/
theorem heard_inbound (source : Handle) (history : List Moment) :
    heard source (inbound history) = emitted source (events history) := by
  induction history with
  | nil => rfl
  | cons moment history ih =>
      cases moment with
      | delivered delivery => exact ih
      | met broker occasion =>
          cases occasion with
          | arrival peer => exact ih
          | poll now => exact ih
          | upkeep clock => exact ih
          | event event =>
              cases event with
              | ended handle cause => exact ih.trans (emitted_ended ..).symm
              | message handle said =>
                  show heard source (⟨broker, handle, said⟩ :: inbound history) =
                    emitted source (.message handle said :: events history)
                  rw [emitted_message, ← ih]
                  by_cases own : handle = source
                  · rw [if_pos own]
                    exact heard_cons_self own
                  · rw [if_neg own]
                    exact heard_cons_of_ne own

theorem accepted_map (history : List Moment) :
    (accepted history).map Inbound.passedOn? = (passedOn history).map some := by
  rw [passedOn_eq_filterMap]
  unfold accepted
  induction inbound history with
  | nil => rfl
  | cons arrival arrivals ih =>
      cases passed : arrival.passedOn? with
      | none =>
          rw [List.filter_cons_of_neg (by simp [passed]), List.filterMap_cons_none passed, ih]
      | some pending =>
          rw [List.filter_cons_of_pos (by simp [passed]), List.filterMap_cons_some passed,
            List.map_cons, List.map_cons, ih, passed]

theorem taken_eq (history : List Moment) :
    taken history = (deliveries history).map Delivery.pending := by
  induction history with
  | nil => rfl
  | cons moment history ih =>
      cases moment with
      | met broker occasion => exact ih
      | delivered delivery => exact congrArg (delivery.pending :: ·) ih

theorem received_eq (handle : Handle) (history : List Moment) :
    received handle history =
      ((deliveries history).filter (·.reaches handle)).map Delivery.pending := by
  induction history with
  | nil => rfl
  | cons moment history ih =>
      cases moment with
      | met broker occasion => exact ih
      | delivered delivery =>
          show (if (handle, .delivered) ∈ delivery.attempts then [delivery.pending] else []) ++
              received handle history =
            ((delivery :: deliveries history).filter _).map _
          rw [ih, List.filter_cons]
          by_cases put : (handle, .delivered) ∈ delivery.attempts
          · rw [if_pos put, if_pos (Delivery.reaches_iff.mpr put)]
            rfl
          · rw [if_neg put, if_neg (Delivery.reaches_iff.not.mpr put)]
            rfl

/-- Of what the broker handed on, a queue has what was put into it. -/
theorem forwarded_received (handle : Handle) (history : List Moment) :
    forwarded (received handle history) =
      ((relays history).filter (·.reaches handle)).map Delivery.pending := by
  unfold forwarded relays
  rw [received_eq, List.filter_map, List.filter_comm]
  rfl

theorem forwarded_taken (history : List Moment) :
    forwarded (taken history) = (relays history).map Delivery.pending := by
  unfold forwarded relays
  rw [taken_eq, List.filter_map]
  rfl

/-- Every message among the origins was met, in this order. -/
theorem origins_sublist (handle : Handle) (history : List Moment) :
    (origins handle history).Sublist (inbound history) := by
  have firsts : ∀ (arrivals : List Inbound) (deliveries : List Delivery),
      ((arrivals.zip deliveries).map Prod.fst).Sublist arrivals := by
    intro arrivals
    induction arrivals with
    | nil => exact fun _ => List.nil_sublist _
    | cons arrival rest ih =>
        intro deliveries
        cases deliveries with
        | nil => exact List.nil_sublist _
        | cons delivery later => exact (ih later).cons_cons arrival
  exact (List.filter_sublist.map _).trans ((firsts _ _).trans List.filter_sublist)

end History

namespace Bus

open History Event

variable {behaviour : Behaviour σ} {config : Config} {bus : Bus σ}

/-- The frames in a queue that are not the broker's own are those of their origins. -/
theorem Reachable.passedOn_origins (reachable : bus.Reachable behaviour config)
    (handle : Handle) :
    (origins handle bus.history).map Inbound.passedOn? =
      (forwarded (received handle bus.history)).map some := by
  -- As many accepted messages as frames have left the outbox are their origins.
  have pairs : ∀ (arrivals : List Inbound) (deliveries : List Delivery) (rest : List Pending),
      arrivals.map Inbound.passedOn? = (deliveries.map Delivery.pending ++ rest).map some ->
        (((arrivals.zip deliveries).filter fun pair => pair.2.reaches handle).map
            Prod.fst).map Inbound.passedOn? =
          ((deliveries.filter (·.reaches handle)).map Delivery.pending).map some := by
    intro arrivals deliveries rest same
    induction deliveries generalizing arrivals with
    | nil => rw [List.zip_nil_right]; rfl
    | cons delivery later ih =>
        cases arrivals with
        | nil => cases same
        | cons arrival others =>
            rcases List.cons.inj same with ⟨first, left⟩
            rw [List.zip_cons_cons, List.filter_cons, List.filter_cons]
            cases delivery.reaches handle with
            | true => simp only [if_true, List.map_cons, first, ih others left]
            | false => simp only [Bool.false_eq_true, if_false, ih others left]
  rw [forwarded_received]
  refine pairs _ _ (forwarded bus.broker.outbox) ?_
  rw [accepted_map, reachable.passedOn_eq, forwarded_taken]

/-- In whatever batches the events came, and in whatever order the sources had their turn in
a round: a batch is handled as a whole and once, each source has its events handled in their
order, and no source has another turn while somebody is waiting for an earlier one.  So
what a queue gets besides the broker's own frames are messages that were accepted, and those
of one source are, each at most once, in the order in which the source has said them. -/
theorem Reachable.takes_turns (reachable : bus.Reachable behaviour config)
    {batches : List (Turns × List Event)} (met : events bus.history <+: Turns.handled batches) :
    (∀ (turns : Turns) (batch : List Event),
        (turns.order batch).Perm batch ∧
          (∀ source, share source (turns.order batch) = share source batch) ∧
          (turnsAfter [] (turns.order batch)).Pairwise (· ≤ ·)) ∧
      ∀ destination,
        bus.contents destination = (received destination bus.history).map Pending.outbound ∧
          (origins destination bus.history).map Inbound.passedOn? =
            (forwarded (received destination bus.history)).map some ∧
          (origins destination bus.history).Sublist (inbound bus.history) ∧
          ∀ source, (heard source (origins destination bus.history)).Sublist
            (emitted source (batches.flatMap Prod.snd)) := by
  refine ⟨fun turns batch => ⟨turns.order_perm batch, turns.share_order batch,
    turns.turnsAfter_order batch⟩, fun destination => ?_⟩
  have inOrder := origins_sublist destination bus.history
  refine ⟨reachable.contents_eq destination, reachable.passedOn_origins destination, inOrder,
    fun source => ?_⟩
  have said : (heard source (inbound bus.history)).Sublist
      (emitted source (batches.flatMap Prod.snd)) := by
    rw [heard_inbound]
    unfold emitted
    rw [← Turns.share_handled]
    exact (met.sublist.filter _).filterMap _
  exact ((inOrder.filter _).map _).trans said

/-- Most of a batch is of one module.  The other one has its turns in between, so its request
is served before the second message is passed on, and it gets this one only. -/
theorem takes_turns_of_batch :
    let hello (id : ModuleId) : Message :=
      { header := { messageType := MessageType.connect, sourceModule := id, dataBytes := 4 }
        timecode := none
        payload := [0, 0, 0, 0] }
    let said (byte : UInt8) : Message :=
      { header := { messageType := 1234, sourceModule := 7, dataBytes := 1 }
        timecode := none
        payload := [byte] }
    let wish : Message :=
      { header := { messageType := MessageType.subscribe, sourceModule := 8, dataBytes := 4 }
        timecode := none
        payload := [210, 4, 0, 0] }
    let batch : List Event := [.message 1 (hello 7), .message 1 (said 3), .message 1 (said 4),
      .message 2 (hello 8), .message 2 wish]
    let turns : List Event := [.message 1 (hello 7), .message 2 (hello 8), .message 1 (said 3),
      .message 2 wish, .message 1 (said 4)]
    let arrival : Move (Handle -> Nat) := .occasion (.arrival ⟨.v4 [127, 0, 0, 1], 7111, 0⟩)
    let bus := (vacant 20).run QueueRule.bounded.each ([arrival, arrival] ++
      turns.flatMap fun event => .occasion (.event event) :: List.replicate 4 .deliver)
    Turns.asTheyCame.order batch = turns ∧
      heard 1 (origins 2 bus.history) = [said 4] ∧
      (heard 1 (origins 2 bus.history)).Sublist (emitted 1 batch) := by
  intro hello said wish batch turns arrival bus
  have inTurn : Turns.asTheyCame.order batch = turns := by
    unfold Turns.order
    rw [Turns.interleave_of_ne_nil (by decide +kernel),
      Turns.interleave_of_ne_nil (by decide +kernel),
      Turns.interleave_of_ne_nil (by decide +kernel),
      Turns.interleave_of_nil (by decide +kernel)]
    decide +kernel
  have reachable : bus.Reachable QueueRule.bounded.each {} := (vacant_reachable 20).run _
  have met : events bus.history <+: Turns.handled [(.asTheyCame, batch)] := by
    have handled : Turns.handled [(.asTheyCame, batch)] = turns := by
      unfold Turns.handled
      rw [List.flatMap_cons, inTurn]
      rfl
    rw [handled]
    decide +kernel
  exact ⟨inTurn, by decide +kernel, ((reachable.takes_turns met).2 2).2.2.2 1⟩

end Bus

end MessageBus
