import MessageBus.Proofs.Obituaries
import MessageBus.Proofs.Requests

namespace MessageBus

open Wire History

/-!
# Gone once and for all

A connection is reported as over from several sides.  Whoever reads from it reports the end of
what comes in, whoever writes to it reports that nothing goes out any more, the broker may have
found out by itself in the middle of a delivery, and messages of the connection may still be on
their way.  No order is kept among these, and none is needed, because each of them names the
connection by its handle, and the handle finds nothing as soon as the first of them was heard.

So there are two things to show.  An event about a handle that finds nothing changes nothing
(`Broker.Sound.observe_of_gone`), and a handle that finds nothing never finds anything again, since
handles count up.  The account of a whole run is then the `Roll` of those who have left: each
connection that came and is not there any more stands on it once, each of them was put down to
be closed, and all that was written about connections that are over was written about them, one
line and one notice at most for each.
-/

namespace History

/-- The handles that were given to connections, in the order in which they came. -/
def arrivals (history : List Moment) : List Handle :=
  history.flatMap fun
    | .met broker (.arrival peer) => [(broker.attach peer).1]
    | .met _ (.event _) | .met _ (.poll _) | .met _ (.upkeep _) | .delivered _ => []

/-- The orders to close a connection that have been passed on. -/
def closed (history : List Moment) : List (Handle × Farewell) :=
  history.flatMap fun
    | .met broker (.upkeep _) => broker.closings
    | .met _ (.event _) | .met _ (.poll _) | .met _ (.arrival _) | .delivered _ => []

theorem arrivals_append (first second : List Moment) :
    arrivals (first ++ second) = arrivals first ++ arrivals second :=
  List.flatMap_append

theorem closed_append (first second : List Moment) :
    closed (first ++ second) = closed first ++ closed second :=
  List.flatMap_append

end History

namespace Broker

variable {broker : Broker} {config : Config} {handle : Handle}

/-- What is heard of a connection that is gone is not heard. -/
theorem Sound.observe_of_gone (sound : broker.Sound config) {event : Event}
    (gone : broker.modules.contains event.source = false) : broker.observe event = broker := by
  cases event with
  | message handle message => exact if_neg (Bool.eq_false_iff.mp gone)
  | ended handle cause =>
      exact sound.remove_of_gone (ModuleTable.get?_eq_none_iff.mpr gone) (.lost cause)

theorem contains_attach (sound : broker.Sound config) (peer : SocketAddress) (handle : Handle) :
    (broker.attach peer).2.modules.contains handle = true ↔
      handle = broker.modules.lastHandle + 1 ∨ broker.modules.contains handle = true := by
  show (broker.modules.insert peer).2.contains handle = true ↔ _
  unfold ModuleTable.contains
  by_cases own : handle = broker.modules.lastHandle + 1
  · subst own
    have fresh := sound.modules.get?_of_lt (Nat.lt_succ_self broker.modules.lastHandle)
    rw [ModuleTable.get?_insert_self peer fresh]
    simp
  · rw [ModuleTable.get?_insert_of_ne peer own]
    simp [own]

end Broker

namespace Bus

open Broker

variable {behaviour : Behaviour σ} {config : Config} {bus next : Bus σ} {handle : Handle}
  {pending : Pending} {outbox : List Pending} {partings new : List Parting}

/-! ## Steps that bury -/

/-- A step of a run that is no arrival and does not pass on any orders. -/
structure StepBuries (behaviour : Behaviour σ) (bus next : Bus σ) (new : List Parting) : Prop where
  step : ∃ move, next = bus.step behaviour move
  arrivals : arrivals next.history = arrivals bus.history
  closed : closed next.history = closed bus.history
  buries : ∃ outbox, Broker.Buries { bus.broker with outbox } next.broker new ∧
    taken next.history ++ outbox = taken bus.history ++ bus.broker.outbox

theorem stepBuries_event (behaviour : Behaviour σ) (sound : bus.broker.Sound config)
    (event : Event) :
    ∃ new, StepBuries behaviour bus (bus.step behaviour (.occasion (.event event))) new := by
  rcases buries_observe sound event with ⟨new, buries⟩
  refine ⟨new, ⟨_, rfl⟩, ?_, ?_, bus.broker.outbox, buries, ?_⟩
  · exact (arrivals_append ..).trans (List.append_nil _)
  · exact (closed_append ..).trans (List.append_nil _)
  · exact congrArg (· ++ _) ((taken_append ..).trans (List.append_nil _))

theorem stepBuries_poll (behaviour : Behaviour σ) (bus : Bus σ) (now : Milliseconds) :
    StepBuries behaviour bus (bus.step behaviour (.occasion (.poll now))) [] := by
  refine ⟨⟨_, rfl⟩, ?_, ?_, bus.broker.outbox, buriesNobody_report now, ?_⟩
  · exact (arrivals_append ..).trans (List.append_nil _)
  · exact (closed_append ..).trans (List.append_nil _)
  · exact congrArg (· ++ _) ((taken_append ..).trans (List.append_nil _))

theorem stepBuries_deliver (behaviour : Behaviour σ) (sound : bus.broker.Sound config)
    (isNext : bus.broker.outbox = pending :: outbox) :
    ∃ new, StepBuries behaviour bus (bus.step behaviour .deliver) new := by
  rcases (course_handOut behaviour sound pending outbox).buries with ⟨new, buries, _⟩
  have delivered : bus.step behaviour .deliver = _ := deliver_of_cons behaviour isNext
  refine ⟨new, ⟨_, rfl⟩, ?_, ?_, outbox, ?_, ?_⟩
  · rw [delivered]
    exact (arrivals_append ..).trans (List.append_nil _)
  · rw [delivered]
    exact (closed_append ..).trans (List.append_nil _)
  · rw [delivered]
    exact buries
  · rw [delivered, isNext]
    show taken (bus.history ++ [_]) ++ outbox = _
    rw [taken_append, List.append_assoc]
    rfl

/-! ## Who has come -/

/-- Handles are counted up from one, and whoever is there was given one of them. -/
structure Arrived (bus : Bus σ) : Prop where
  counted : arrivals bus.history = List.range' 1 bus.broker.modules.lastHandle
  given : ∀ handle, bus.broker.modules.contains handle = true -> handle ∈ arrivals bus.history

theorem Arrived.step (arrived : bus.Arrived) (buries : StepBuries behaviour bus next new) :
    next.Arrived := by
  rcases buries.buries with ⟨outbox, buried, _⟩
  refine ⟨?_, fun handle there => ?_⟩
  · rw [buries.arrivals, arrived.counted, buried.lastHandle]
  · rw [buries.arrivals]
    exact arrived.given handle ((buried.present handle).mp there).1

theorem Reachable.arrived (reachable : bus.Reachable behaviour config) : bus.Arrived := by
  induction reachable using stepwise with
  | start started queues =>
      rcases start_eq started with ⟨_, rfl⟩
      exact ⟨rfl, fun handle there => nomatch there⟩
  | @met bus reachable ih occasion =>
      cases occasion with
      | event event =>
          rcases stepBuries_event behaviour reachable.sound event with ⟨new, buries⟩
          exact ih.step buries
      | poll now => exact ih.step (stepBuries_poll behaviour bus now)
      | arrival peer =>
          have added : arrivals (bus.history ++ [.met bus.broker (.arrival peer)]) =
              arrivals bus.history ++ [bus.broker.modules.lastHandle + 1] := arrivals_append ..
          refine ⟨?_, fun handle there => ?_⟩
          · show arrivals (bus.history ++ [_]) = List.range' 1 (bus.broker.modules.lastHandle + 1)
            rw [added, ih.counted, List.range'_concat]
            simp [Nat.add_comm]
          · show handle ∈ arrivals (bus.history ++ [_])
            rw [added]
            rcases (contains_attach reachable.sound peer handle).mp there with rfl | before
            · exact List.mem_append_right _ List.mem_cons_self
            · exact List.mem_append_left _ (ih.given handle before)
      | upkeep clock =>
          have same : arrivals (bus.history ++ [.met bus.broker (.upkeep clock)]) =
              arrivals bus.history := (arrivals_append ..).trans (List.append_nil _)
          exact ⟨same.trans ih.counted, fun handle there => same ▸ ih.given handle there⟩
  | readers reachable ih queues => exact ⟨ih.counted, ih.given⟩
  | delivered reachable ih isNext =>
      rcases stepBuries_deliver behaviour reachable.sound isNext with ⟨new, buries⟩
      exact ih.step buries

/-! ## Who has left -/

/-- The account of those who have left in a run. -/
structure Roll (behaviour : Behaviour σ) (config : Config) (bus : Bus σ) (partings : List Parting) :
    Prop where
  /-- Nobody leaves twice. -/
  once : (partings.map Parting.handle).Nodup
  /-- They are those who came and are not there any more. -/
  complete : ∀ handle, handle ∈ partings.map Parting.handle ↔
    handle ∈ arrivals bus.history ∧ bus.broker.modules.contains handle = false
  /-- They had these records when they left. -/
  records : ∀ parting ∈ partings, ∃ (earlier : Bus σ) (move : Move σ) (moves : List (Move σ)),
    earlier.Reachable behaviour config ∧ bus = (earlier.step behaviour move).run behaviour moves ∧
      earlier.broker.modules.get? parting.handle = some parting.module ∧
      (earlier.step behaviour move).broker.modules.contains parting.handle = false
  /-- The orders to close a connection, carried out or not, are about them. -/
  closings : closed bus.history ++ bus.broker.closings = partings.map Parting.closing
  /-- The notices that somebody has left and the errors in the log, delivered or not, are
  about them. -/
  frames : List.Forall₂ (Pending.IsAbout config.format)
    (obituaries config.format (taken bus.history ++ bus.broker.outbox))
    (partings.flatMap Parting.obituaries)

namespace Roll

/-- Who has left before a step has left before the next one. -/
theorem records_step (roll : Roll behaviour config bus partings) (move : Move σ) :
    ∀ parting ∈ partings, ∃ (earlier : Bus σ) (last : Move σ) (moves : List (Move σ)),
      earlier.Reachable behaviour config ∧
        bus.step behaviour move = (earlier.step behaviour last).run behaviour moves ∧
        earlier.broker.modules.get? parting.handle = some parting.module ∧
        (earlier.step behaviour last).broker.modules.contains parting.handle = false := by
  intro parting here
  rcases roll.records parting here with ⟨earlier, last, moves, reachable, rfl, found, gone⟩
  refine ⟨earlier, last, moves ++ [move], reachable, ?_, found, gone⟩
  unfold run
  rw [List.foldl_append]
  rfl

theorem step (roll : Roll behaviour config bus partings)
    (reachable : bus.Reachable behaviour config) (buries : StepBuries behaviour bus next new) :
    Roll behaviour config next (partings ++ new) := by
  rcases buries with ⟨⟨move, rfl⟩, sameArrivals, sameClosed, outbox, buried, frames⟩
  have there : ∀ parting ∈ new, bus.broker.modules.contains parting.handle = true :=
    fun parting here => ModuleTable.contains_iff.mpr ⟨parting.module, buried.found parting here⟩
  have absent : ∀ handle, (bus.step behaviour move).broker.modules.contains handle = false ↔
      bus.broker.modules.contains handle = false ∨ handle ∈ new.map Parting.handle := by
    intro handle
    rw [Bool.eq_false_iff, ne_eq, buried.present, not_and_or, not_not]
    exact or_congr_left Bool.eq_false_iff.symm
  constructor
  · rw [List.map_append, List.nodup_append']
    refine ⟨roll.once, buried.distinct, fun handle old here => ?_⟩
    rcases List.mem_map.mp here with ⟨parting, among, rfl⟩
    have gone := ((roll.complete _).mp old).2
    rw [there parting among] at gone
    cases gone
  · intro handle
    rw [List.map_append, List.mem_append, roll.complete, sameArrivals, absent]
    constructor
    · rintro (⟨came, gone⟩ | here)
      · exact ⟨came, Or.inl gone⟩
      · rcases List.mem_map.mp here with ⟨parting, among, rfl⟩
        exact ⟨reachable.arrived.given _ (there parting among), Or.inr here⟩
    · rintro ⟨came, gone | here⟩
      · exact Or.inl ⟨came, gone⟩
      · exact Or.inr here
  · intro parting here
    rcases List.mem_append.mp here with old | late
    · exact roll.records_step move parting old
    · have gone := (absent parting.handle).mpr (Or.inr (List.mem_map_of_mem late))
      exact ⟨bus, move, [], reachable, rfl, buried.found parting late, gone⟩
  · rw [sameClosed, buried.closings, ← List.append_assoc, List.map_append]
    exact congrArg (· ++ _) roll.closings
  · rcases buried.frames with ⟨added, outboxAfter, about⟩
    have all : taken (bus.step behaviour move).history ++ (bus.step behaviour move).broker.outbox =
        taken bus.history ++ bus.broker.outbox ++ added := by
      rw [outboxAfter, ← List.append_assoc, frames]
    rw [all, obituaries_append, List.flatMap_append]
    exact List.rel_append roll.frames (reachable.sound.config_eq ▸ about)

theorem arrival (roll : Roll behaviour config bus partings)
    (reachable : bus.Reachable behaviour config) (peer : SocketAddress) :
    Roll behaviour config (bus.step behaviour (.occasion (.arrival peer))) partings := by
  have added : arrivals (bus.history ++ [.met bus.broker (.arrival peer)]) =
      arrivals bus.history ++ [bus.broker.modules.lastHandle + 1] := arrivals_append ..
  have unused : bus.broker.modules.lastHandle + 1 ∉ arrivals bus.history := by
    rw [reachable.arrived.counted, List.mem_range'_1]
    omega
  constructor
  · exact roll.once
  · intro handle
    have absent : (bus.broker.attach peer).2.modules.contains handle = false ↔
        handle ≠ bus.broker.modules.lastHandle + 1 ∧
          bus.broker.modules.contains handle = false := by
      rw [Bool.eq_false_iff, ne_eq, contains_attach reachable.sound, not_or, Bool.eq_false_iff]
    show _ ↔ handle ∈ arrivals (bus.history ++ [_]) ∧
      (bus.broker.attach peer).2.modules.contains handle = false
    rw [roll.complete, added, List.mem_append, List.mem_singleton, absent]
    constructor
    · rintro ⟨came, gone⟩
      exact ⟨Or.inl came, fun own => unused (own ▸ came), gone⟩
    · rintro ⟨came, different, gone⟩
      exact ⟨came.resolve_right different, gone⟩
  · exact roll.records_step _
  · show closed (bus.history ++ [_]) ++ bus.broker.closings = _
    rw [closed_append]
    exact (congrArg (· ++ _) (List.append_nil _)).trans roll.closings
  · show List.Forall₂ _ (obituaries _ (taken (bus.history ++ [_]) ++ bus.broker.outbox)) _
    rw [taken_append]
    exact (List.append_nil (taken bus.history)).symm ▸ roll.frames

/-- What was put down to be closed is closed. -/
theorem upkeep (roll : Roll behaviour config bus partings) (clock : ClockReading) :
    Roll behaviour config (bus.step behaviour (.occasion (.upkeep clock))) partings := by
  have sameArrivals : arrivals (bus.history ++ [.met bus.broker (.upkeep clock)]) =
      arrivals bus.history := (arrivals_append ..).trans (List.append_nil _)
  have sameTaken : taken (bus.history ++ [.met bus.broker (.upkeep clock)]) =
      taken bus.history := (taken_append ..).trans (List.append_nil _)
  constructor
  · exact roll.once
  · intro handle
    show _ ↔ handle ∈ arrivals (bus.history ++ [_]) ∧ _
    rw [sameArrivals]
    exact roll.complete handle
  · exact roll.records_step _
  · show closed (bus.history ++ [_]) ++ [] = _
    rw [List.append_nil, closed_append]
    exact (congrArg (_ ++ ·) (List.append_nil _)).trans roll.closings
  · show List.Forall₂ _ (obituaries _ (taken (bus.history ++ [_]) ++ bus.broker.outbox)) _
    rw [sameTaken]
    exact roll.frames

end Roll

theorem Reachable.roll (reachable : bus.Reachable behaviour config) :
    ∃ partings, Roll behaviour config bus partings := by
  induction reachable using stepwise with
  | start started queues =>
      rcases start_eq started with ⟨_, rfl⟩
      exact ⟨[], {
        once := List.nodup_nil
        complete := fun _ => by simp [arrivals]
        records := List.forall_mem_nil _
        closings := rfl
        frames := .nil }⟩
  | @met bus reachable ih occasion =>
      rcases ih with ⟨partings, roll⟩
      cases occasion with
      | event event =>
          rcases stepBuries_event behaviour reachable.sound event with ⟨new, buries⟩
          exact ⟨_, roll.step reachable buries⟩
      | poll now => exact ⟨_, roll.step reachable (stepBuries_poll behaviour bus now)⟩
      | arrival peer => exact ⟨_, roll.arrival reachable peer⟩
      | upkeep clock => exact ⟨_, roll.upkeep clock⟩
  | readers reachable ih queues =>
      rcases ih with ⟨partings, roll⟩
      exact ⟨partings, { roll with records := roll.records_step (.readers queues) }⟩
  | delivered reachable ih isNext =>
      rcases ih with ⟨partings, roll⟩
      rcases stepBuries_deliver behaviour reachable.sound isNext with ⟨new, buries⟩
      exact ⟨_, roll.step reachable buries⟩

/-! ## Nobody leaves twice -/

/-- Handles count up, and are not given again.  Whoever came and is not there any more is not
heard again, whatever else happens before the event, and everybody who has left has left once. -/
theorem Reachable.departs_once (reachable : bus.Reachable behaviour config) :
    (arrivals bus.history).Pairwise (· < ·) ∧
      (∀ handle, bus.broker.modules.contains handle = true -> handle ∈ arrivals bus.history) ∧
      (∀ handle ∈ arrivals bus.history, bus.broker.modules.contains handle = false ->
        ∀ (moves : List (Move σ)) (event : Event), event.source = handle ->
          let later := bus.run behaviour moves
          later.step behaviour (.occasion (.event event)) =
            { later with history := later.history ++ [.met later.broker (.event event)] }) ∧
      ∃ partings, Roll behaviour config bus partings := by
  have arrived := reachable.arrived
  refine ⟨?_, arrived.given, ?_, reachable.roll⟩
  · rw [arrived.counted]
    exact List.pairwise_lt_range' 1
  · rintro handle came absent moves event rfl later
    have given : event.source ≤ bus.broker.modules.lastHandle := by
      rw [arrived.counted, List.mem_range'_1] at came
      exact Nat.le_of_lt_succ (came.2.trans_eq (Nat.add_comm 1 _))
    have gone : later.broker.modules.contains event.source = false :=
      ModuleTable.get?_eq_none_iff.mp
        ((succeeds_run behaviour reachable.sound moves).get?_eq_none given
          (ModuleTable.get?_eq_none_iff.mpr absent))
    show { later with broker := later.broker.observe event, history := _ } = _
    rw [(reachable.run moves).sound.observe_of_gone gone]

/-- The logger without room is lost at a delivery.  What it had still sent, and the report that
it has hung up, come too late and change nothing, whichever comes first, and it has left once. -/
theorem departs_once_of_crowded :
    let bus := crowded.run QueueRule.bounded.each (List.replicate 2 .deliver)
    let hungUp : Event := .ended 1 "Peer closed connection"
    let asked : Event := .message 1
      { header := { messageType := MessageType.subscribe, sourceModule := 0, dataBytes := 4 }
        timecode := none
        payload := [0xD2, 4, 0, 0] }
    let late (first second : Event) : Bus (Handle -> Nat) :=
      bus.run QueueRule.bounded.each [.occasion (.event first), .occasion (.event second)]
    arrivals bus.history = [1, 2] ∧ bus.broker.modules.contains 1 = false ∧
      (late hungUp asked).broker = bus.broker ∧ (late asked hungUp).broker = bus.broker ∧
      ∃ partings, Roll QueueRule.bounded.each {} bus partings ∧
        partings.map Parting.handle = [1] := by
  intro bus hungUp asked late
  have reachable : bus.Reachable QueueRule.bounded.each {} :=
    ((vacant_reachable 1).run _).run _
  have came : arrivals bus.history = [1, 2] := by decide +kernel
  have gone : bus.broker.modules.contains 1 = false := by decide +kernel
  have stays : bus.broker.modules.contains 2 = true := by decide +kernel
  rcases reachable.departs_once with ⟨_, _, unheard, partings, roll⟩
  have unheard := unheard 1 (came ▸ List.mem_cons_self) gone
  have both (first second : Event) (own : first.source = 1) (alsoOwn : second.source = 1) :
      (late first second).broker = bus.broker := by
    have one := congrArg Bus.broker (unheard [] first own)
    have two := congrArg Bus.broker (unheard [.occasion (.event first)] second alsoOwn)
    exact two.trans one
  refine ⟨came, gone, both hungUp asked rfl rfl, both asked hungUp rfl rfl, partings, roll, ?_⟩
  have only : ∀ handle, handle ∈ partings.map Parting.handle ↔ handle = 1 := by
    intro handle
    rw [roll.complete, came]
    constructor
    · rintro ⟨here, absent⟩
      rcases List.mem_pair.mp here with rfl | rfl
      · rfl
      · exact nomatch stays.symm.trans absent
    · rintro rfl
      exact ⟨List.mem_cons_self, gone⟩
  exact List.perm_singleton.mp
    ((List.perm_ext_iff_of_nodup roll.once (List.nodup_singleton 1)).mpr fun handle => by
      rw [only, List.mem_singleton])

end Bus

end MessageBus
