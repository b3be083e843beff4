import MessageBus.Proofs.Enrollment
import MessageBus.Proofs.Traffic

namespace MessageBus

open Wire History

/-!
# What the timing reports of a run say

A timing report has a slot for every type below a bound and a slot for every number that a
module can have.  Its table of counts cannot be added up again, because a slot holds no more than
65535; so what is shown is what every single report says, of every count that the counter could
hold.  At a `Due` instant the tally is taken,
and in between it is what was counted since the last such instant (`Bus.IsTimed.counted`).  This
does not depend on whether anybody gets to see a report, nor on the traffic reports, which have a
tally of their own.

A table of process numbers is filled from the list of modules, and what comes later in the list
overwrites what came before.  The list ascends in the handles.  Slot 0 is filled first, with the
manager's own number, and stays because no registered module has the number 0; and no module is
left out because the numbers end where the table does (`Config.maxModules_le`).
-/

/-! ## Tables filled in any order -/

section Slots

variable {α β : Type} {size slot : Nat} {table : Vector α size} {key : β -> Int} {value : β -> α}
  {entry : β} {entries early late : List β}

theorem fillSlots_cons (table : Vector α size) (entry : β) (rest : List β) :
    fillSlots table ((entry :: rest).map fun entry => (key entry, value entry)) =
      fillSlots
        (if key entry < 0 then table else table.setIfInBounds (key entry).toNat (value entry))
        (rest.map fun entry => (key entry, value entry)) := rfl

theorem fillSlots_zero (table : Vector α size) (first : α) (slots : List (Int × α)) :
    fillSlots table ((0, first) :: slots) = fillSlots (table.setIfInBounds 0 first) slots := rfl

/-- A slot that nothing is meant for stays as it is. -/
theorem getElem_fillSlots_of_absent (inside : slot < size)
    (absent : ∀ entry ∈ entries, key entry ≠ slot) :
    (fillSlots table (entries.map fun entry => (key entry, value entry)))[slot] = table[slot] := by
  induction entries generalizing table with
  | nil => rfl
  | cons entry rest ih =>
      rcases List.forall_mem_cons.mp absent with ⟨other, later⟩
      rw [fillSlots_cons, ih later]
      split
      · rfl
      · apply Vector.getElem_setIfInBounds_ne
        omega

/-- Of several values that are meant for one slot the last one is in it. -/
theorem getElem_fillSlots_of_last (inside : slot < size) (meant : key entry = slot)
    (last : ∀ later ∈ late, key later ≠ slot) :
    (fillSlots table ((early ++ entry :: late).map fun entry => (key entry, value entry)))[slot] =
      value entry := by
  induction early generalizing table with
  | nil =>
      have number : (key entry).toNat = slot := by omega
      rw [List.nil_append, fillSlots_cons, getElem_fillSlots_of_absent inside last,
        if_neg (by omega), number, Vector.getElem_setIfInBounds_self]
  | cons other rest ih =>
      rw [List.cons_append, fillSlots_cons]
      exact ih

end Slots

/-- A type that is not listed was not counted. -/
theorem Tally.get_of_absent {tally : Tally} {messageType : MessageType}
    (absent : ∀ entry ∈ tally, entry.1 ≠ messageType) : tally.get messageType = 0 := by
  unfold get
  rw [List.lookup_eq_none_iff.mpr fun entry here => bne_iff_ne.mpr (absent entry here).symm]
  rfl

namespace Timing

variable {tally : Tally} {own : Int32} {modules early late : List Module} {module : Module}
  {sendTime : UInt64} {slot : Nat}

theorem toNat_slotOf (count : Nat) : (slotOf count).toNat = min 65535 (count % 2 ^ 32) := by
  have holds : min (UInt32.ofNat count).toNat 65535 < 2 ^ 16 :=
    Nat.lt_of_le_of_lt (Nat.min_le_right ..) (by decide)
  rw [slotOf, UInt16.toNat_ofNat_of_lt' holds, UInt32.toNat_ofNat', Nat.min_comm]

/-- A slot of the counts holds what the counter does, or the most that it can hold. -/
theorem counts_ofTally (proper : tally.IsProper) (inside : slot < Limit.countedTypes) :
    (ofTally tally own modules sendTime).counts[slot].toNat =
      min 65535 (tally.get (Int32.ofNat slot) % 2 ^ 32) := by
  have number : (Int32.ofNat slot).toInt = slot :=
    Int32.toInt_ofNat_of_lt (Nat.lt_trans inside (by decide))
  have counts : (ofTally tally own modules sendTime).counts =
      fillSlots (Vector.replicate _ 0) (tally.map fun entry =>
        (entry.1.toInt, slotOf entry.2)) := rfl
  rw [counts]
  by_cases listed : ∃ entry ∈ tally, entry.1 = Int32.ofNat slot
  · rcases listed with ⟨entry, here, same⟩
    have counted := Tally.get_of_mem proper here
    rcases List.append_of_mem here with ⟨early, late, rfl⟩
    have ascends := (List.pairwise_append.mp proper.ascending).2.1
    have last : ∀ later ∈ late, later.1.toInt ≠ slot := by
      intro later there isSlot
      apply Int32.ne_of_lt ((List.pairwise_cons.mp ascends).1 later there)
      rw [same, ← Int32.toInt_inj, number, isSlot]
    rw [getElem_fillSlots_of_last inside (by rw [same, number]) last, ← same, counted,
      toNat_slotOf]
  · have absent : ∀ entry ∈ tally, entry.1 ≠ Int32.ofNat slot := by
      intro entry here same
      exact listed ⟨entry, here, same⟩
    have unmeant : ∀ entry ∈ tally, entry.1.toInt ≠ slot := by
      intro entry here isSlot
      exact absent entry here (Int32.toInt_inj.mp (isSlot.trans number.symm))
    rw [getElem_fillSlots_of_absent inside unmeant, Vector.getElem_replicate,
      Tally.get_of_absent absent]
    rfl

/-- The manager's own number is entered first. -/
theorem pids_ofTally : (ofTally tally own modules sendTime).pids =
    fillSlots ((Vector.replicate _ 0).setIfInBounds 0 own)
      (modules.map fun module => (module.id.toInt, module.pid)) := by
  rw [ofTally, fillSlots_zero]

/-- The first slot of the process numbers is the manager's if no module has the number 0. -/
theorem own_ofTally (positive : ∀ module ∈ modules, module.id.toInt ≠ 0) :
    (ofTally tally own modules sendTime).pids[0] = own := by
  rw [pids_ofTally, getElem_fillSlots_of_absent (by decide) positive]
  exact Vector.getElem_setIfInBounds_self _

/-- A slot whose number nobody has is empty. -/
theorem vacant_ofTally (inside : slot < Limit.modules) (positive : slot ≠ 0)
    (vacant : ∀ module ∈ modules, module.id.toInt ≠ slot) :
    (ofTally tally own modules sendTime).pids[slot] = 0 := by
  rw [pids_ofTally, getElem_fillSlots_of_absent inside vacant,
    Vector.getElem_setIfInBounds_ne inside positive.symm, Vector.getElem_replicate]

/-- Of the modules that have one number the last one shows. -/
theorem held_ofTally (inside : slot < Limit.modules) (holds : module.id.toInt = slot)
    (last : ∀ other ∈ late, other.id.toInt ≠ slot) :
    (ofTally tally own (early ++ module :: late) sendTime).pids[slot] = module.pid := by
  rw [pids_ofTally]
  exact getElem_fillSlots_of_last inside holds last

end Timing

/-! ## Instants at which a report is due -/

/-- Whether a poll ends a period of the timing reports. -/
def Broker.isTimingDue (broker : Broker) (now : Milliseconds) : Bool :=
  isDue broker.diagnostics.lastTiming now broker.config.diagnostics.timingInterval

/-- An instant at which a timing report was due: what had happened, and the broker then. -/
structure Due where
  before : List Moment
  broker : Broker

namespace Due

/-- How many messages of a type had been counted: what came from connections that were there,
and the broker's own reports about failures. -/
def counted (due : Due) (messageType : MessageType) : Nat :=
  (handled due.before).count messageType +
    if messageType = MessageType.failedMessage then
      (reports (taken due.before ++ due.broker.outbox)).length
    else 0

end Due

namespace History

/-- The due instant that a moment is, if it is one, after what had happened. -/
def due? (before : List Moment) : Moment -> Option Due
  | .met broker (.poll now) => if broker.isTimingDue now then some ⟨before, broker⟩ else none
  | .met _ _ | .delivered _ => none

/-- All due instants of what happens next. -/
def duesAfter (before : List Moment) : List Moment -> List Due
  | [] => []
  | moment :: rest => (due? before moment).toList ++ duesAfter (before ++ [moment]) rest

/-- All instants of a history at which a timing report was due. -/
def dues (history : List Moment) : List Due :=
  duesAfter [] history

/-- How many messages of a type had been counted when a timing report was last due. -/
def settled (history : List Moment) (messageType : MessageType) : Nat :=
  ((dues history).getLast?.map fun due => due.counted messageType).getD 0

theorem duesAfter_append (before first second : List Moment) :
    duesAfter before (first ++ second) =
      duesAfter before first ++ duesAfter (before ++ first) second := by
  induction first generalizing before with
  | nil => simp [duesAfter]
  | cons moment rest ih => simp [duesAfter, ih]

theorem dues_append_singleton (history : List Moment) (moment : Moment) :
    dues (history ++ [moment]) = dues history ++ (due? history moment).toList := by
  simp [dues, duesAfter_append, duesAfter]

theorem dues_of_not_due {history : List Moment} {moment : Moment}
    (uneventful : due? history moment = none) : dues (history ++ [moment]) = dues history := by
  simp [dues_append_singleton, uneventful]

theorem dues_of_due {history : List Moment} {moment : Moment} {due : Due}
    (ends : due? history moment = some due) :
    dues (history ++ [moment]) = dues history ++ [due] := by
  simp [dues_append_singleton, ends]

/-- At a due instant everything is settled that has been counted. -/
theorem settled_of_due {history : List Moment} {moment : Moment} {due : Due}
    (ends : due? history moment = some due) :
    settled (history ++ [moment]) = due.counted := by
  funext messageType
  simp [settled, dues_of_due ends]

end History

/-- A timing report as it should be: every count since a report was last due, if it was not too
large for a counter, and whose process has which number. -/
structure Timing.IsExact (due : Due) (timing : Timing) : Prop where
  grown : ∀ messageType, settled due.before messageType ≤ due.counted messageType
  counts : ∀ (slot : Nat) (inside : slot < Limit.countedTypes),
    due.counted (Int32.ofNat slot) - settled due.before (Int32.ofNat slot) < 2 ^ 32 ->
      timing.counts[slot].toNat =
        min 65535 (due.counted (Int32.ofNat slot) - settled due.before (Int32.ofNat slot))
  own : timing.pids[0] = due.broker.pid
  vacant : ∀ (slot : Nat) (inside : slot < Limit.modules), slot ≠ 0 ->
    (∀ module ∈ due.broker.modules.registered, module.id.toInt ≠ slot) -> timing.pids[slot] = 0
  held : ∀ module ∈ due.broker.modules.registered,
    ∃ (slot : Nat) (inside : slot < Limit.modules), slot ≠ 0 ∧ module.id.toInt = slot ∧
      ((∀ other ∈ due.broker.modules.registered, other.id = module.id ->
        other.handle ≤ module.handle) -> timing.pids[slot] = module.pid)

/-- A small count is shown as it is. -/
theorem Timing.IsExact.count_eq {due : Due} {timing : Timing} (isExact : timing.IsExact due)
    {slot count : Nat} (inside : slot < Limit.countedTypes)
    (grown : due.counted (Int32.ofNat slot) - settled due.before (Int32.ofNat slot) = count)
    (small : count ≤ 65535) : timing.counts[slot].toNat = count := by
  have held : count < 2 ^ 32 := Nat.lt_of_le_of_lt small (by decide)
  rw [isExact.counts slot inside (grown.trans_lt held), grown, Nat.min_eq_right small]

/-! ## One reaction -/

/-- No number of a module is larger than the tables are. -/
theorem Config.maxModules_le {config : Config} (unopposed : config.objection? = none) :
    config.identity.maxModules.toInt ≤ Limit.modules := by
  unfold objection? at unopposed
  dsimp only at unopposed
  split_ifs at unopposed with low band
  exact Int.not_lt.mp fun more => band (Or.inr more)

namespace Broker

variable {broker before between after : Broker} {config : Config}

/-- The slot of every registered module. -/
theorem Sound.exists_slot (sound : broker.Sound config) (unopposed : config.objection? = none)
    {module : Module} (here : module ∈ broker.modules.registered) :
    ∃ slot : Nat, slot < Limit.modules ∧ slot ≠ 0 ∧ module.id.toInt = slot := by
  rcases sound.modules.mem_registered_iff.mp here with ⟨found, registered⟩
  rcases sound.distinct.ranged _ module found registered with ⟨low, high⟩
  have low := Int16.le_iff_toInt_le.mp low
  have high := Int16.lt_iff_toInt_lt.mp high
  have most := Config.maxModules_le unopposed
  have one : (1 : ModuleId).toInt = 1 := rfl
  refine ⟨module.id.toInt.toNat, ?_, ?_, ?_⟩ <;> omega

/-- The report on a tally is as it should be if the tally is. -/
theorem Sound.isExact (sound : broker.Sound config) (unopposed : config.objection? = none)
    {history : List Moment} (proper : broker.diagnostics.timing.IsProper)
    (counted : ∀ messageType, 0 ≤ messageType ->
      broker.diagnostics.timing.get messageType + settled history messageType =
        (⟨history, broker⟩ : Due).counted messageType)
    (grown : ∀ messageType,
      settled history messageType ≤ (⟨history, broker⟩ : Due).counted messageType) :
    (Timing.ofTally broker.diagnostics.timing broker.pid broker.modules.registered
      broker.clock.seconds).IsExact ⟨history, broker⟩ where
  grown := grown
  counts := by
    intro slot inside small
    have nonneg : (0 : MessageType) ≤ Int32.ofNat slot := by
      apply Int32.le_iff_toInt_le.mpr
      rw [Int32.toInt_ofNat_of_lt (Nat.lt_trans inside (by decide))]
      exact Int.natCast_nonneg slot
    rw [← counted _ nonneg, Nat.add_sub_cancel] at small ⊢
    rw [Timing.counts_ofTally proper inside, Nat.mod_eq_of_lt small]
  own := by
    apply Timing.own_ofTally
    intro module here
    rcases sound.exists_slot unopposed here with ⟨slot, _, positive, number⟩
    omega
  vacant slot inside positive vacant := Timing.vacant_ofTally inside positive vacant
  held := by
    intro module here
    rcases sound.exists_slot unopposed here with ⟨slot, inside, positive, number⟩
    refine ⟨slot, inside, positive, number, fun greatest => ?_⟩
    have ascending : broker.modules.registered.Pairwise fun first second =>
        first.handle < second.handle :=
      (List.pairwise_map.mp sound.modules.ascending).sublist List.filter_sublist
    rcases List.append_of_mem here with ⟨early, late, split⟩
    rw [split] at ascending greatest ⊢
    apply Timing.held_ofTally inside number
    intro other among same
    have later := (List.pairwise_cons.mp (List.pairwise_append.mp ascending).2.1).1 other among
    have sameId : other.id = module.id := Int16.toInt_inj.mp (same.trans number.symm)
    exact Nat.not_lt.mpr
      (greatest other (List.mem_append_right _ (List.mem_cons_of_mem _ among)) sameId) later

/-! ## One reaction -/

/-- Nothing is counted for the timing reports, and there is none. -/
structure LeavesTiming (before after : Broker) : Prop where
  timing : after.diagnostics.timing = before.diagnostics.timing
  written : written MessageType.timing after.outbox = written MessageType.timing before.outbox

theorem LeavesTiming.trans (early : LeavesTiming before between)
    (late : LeavesTiming between after) : LeavesTiming before after :=
  ⟨late.timing.trans early.timing, late.written.trans early.written⟩

theorem Quiet.leavesTiming (quiet : Quiet before after) : LeavesTiming before after :=
  ⟨quiet.timing, quiet.written _ (by decide)⟩

/-- The other reports are about other tallies. -/
theorem leavesTiming_reportTraffic (broker : Broker) (now : Milliseconds) :
    LeavesTiming broker (broker.reportTraffic now) := by
  unfold reportTraffic
  dsimp only
  split
  · split
    · exact ⟨rfl, rfl⟩
    · constructor
      · rcases publishPayloads_eq { broker with
            diagnostics := { broker.diagnostics with
              traffic := []
              trafficSequence := broker.diagnostics.trafficSequence + 1
              lastTraffic := now } } (Traffic.ofTally (broker.diagnostics.trafficSequence + 1)
          broker.clock.seconds (Milliseconds.secondsBits (now - broker.diagnostics.lastTraffic))
          broker.diagnostics.traffic) with ⟨outbox, published⟩
        rw [published]
      · exact written_publishPayloads _ _ (by decide)
  · exact ⟨rfl, rfl⟩

/-- What a poll does after it has seen to the timing report. -/
theorem leavesTiming_report (broker : Broker) (now : Milliseconds) :
    LeavesTiming (broker.reportTiming now) (broker.report now) :=
  (leavesTiming_reportTraffic _ now).trans (quiet_reportDirectory _ now).leavesTiming

/-- Whatever happens at an instant that is not due is counted as it should be. -/
theorem timing_meet {history : List Moment} {occasion : Occasion}
    (uneventful : due? history (.met broker occasion) = none) :
    (broker.meet occasion).diagnostics.timing =
        broker.diagnostics.timing.addAll (broker.countedAs occasion) ∧
      written MessageType.timing (broker.meet occasion).outbox =
        written MessageType.timing broker.outbox := by
  cases occasion with
  | arrival peer => exact ⟨rfl, rfl⟩
  | upkeep clock => exact ⟨rfl, rfl⟩
  | event event =>
      cases event with
      | ended handle cause =>
          have quiet := (quiet_remove broker handle (.lost cause)).leavesTiming
          exact ⟨quiet.timing, quiet.written⟩
      | message handle message =>
          have quiet := (broker.quiet_receive handle message).leavesTiming
          exact ⟨quiet.timing.trans (Diagnostics.timing_countAll ..), quiet.written⟩
  | poll now =>
      have early : ¬ broker.isTimingDue now = true := by
        intro due
        simp [due?, due] at uneventful
      have untimed : broker.reportTiming now = broker := if_neg early
      have rest := leavesTiming_report broker now
      rw [untimed] at rest
      exact ⟨rest.timing, rest.written⟩

/-- The reports that are wanted of what was counted. -/
def timingReports (broker : Broker) : List Timing :=
  if broker.config.diagnostics.timingEnabled then
    [Timing.ofTally broker.diagnostics.timing broker.pid broker.modules.registered
      broker.clock.seconds]
  else []

/-- A report that is due takes the tally, whether or not it is wanted. -/
theorem reportTiming_of_due {now : Milliseconds} (due : broker.isTimingDue now = true) :
    (broker.reportTiming now).diagnostics.timing = [] ∧
      ∃ told, List.Forall₂ (Pending.Tells broker.config.format) told broker.timingReports ∧
        written MessageType.timing (broker.reportTiming now).outbox =
          written MessageType.timing broker.outbox ++ told := by
  unfold isTimingDue at due
  unfold reportTiming timingReports
  dsimp only
  rw [if_pos due]
  by_cases wanted : broker.config.diagnostics.timingEnabled = true
  · rw [if_pos wanted, if_pos wanted]
    rcases publishPayload_tells { broker with
        diagnostics := { broker.diagnostics with timing := [], lastTiming := now } }
      (Timing.ofTally broker.diagnostics.timing broker.pid broker.modules.registered
        broker.clock.seconds) with ⟨frame, tells, published⟩
    rw [published]
    refine ⟨rfl, [frame], .cons tells .nil, ?_⟩
    show written MessageType.timing (broker.outbox ++ [frame]) = _
    rw [written_append]
    exact congrArg _ (written_of_tells (.cons tells .nil))
  · rw [if_neg wanted, if_neg wanted]
    exact ⟨rfl, [], .nil, (List.append_nil _).symm⟩

theorem timing_meet_of_due {history : List Moment} {occasion : Occasion} {due : Due}
    (ends : due? history (.met broker occasion) = some due) :
    due = ⟨history, broker⟩ ∧ broker.countedAs occasion = [] ∧
      (broker.meet occasion).diagnostics.timing = [] ∧
      ∃ told, List.Forall₂ (Pending.Tells broker.config.format) told broker.timingReports ∧
        written MessageType.timing (broker.meet occasion).outbox =
          written MessageType.timing broker.outbox ++ told := by
  cases occasion with
  | arrival peer => cases ends
  | upkeep clock => cases ends
  | event event => cases ends
  | poll now =>
      simp only [due?, Option.ite_none_right_eq_some, Option.some.injEq] at ends
      rcases ends with ⟨isDue, same⟩
      rcases reportTiming_of_due isDue with ⟨timing, told, tells, outbox⟩
      have rest := leavesTiming_report broker now
      exact ⟨same.symm, rfl, rest.timing.trans timing, told, tells, rest.written.trans outbox⟩

end Broker

/-! ## Whole runs -/

theorem Due.counted_eq (bus : Bus σ) (messageType : MessageType) :
    (⟨bus.history, bus.broker⟩ : Due).counted messageType = bus.counted messageType := by
  unfold Due.counted Bus.counted Bus.produced
  rw [List.count_replicate]
  congr 1
  by_cases same : messageType = MessageType.failedMessage
  · rw [if_pos same, same, beq_self_eq_true, if_pos rfl]
  · rw [if_neg same, beq_eq_false_iff_ne.mpr (Ne.symm same), if_neg Bool.false_ne_true]

namespace Bus

open Broker

variable {behaviour : Behaviour σ} {config : Config} {bus next : Bus σ} {timings : List Timing}
  {occasion : Occasion} {pending : Pending} {outbox : List Pending} {due : Due}

/-- Every report is as it should be, and the tally is what was counted since a report was last
due. -/
structure IsTimed (config : Config) (timings : List Timing) (bus : Bus σ) : Prop where
  proper : bus.broker.diagnostics.timing.IsProper
  told : List.Forall₂ (Pending.Tells config.format)
    (History.written MessageType.timing bus.produced) timings
  isExact : List.Forall₂ Timing.IsExact
    (if config.diagnostics.timingEnabled then dues bus.history else []) timings
  counted : ∀ messageType, 0 ≤ messageType ->
    bus.broker.diagnostics.timing.get messageType + settled bus.history messageType =
      bus.counted messageType
  grown : ∀ messageType, settled bus.history messageType ≤ bus.counted messageType

/-- Between two due instants, whatever is counted goes into the tally and nowhere else. -/
theorem IsTimed.ofCounts (timed : bus.IsTimed config timings) {messageTypes : List MessageType}
    (timing : next.broker.diagnostics.timing =
      bus.broker.diagnostics.timing.addAll messageTypes)
    (written : History.written MessageType.timing next.produced =
      History.written MessageType.timing bus.produced)
    (ongoing : dues next.history = dues bus.history)
    (counted : ∀ messageType,
      next.counted messageType = bus.counted messageType + messageTypes.count messageType) :
    next.IsTimed config timings := by
  have same : settled next.history = settled bus.history := by
    funext messageType
    unfold settled
    rw [ongoing]
  refine ⟨?proper, ?told, ?isExact, ?counted, ?grown⟩
  case proper =>
    rw [timing]
    exact timed.proper.addAll _
  case told =>
    rw [written]
    exact timed.told
  case isExact =>
    rw [ongoing]
    exact timed.isExact
  case counted =>
    intro messageType counts
    rw [counted, timing, same, Tally.get_addAll timed.proper _ counts,
      ← timed.counted messageType counts]
    omega
  case grown =>
    intro messageType
    rw [counted, same]
    exact Nat.le_add_right_of_le (timed.grown messageType)

theorem isTimed_meet (timed : bus.IsTimed config timings)
    (uneventful : due? bus.history (.met bus.broker occasion) = none) :
    (bus.step behaviour (.occasion occasion)).IsTimed config timings := by
  rcases timing_meet uneventful with ⟨timing, unwritten⟩
  refine timed.ofCounts timing ?_ ?_ (counted_meet behaviour bus occasion)
  · rw [written_produced_meet, unwritten, ← written_append]
    rfl
  · exact dues_of_not_due uneventful

theorem isTimed_meet_of_due (reachable : bus.Reachable behaviour config)
    (timed : bus.IsTimed config timings)
    (ends : due? bus.history (.met bus.broker occasion) = some due) :
    (bus.step behaviour (.occasion occasion)).IsTimed config
      (timings ++ bus.broker.timingReports) := by
  have sound := reachable.sound
  rcases timing_meet_of_due ends with ⟨rfl, uncounted, timing, told, tells, written⟩
  have moreDues := dues_of_due ends
  have nowSettled := settled_of_due ends
  have counted : ∀ messageType, (bus.step behaviour (.occasion occasion)).counted messageType =
      bus.counted messageType := by
    intro messageType
    rw [counted_meet, uncounted]
    rfl
  refine ⟨?proper, ?told, ?isExact, ?counted, ?grown⟩
  case proper =>
    show (bus.broker.meet occasion).diagnostics.timing.IsProper
    rw [timing]
    exact .nil
  case told =>
    rw [written_produced_meet, written, ← List.append_assoc, ← written_append]
    exact List.rel_append timed.told (sound.config_eq ▸ tells)
  case isExact =>
    show List.Forall₂ _ (if _ then dues (bus.history ++ [Moment.met bus.broker occasion]) else []) _
    unfold timingReports
    rw [moreDues, sound.config_eq]
    by_cases wanted : config.diagnostics.timingEnabled = true
    · have earlier := timed.isExact
      rw [if_pos wanted] at earlier
      rw [if_pos wanted, if_pos wanted]
      refine List.rel_append earlier (.cons ?_ .nil)
      apply sound.isExact reachable.unopposed timed.proper
      · intro messageType counts
        rw [Due.counted_eq]
        exact timed.counted messageType counts
      · intro messageType
        rw [Due.counted_eq]
        exact timed.grown messageType
    · have earlier := timed.isExact
      rw [if_neg wanted] at earlier
      rw [if_neg wanted, if_neg wanted, List.append_nil]
      exact earlier
  case counted =>
    intro messageType _
    show (bus.broker.meet occasion).diagnostics.timing.get messageType +
      settled (bus.history ++ [.met bus.broker occasion]) messageType = _
    rw [counted, timing, nowSettled, Due.counted_eq, Tally.get_nil, Nat.zero_add]
  case grown =>
    intro messageType
    show settled (bus.history ++ [.met bus.broker occasion]) messageType ≤ _
    rw [counted, nowSettled, Due.counted_eq]

theorem isTimed_deliver (sound : bus.broker.Sound config) (timed : bus.IsTimed config timings)
    (next : bus.broker.outbox = pending :: outbox) :
    (bus.deliver behaviour).IsTimed config timings := by
  rcases produced_deliver behaviour sound next with
    ⟨added, produced, unwritten, messageTypes, diagnostics, counted⟩
  refine timed.ofCounts ?_ ?_ ?_ counted
  · rw [diagnostics, Diagnostics.timing_countAll]
  · rw [produced, written_append, unwritten _ (by decide), List.append_nil]
  · rw [deliver_of_cons behaviour next]
    exact dues_of_not_due rfl

theorem Reachable.isTimed (reachable : bus.Reachable behaviour config) :
    ∃ timings, bus.IsTimed config timings := by
  induction reachable using Reachable.stepwise with
  | start started queues =>
      rcases Broker.start_eq started with ⟨_, rfl⟩
      refine ⟨[], .nil, .nil, ?_, fun _ _ => rfl, fun _ => Nat.zero_le _⟩
      show List.Forall₂ _ (if _ then [] else []) []
      rw [ite_self]
      exact .nil
  | @met bus reachable ih occasion =>
      rcases ih with ⟨timings, timed⟩
      cases ends : due? bus.history (.met bus.broker occasion) with
      | none => exact ⟨timings, isTimed_meet timed ends⟩
      | some due => exact ⟨_, isTimed_meet_of_due reachable timed ends⟩
  | readers reachable ih queues =>
      rcases ih with ⟨timings, timed⟩
      exact ⟨timings, { timed with }⟩
  | delivered reachable ih next =>
      rcases ih with ⟨timings, timed⟩
      exact ⟨timings, isTimed_deliver reachable.sound timed next⟩

/-- The timing reports of a run are one for each instant at which one was due, if they are wanted
at all, and each is as it should be.  The tally is at any time what was counted since a report
was last due, whether or not it was wanted: what was handled for connections that were there, and
the reports about failures. -/
theorem Reachable.timing_exact (reachable : bus.Reachable behaviour config) :
    (∃ timings : List Timing,
      List.Forall₂ (Pending.Tells config.format)
        (History.written MessageType.timing bus.produced) timings ∧
      List.Forall₂ Timing.IsExact
        (if config.diagnostics.timingEnabled then dues bus.history else []) timings) ∧
      ∀ messageType, 0 ≤ messageType ->
        bus.broker.diagnostics.timing.get messageType + settled bus.history messageType =
          (handled bus.history).count messageType +
            if messageType = MessageType.failedMessage then
              (History.reports bus.produced).length
            else 0 := by
  rcases reachable.isTimed with ⟨timings, timed⟩
  refine ⟨⟨timings, timed.told, timed.isExact⟩, fun messageType counts => ?_⟩
  rw [timed.counted messageType counts, ← Due.counted_eq]
  rfl

/-- Two modules share a number and have room for one frame each, and the second loses the answer
to a request.  A message comes between two polls. -/
def shared : Bus (Handle -> Nat) :=
  let arrives (handle : Handle) (pid : UInt8) : List (Move (Handle -> Nat)) :=
    [.occasion (.arrival ⟨.v4 [127, 0, 0, 1], 7111, 0⟩),
      .occasion (.event (.message handle
        { header := { messageType := MessageType.connect, sourceModule := 7, dataBytes := 44 }
          timecode := none
          payload := [0, 0, 0, 0, 1, 0, 0, 0, pid, 0, 0, 0] ++ List.replicate 32 0 }))]
  (vacant 1).run QueueRule.bounded.each (arrives 1 41 ++ arrives 2 42 ++
    [.occasion (.event (.message 2
      { header := { messageType := MessageType.subscribe, sourceModule := 7, dataBytes := 4 }
        timecode := none
        payload := [0xD2, 4, 0, 0] }))] ++ List.replicate 9 .deliver ++
    [.occasion (.poll 1500),
      .occasion (.event (.message 2
        { header := { messageType := 500 }, timecode := none, payload := [] })),
      .occasion (.poll 3000)])

theorem timing_exact_of_shared :
    ∃ first second : Timing,
      List.Forall₂ (Pending.Tells (Config.format {}))
        (History.written MessageType.timing shared.produced) [first, second] ∧
      (first.counts[8].toNat = 1 ∧ first.counts[13].toNat = 2 ∧ first.counts[500].toNat = 0) ∧
      (second.counts[8].toNat = 0 ∧ second.counts[13].toNat = 0 ∧
        second.counts[500].toNat = 1) ∧
      first.pids[0] = 1 ∧ first.pids[7] = 42 ∧ first.pids[8] = 0 := by
  have counts : (dues shared.history).map (fun due => [8, 13, 500].map fun messageType =>
      due.counted messageType - settled due.before messageType) = [[1, 2, 0], [0, 0, 1]] := by
    decide +kernel
  have holders : (dues shared.history).map (fun due => (due.broker.pid,
      due.broker.modules.registered.map fun module => (module.handle, module.id, module.pid))) =
        [(1, [(1, 7, 41), (2, 7, 42)]), (1, [(1, 7, 41), (2, 7, 42)])] := by
    decide +kernel
  have reachable : shared.Reachable QueueRule.bounded.each {} := (vacant_reachable 1).run _
  rcases reachable.timing_exact with ⟨⟨timings, told, isExact⟩, _⟩
  rw [if_pos rfl] at isExact
  generalize dues shared.history = instants at counts holders isExact
  obtain ⟨one, two, rfl⟩ : ∃ one two, instants = [one, two] :=
    List.length_eq_two.mp (by simpa using congrArg List.length counts)
  cases isExact with
  | @cons _ first _ rest exactFirst later =>
  cases later with
  | @cons _ second _ rest exactSecond later =>
  cases later
  simp only [List.map_cons, List.map_nil, List.cons.injEq, Prod.mk.injEq, and_true]
    at counts holders
  rcases counts with ⟨⟨failures, connects, others⟩, failuresNext, connectsNext, othersNext⟩
  rcases holders with ⟨⟨pid, held⟩, _⟩
  obtain ⟨earlier, later, registered⟩ : ∃ earlier later,
      one.broker.modules.registered = [earlier, later] :=
    List.length_eq_two.mp (by simpa using congrArg List.length held)
  simp only [registered, List.map_cons, List.map_nil, List.cons.injEq, Prod.mk.injEq,
    and_true] at held
  rcases held with ⟨⟨earlierHandle, earlierId, _⟩, laterHandle, laterId, laterPid⟩
  refine ⟨first, second, told, ⟨?_, ?_, ?_⟩, ⟨?_, ?_, ?_⟩, exactFirst.own.trans pid, ?_, ?_⟩
  · exact exactFirst.count_eq (by decide) failures (by decide)
  · exact exactFirst.count_eq (by decide) connects (by decide)
  · exact exactFirst.count_eq (by decide) others (by decide)
  · exact exactSecond.count_eq (by decide) failuresNext (by decide)
  · exact exactSecond.count_eq (by decide) connectsNext (by decide)
  · exact exactSecond.count_eq (by decide) othersNext (by decide)
  · rcases exactFirst.held later (by simp [registered]) with ⟨slot, inside, _, number, greatest⟩
    rw [laterId] at number
    obtain rfl : 7 = slot := Int.ofNat.inj number
    rw [← laterPid]
    apply greatest
    simp [registered, earlierHandle, laterHandle]
  · apply exactFirst.vacant 8 (by decide) (by decide)
    simp [registered, earlierId, laterId]

end Bus

end MessageBus
