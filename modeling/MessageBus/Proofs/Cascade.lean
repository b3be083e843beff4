import MessageBus.Proofs.Run

namespace MessageBus

open Wire

/-!
# How far a failure can spread

Emptying the outbox fills it again: a lost frame leads to a report, and a lost
module to a line in the log and the news that it is gone as well, all of which
can be lost in turn.  That this ends is part of the definition of `flush`; how
long it takes is a matter of counting more carefully.

`potential` is what the outbox can still lead to.  A frame whose failure is
reported pays for itself and for one report by each registered module, and one
whose failure is not reported pays for itself.  Each registered module has put
aside what it takes to get rid of it: the news of its end, a report by each of
the others about that, and the line in the log.  Then every delivery costs one,
and nothing that happens during a delivery brings anything in.
-/

namespace Broker

variable {broker : Broker} {handle : Handle} {module : Module}

/-- What a frame of a type can lead to among a number of registered modules. -/
def typeWeight (registered : Nat) (messageType : MessageType) : Nat :=
  if MessageType.isFailureExempt messageType then 1 else registered + 1

theorem typeWeight_mono {fewer more : Nat} (le : fewer ≤ more) (messageType : MessageType) :
    typeWeight fewer messageType ≤ typeWeight more messageType := by
  unfold typeWeight
  split
  · exact Nat.le_refl 1
  · exact Nat.succ_le_succ le

theorem typeWeight_le (registered : Nat) (messageType : MessageType) :
    typeWeight registered messageType ≤ registered + 1 := by
  unfold typeWeight
  split
  · exact Nat.succ_le_succ (Nat.zero_le registered)
  · exact Nat.le_refl _

/-- What the frames of an outbox can lead to among a number of registered modules
as long as none of them is removed. -/
def outboxWeight (registered : Nat) (outbox : List Pending) : Nat :=
  (outbox.map fun pending => typeWeight registered pending.header.messageType).sum

theorem outboxWeight_append (registered : Nat) (first second : List Pending) :
    outboxWeight registered (first ++ second) =
      outboxWeight registered first + outboxWeight registered second := by
  unfold outboxWeight
  rw [List.map_append, List.sum_append]

theorem outboxWeight_mono {fewer more : Nat} (le : fewer ≤ more) (outbox : List Pending) :
    outboxWeight fewer outbox ≤ outboxWeight more outbox := by
  apply List.sum_le_sum
  intro pending _
  exact typeWeight_mono le pending.header.messageType

theorem outboxWeight_le (registered : Nat) (outbox : List Pending) :
    outboxWeight registered outbox ≤ outbox.length * (registered + 1) := by
  have each := List.sum_le_card_nsmul
    (outbox.map fun pending => typeWeight registered pending.header.messageType) (registered + 1)
  rw [List.length_map] at each
  apply each
  intro weight here
  rcases List.mem_map.mp here with ⟨pending, _, rfl⟩
  exact typeWeight_le registered _

/-- What the registered modules have put aside for their removal. -/
def reserve (registered : Nat) : Nat :=
  registered * (registered + 2)

theorem reserve_of_lt {fewer more : Nat} (lt : fewer < more) :
    reserve fewer + (2 * fewer + 3) ≤ reserve more := by
  unfold reserve
  nlinarith

/-- How many deliveries the outbox can lead to, whatever happens to whom. -/
def potential (broker : Broker) : Nat :=
  outboxWeight broker.modules.registered.length broker.outbox +
    reserve broker.modules.registered.length

/-! ## What an outcome brings in -/

theorem potential_publishPayload [Payload α] (broker : Broker) (payload : α) :
    (broker.publishPayload payload).potential = broker.potential +
      typeWeight broker.modules.registered.length (Payload.messageType α) := by
  have added : outboxWeight broker.modules.registered.length
      (broker.publishPayload payload).outbox =
        outboxWeight broker.modules.registered.length broker.outbox +
          typeWeight broker.modules.registered.length (Payload.messageType α) :=
    outboxWeight_append _ _ _
  show outboxWeight broker.modules.registered.length (broker.publishPayload payload).outbox +
    reserve broker.modules.registered.length = _
  rw [added]
  unfold potential
  omega

/-- What is left to be reported about a frame of a type at one module. -/
def reportWeight (messageType : MessageType) : Nat :=
  if MessageType.isFailureExempt messageType then 0 else 1

/-- A frame pays for itself and for all reports about it. -/
theorem reports_lt_typeWeight {targets registered : Nat} (few : targets ≤ registered)
    (messageType : MessageType) :
    targets * reportWeight messageType + 1 ≤ typeWeight registered messageType := by
  unfold reportWeight typeWeight
  split
  · exact Nat.le_refl 1
  · rw [Nat.mul_one]
    exact Nat.succ_le_succ few

theorem potential_notifyFailure (broker : Broker) (destination : ModuleId) (failed : Header) :
    (broker.notifyFailure destination failed).potential =
      broker.potential + reportWeight failed.messageType := by
  unfold notifyFailure reportWeight
  split
  · rfl
  · exact potential_publishPayload _ _

theorem registered_modify (table : ModuleTable) (handle : Handle) (change : Module -> Module)
    (keeps : ∀ module, Module.Keeps module (change module)) :
    (table.modify handle change).registered.length = table.registered.length := by
  unfold ModuleTable.registered ModuleTable.modify
  rw [List.filter_map, List.length_map]
  congr 2
  funext module
  dsimp only [Function.comp]
  split
  · exact (keeps module).isRegistered
  · rfl

theorem potential_modify (broker : Broker) (handle : Handle) (change : Module -> Module)
    (keeps : ∀ module, Module.Keeps module (change module)) :
    { broker with modules := broker.modules.modify handle change }.potential =
      broker.potential := by
  unfold potential
  dsimp only
  rw [registered_modify broker.modules handle change keeps]

theorem registered_remove_lt {table : ModuleTable} (found : table.get? handle = some module)
    (registered : module.isRegistered = true) :
    (table.remove handle).registered.length < table.registered.length := by
  have here : module ∈ table.registered :=
    ModuleTable.mem_registered.mpr ⟨ModuleTable.mem_of_get? found, registered⟩
  unfold ModuleTable.registered ModuleTable.remove
  rw [List.filter_comm]
  apply List.length_filter_lt_length_iff_exists.mpr
  refine ⟨module, here, ?_⟩
  simp [ModuleTable.handle_of_get? found]

/-- Removing a module costs no more than it has put aside. -/
theorem potential_lose (found : broker.modules.get? handle = some module)
    (registered : module.isRegistered = true) (cause : String) :
    (broker.lose handle cause).potential ≤ broker.potential := by
  have fewer := registered_remove_lt found registered
  have left := reserve_of_lt fewer
  have lighter := outboxWeight_mono (Nat.le_of_lt fewer) broker.outbox
  have news := typeWeight_le (broker.modules.remove handle).registered.length
    (Payload.messageType ClientClosed)
  unfold lose remove
  simp only [found, registered, if_true, Departure.announcement?, publishLog]
  rw [potential_publishPayload, potential_publishPayload]
  have line : typeWeight (broker.modules.remove handle).registered.length
      (Payload.messageType ManagerLog) = 1 := rfl
  show outboxWeight (broker.modules.remove handle).registered.length broker.outbox +
    reserve (broker.modules.remove handle).registered.length +
    typeWeight (broker.modules.remove handle).registered.length (Payload.messageType ManagerLog) +
    typeWeight (broker.modules.remove handle).registered.length (Payload.messageType ClientClosed) ≤
      broker.potential
  unfold potential
  omega

theorem potential_fail (found : broker.modules.get? handle = some module)
    (registered : module.isRegistered = true) (failed : Header) (cause : String) :
    (broker.fail handle failed cause).potential ≤
      broker.potential + reportWeight failed.messageType := by
  unfold fail
  simp only [found]
  rw [potential_notifyFailure]
  exact Nat.add_le_add_right (potential_lose found registered cause) _

/-- Whatever becomes of a frame at a module, at most a report about it comes in. -/
theorem potential_settle (found : broker.modules.get? handle = some module)
    (registered : module.isRegistered = true) (header : Header) (outcome : Outcome) :
    (broker.settle handle header outcome).potential ≤
      broker.potential + reportWeight header.messageType := by
  cases outcome with
  | delivered => exact Nat.le_add_right _ _
  | full =>
      unfold settle drop
      simp only [found]
      rw [potential_notifyFailure]
      apply Nat.add_le_add_right
      apply Nat.le_of_eq
      exact potential_modify broker handle _ fun _ => ⟨rfl, rfl, rfl, rfl, rfl, rfl, rfl⟩
  | closed => exact potential_fail found registered header _
  | timedOut => exact potential_fail found registered header _

theorem Course.potential_le {behaviour : Behaviour σ} {pending : Pending}
    {handles : List Handle} {queues : σ} {swept : Swept σ}
    (course : Course behaviour pending handles queues broker swept) :
    swept.broker.potential ≤
      broker.potential + handles.length * reportWeight pending.header.messageType := by
  induction course with
  | done queues broker => exact Nat.le_add_right _ _
  | @offered _ _ _ _ _ _ outcome _ found registered answered absent later ih =>
      have first := potential_settle found registered pending.header outcome
      rw [List.length_cons, Nat.succ_mul]
      dsimp only
      omega

/-! ## Emptying the outbox -/

theorem length_targets_le_registered (broker : Broker) (header : Header) (route : Route) :
    (broker.targets header route).length ≤ broker.modules.registered.length := by
  unfold targets ModuleTable.registered
  rw [List.length_map, ← List.countP_eq_length_filter, ← List.countP_eq_length_filter]
  apply List.countP_mono_left
  intro module _ isTarget
  exact (Bool.and_eq_true_iff.mp isTarget).1

theorem potential_of_cons {pending : Pending} {outbox : List Pending}
    (next : broker.outbox = pending :: outbox) :
    broker.potential = { broker with outbox }.potential +
      typeWeight broker.modules.registered.length pending.header.messageType := by
  unfold potential outboxWeight
  rw [next, List.map_cons, List.sum_cons]
  dsimp only
  omega

/-- A delivery costs one, whatever it brings in. -/
theorem potential_delivered (behaviour : Behaviour σ) (queues : σ) {pending : Pending}
    {outbox : List Pending} (consistent : broker.modules.Consistent)
    (next : broker.outbox = pending :: outbox) :
    (sweep behaviour.offer pending (broker.targets pending.header pending.route) queues
      { broker with outbox }).broker.potential + 1 ≤ broker.potential := by
  have swept := (course_next behaviour pending outbox queues consistent).potential_le
  have paid := reports_lt_typeWeight
    (length_targets_le_registered broker pending.header pending.route) pending.header.messageType
  rw [potential_of_cons next]
  omega

/-- Emptying the outbox ends, and takes no longer than the potential says. -/
theorem length_deliveries_le {config : Config} (behaviour : Behaviour σ) (queues : σ)
    (sound : broker.Sound config) :
    let flushed := broker.flush behaviour.offer queues
    flushed.waiting = none ∧ flushed.broker.outbox = [] ∧
      flushed.deliveries.length ≤ broker.potential ∧
      ∀ delivery ∈ flushed.deliveries, delivery.pending.IsHonest config.format := by
  induction queues, broker using flush_induction behaviour with
  | empty queues broker isEmpty =>
      rw [flush_of_nil behaviour queues isEmpty]
      exact ⟨rfl, isEmpty, Nat.zero_le _, fun _ here => nomatch here⟩
  | next queues broker pending outbox isNext ih =>
      have spent := potential_delivered behaviour queues sound.modules isNext
      have course := course_next behaviour pending outbox queues sound.modules
      rcases ih (course.edits.sound (sound.popped isNext)) with ⟨waiting, empty, short, honest⟩
      rw [flush_of_cons behaviour queues isNext]
      refine ⟨waiting, empty, ?_, ?_⟩
      · exact Nat.le_trans (Nat.succ_le_succ short) spent
      · intro delivery here
        rcases List.mem_cons.mp here with rfl | later
        · apply sound.honest
          rw [isNext]
          exact List.mem_cons_self
        · exact honest delivery later

theorem potential_le (broker : Broker) :
    broker.potential ≤
      (broker.outbox.length + broker.modules.registered.length) *
        (broker.modules.registered.length + 1) + broker.modules.registered.length := by
  have frames := outboxWeight_le broker.modules.registered.length broker.outbox
  unfold potential reserve
  nlinarith

end Broker

namespace Bus

variable {behaviour : Behaviour σ} {config : Config} {bus : Bus σ}

/-- However the queues behave, the outbox is emptied after a number of deliveries
that the registered modules and the waiting frames bound, and none of the reports
about failures is about a report or a line of the log. -/
theorem Reachable.flush_bounded (reachable : bus.Reachable behaviour config)
    (later : Behaviour τ) (queues : τ) :
    let registered := bus.broker.modules.registered.length
    let waiting := bus.broker.outbox.length
    let flushed := bus.broker.flush later.offer queues
    flushed.waiting = none ∧ flushed.broker.outbox = [] ∧
      flushed.deliveries.length ≤ (waiting + registered) * (registered + 1) + registered ∧
      (∀ pending ∈ bus.broker.outbox, pending.IsHonest config.format) ∧
      ∀ delivery ∈ flushed.deliveries, delivery.pending.IsHonest config.format := by
  have sound := reachable.sound
  rcases Broker.length_deliveries_le later queues sound with ⟨waiting, empty, short, honest⟩
  exact ⟨waiting, empty, Nat.le_trans short bus.broker.potential_le, sound.honest, honest⟩

/-- Nobody takes anything, and all are lost. -/
theorem flush_bounded_of_small :
    let flushed := small.broker.flush QueueRule.bounded.each.offer fun _ => 0
    flushed.waiting = none ∧ flushed.broker.outbox = [] ∧ flushed.deliveries.length ≤ 43 := by
  have sizes : small.broker.modules.registered.length = 3 ∧ small.broker.outbox.length = 7 := by
    decide +kernel
  have bounded := small_reachable.flush_bounded QueueRule.bounded.each fun _ => 0
  rw [sizes.1, sizes.2] at bounded
  rcases bounded with ⟨waiting, empty, short, _⟩
  exact ⟨waiting, empty, short⟩

end Bus

end MessageBus
