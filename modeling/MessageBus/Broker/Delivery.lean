import MessageBus.Broker.Basic

namespace MessageBus

open Wire

/-!
# Delivery

The outbox is emptied frame by frame.  A frame goes to the registered modules
that its route names and to all loggers, each once, in the order of their
handles.  What becomes of it there is up to the module's queue, and the broker
learns it as an `Outcome`.  A full queue costs the module the frame, a closed one
costs it its place on the bus, and so does a logger that takes too long; about
each of these a report is put into the outbox, behind everything else.

Reports about failures can themselves fail, so it has to be shown that emptying
the outbox ends.  A module can be removed only once, and a report about a failure
is of a type whose failure is not reported.  Between two removals, therefore, a
frame that is not such a report adds at most one report for each module, and a
report adds nothing.  The recursion of `flush` rests on this.

A logger never loses a frame.  If its queue is full the broker waits, and the
delivery stands still as a `Sweep` until there is an outcome.
-/

/-- What became of a frame at a module's queue. -/
inductive Outcome where
  | delivered
  | full
  | closed
  /-- The module is a logger and made no room in time. -/
  | timedOut
deriving DecidableEq, Repr

/-- A frame that was taken from the outbox, and what became of it where. -/
structure Delivery where
  pending : Pending
  attempts : List (Handle × Outcome)
deriving DecidableEq, Repr

/-- A delivery that waits for the first of the remaining modules. -/
structure Sweep where
  delivery : Delivery
  remaining : List Handle
deriving DecidableEq, Repr

/-- How module queues take a frame: an outcome and the queues after it, or none
as long as the broker has to wait. -/
abbrev Offer (σ : Type) := σ -> Module -> Outbound -> Option (Outcome × σ)

namespace Broker

/-- Whether a frame is for a module. -/
def isTarget (broker : Broker) (header : Header) (route : Route) (module : Module) : Bool :=
  module.isRegistered &&
    (broker.modules.loggers.contains module.handle ||
      match route with
      | .direct handle => module.handle == handle
      | .subscribers =>
          broker.subscriptions.wants module.handle header.messageType &&
            (header.destinationModule == 0 || module.id == header.destinationModule))

/-- The modules that a frame is for. -/
def targets (broker : Broker) (header : Header) (route : Route) : List Handle :=
  (broker.modules.modules.filter (broker.isTarget header route)).map Module.handle

/-- Remove a module that a frame could not be handed to. -/
def fail (broker : Broker) (handle : Handle) (failed : Header) (cause : String) : Broker :=
  match broker.modules.get? handle with
  | none => broker
  | some module => (broker.lose handle cause).notifyFailure module.id failed

/-- Count a frame that a module has lost. -/
def drop (broker : Broker) (handle : Handle) (failed : Header) : Broker :=
  match broker.modules.get? handle with
  | none => broker
  | some module =>
      let modules := broker.modules.modify handle fun module =>
        { module with dropCount := module.dropCount + 1 }
      { broker with modules }.notifyFailure module.id failed

/-- Draw the consequences of an outcome. -/
def settle (broker : Broker) (handle : Handle) (header : Header) : Outcome -> Broker
  | .delivered => broker
  | .full => broker.drop handle header
  | .closed => broker.fail handle header "connection closed"
  | .timedOut =>
      let limit := broker.config.delivery.loggerWriteTimeout.getD 0
      broker.fail handle header s!"logger did not drain within {limit.text}"

/-! ## One frame -/

/-- Where the delivery of a frame has got to: what was tried, and who remains. -/
structure Swept (σ : Type) where
  broker : Broker
  queues : σ
  attempts : List (Handle × Outcome)
  remaining : List Handle

/-- Offer a frame to one module after the other, until one has to be waited for. -/
def sweep (offer : Offer σ) (pending : Pending) : List Handle -> σ -> Broker -> Swept σ
  | [], queues, broker => ⟨broker, queues, [], []⟩
  | handle :: rest, queues, broker =>
      match broker.modules.get? handle with
      | none => sweep offer pending rest queues broker
      | some module =>
          match offer queues module pending.outbound with
          | none => ⟨broker, queues, [], handle :: rest⟩
          | some (outcome, queues) =>
              let swept :=
                sweep offer pending rest queues (broker.settle handle pending.header outcome)
              { swept with attempts := (handle, outcome) :: swept.attempts }

/-! ## Why it ends -/

/-- The number of connections. -/
def size (broker : Broker) : Nat :=
  broker.modules.modules.length

/-- How many frames one frame can lead to as long as nobody is removed. -/
def weight (size : Nat) (pending : Pending) : Nat :=
  if MessageType.isFailureExempt pending.header.messageType then 1 else size + 1

/-- How many deliveries the outbox can lead to as long as nobody is removed. -/
def backlog (broker : Broker) : Nat :=
  total (broker.outbox.map (weight broker.size))

/-- Either somebody was removed, or all that happened is that up to `reports`
reports about failures were added; about a frame whose failure is not reported
there is none. -/
def Advanced (isExempt : Bool) (reports : Nat) (before after : Broker) : Prop :=
  after.size < before.size ∨
    (after.size = before.size ∧ ∃ added : List Pending,
      after.outbox = before.outbox ++ added ∧ added.length <= reports ∧
        (isExempt = true -> added = []) ∧
        ∀ pending ∈ added, MessageType.isFailureExempt pending.header.messageType = true)

theorem Advanced.refl (isExempt : Bool) (broker : Broker) :
    Advanced isExempt 0 broker broker :=
  Or.inr ⟨rfl, [], by simp, by simp, fun _ => rfl, by simp⟩

theorem Advanced.size_le {before after : Broker} (step : Advanced isExempt reports before after) :
    after.size <= before.size := by
  rcases step with smaller | ⟨same, _⟩
  · exact Nat.le_of_lt smaller
  · exact Nat.le_of_eq same

theorem Advanced.trans {first second third : Broker}
    (early : Advanced isExempt m first second) (late : Advanced isExempt n second third) :
    Advanced isExempt (m + n) first third := by
  rcases early with smaller | ⟨same, added, outbox, few, none, exempt⟩
  · exact Or.inl (Nat.lt_of_le_of_lt late.size_le smaller)
  · rcases late with smaller | ⟨same', added', outbox', few', none', exempt'⟩
    · exact Or.inl (same ▸ smaller)
    · refine Or.inr ⟨same'.trans same, added ++ added', ?_, ?_, ?_, ?_⟩
      · rw [outbox', outbox, List.append_assoc]
      · rw [List.length_append]; omega
      · intro isExempt; rw [none isExempt, none' isExempt]; rfl
      · intro pending here
        rcases List.mem_append.mp here with here | here
        · exact exempt pending here
        · exact exempt' pending here

theorem Advanced.mono {before after : Broker} (step : Advanced isExempt m before after)
    (le : m <= n) : Advanced isExempt n before after := by
  rcases step with smaller | ⟨same, added, outbox, few, none, exempt⟩
  · exact Or.inl smaller
  · exact Or.inr ⟨same, added, outbox, Nat.le_trans few le, none, exempt⟩

theorem size_notifyFailure (broker : Broker) (destination : ModuleId) (failed : Header) :
    (broker.notifyFailure destination failed).size = broker.size := by
  unfold notifyFailure
  split <;> rfl

theorem advanced_notifyFailure (broker : Broker) (destination : ModuleId) (failed : Header) :
    Advanced (MessageType.isFailureExempt failed.messageType) 1 broker
      (broker.notifyFailure destination failed) := by
  refine Or.inr ⟨size_notifyFailure _ _ _, ?_⟩
  unfold notifyFailure
  split
  · exact ⟨[], by simp, by simp, fun _ => rfl, by simp⟩
  · next notExempt =>
    refine ⟨_, rfl, by simp, fun isExempt => absurd isExempt notExempt, ?_⟩
    intro pending here
    rw [List.mem_singleton.mp here]
    rfl

theorem length_remove_lt (table : ModuleTable) (found : table.get? handle = some module) :
    (table.remove handle).modules.length < table.modules.length := by
  have here : module ∈ table.modules := List.mem_of_find?_eq_some found
  have same : module.handle = handle := by
    have := List.find?_some found
    simpa using this
  refine List.length_filter_lt_length_iff_exists.mpr ⟨module, here, ?_⟩
  simp [same]

theorem size_remove_lt (broker : Broker) (departure : Departure)
    (found : broker.modules.get? handle = some module) :
    (broker.remove handle departure).size < broker.size := by
  have smaller : (broker.modules.remove handle).modules.length < broker.size :=
    length_remove_lt broker.modules found
  unfold remove
  simp only [found]
  split <;> split <;> exact smaller

theorem size_modify (broker : Broker) (handle : Handle) (change : Module -> Module) :
    { broker with modules := broker.modules.modify handle change }.size = broker.size := by
  simp [size, ModuleTable.modify]

theorem advanced_settle (broker : Broker) (handle : Handle) (header : Header)
    (outcome : Outcome) :
    Advanced (MessageType.isFailureExempt header.messageType) 1 broker
      (broker.settle handle header outcome) := by
  have failing (cause : String) :
      Advanced (MessageType.isFailureExempt header.messageType) 1 broker
        (broker.fail handle header cause) := by
    unfold fail
    split
    · exact (Advanced.refl _ _).mono (by omega)
    · next module found =>
      exact Or.inl (by rw [size_notifyFailure]; exact size_remove_lt broker _ found)
  cases outcome with
  | delivered => exact (Advanced.refl _ _).mono (by omega)
  | full =>
      show Advanced _ 1 broker (broker.drop handle header)
      unfold drop
      split
      · exact (Advanced.refl _ _).mono (by omega)
      · next module found =>
        have counted := advanced_notifyFailure
          { broker with modules := broker.modules.modify handle fun module =>
              { module with dropCount := module.dropCount + 1 } } module.id header
        rcases counted with smaller | ⟨same, rest⟩
        · exact Or.inl (by rw [size_modify] at smaller; exact smaller)
        · exact Or.inr ⟨by rw [size_modify] at same; exact same, rest⟩
  | closed => exact failing _
  | timedOut => exact failing _

theorem advanced_sweep (offer : Offer σ) (pending : Pending) (handles : List Handle) (queues : σ)
    (broker : Broker) :
    Advanced (MessageType.isFailureExempt pending.header.messageType) handles.length broker
      (sweep offer pending handles queues broker).broker := by
  induction handles generalizing queues broker with
  | nil => exact Advanced.refl _ _
  | cons handle rest ih =>
      unfold sweep
      split
      · exact (ih queues broker).mono (by simp)
      · split
        · exact (Advanced.refl _ _).mono (by simp)
        · next outcome queues' _ =>
          have first := advanced_settle broker handle pending.header outcome
          have later := ih queues' (broker.settle handle pending.header outcome)
          exact (first.trans later).mono (by simp; omega)

theorem length_targets_le (broker : Broker) (header : Header) (route : Route) :
    (broker.targets header route).length <= broker.size := by
  simp only [targets, List.length_map]
  exact List.length_filter_le _ _

theorem total_weight_exempt (size : Nat) (added : List Pending)
    (exempt : ∀ pending ∈ added, MessageType.isFailureExempt pending.header.messageType = true) :
    total (added.map (weight size)) = added.length := by
  induction added with
  | nil => rfl
  | cons head tail ih =>
      have rest := ih fun pending here => exempt pending (List.mem_cons_of_mem _ here)
      have first : weight size head = 1 := by simp [weight, exempt head List.mem_cons_self]
      simp only [List.map_cons, total, rest, first, List.length_cons]
      omega

/-- A frame fewer, for all that its delivery may add. -/
theorem flush_decreases (broker : Broker) (pending : Pending) (outbox : List Pending)
    (next : broker.outbox = pending :: outbox) {after : Broker}
    (step : Advanced (MessageType.isFailureExempt pending.header.messageType) broker.size
      { broker with outbox } after) :
    Prod.Lex (· < ·) (· < ·) (after.size, after.backlog) (broker.size, broker.backlog) := by
  rcases step with smaller | ⟨same, added, outbox', few, none, exempt⟩
  · exact Prod.Lex.left _ _ smaller
  · have same' : after.size = broker.size := same
    rw [same']
    refine Prod.Lex.right _ ?_
    simp only [backlog, next, outbox', same', List.map_append, total_append, List.map_cons,
      total, total_weight_exempt _ _ exempt]
    by_cases isExempt : MessageType.isFailureExempt pending.header.messageType = true
    · rw [none isExempt]
      simp [weight, isExempt]
    · have heavy : weight broker.size pending = broker.size + 1 := by simp [weight, isExempt]
      omega

/-! ## The whole outbox -/

/-- What emptying the outbox has led to.  If a delivery has to wait, the outbox
need not be empty. -/
structure Flushed (σ : Type) where
  broker : Broker
  queues : σ
  deliveries : List Delivery
  waiting : Option Sweep

/-- Deliver everything in the outbox, and everything that this adds to it. -/
def flush (offer : Offer σ) (queues : σ) (broker : Broker) : Flushed σ :=
  match _next : broker.outbox with
  | [] => ⟨broker, queues, [], none⟩
  | pending :: outbox =>
      let popped := { broker with outbox }
      let swept := sweep offer pending (popped.targets pending.header pending.route) queues popped
      let delivery : Delivery := ⟨pending, swept.attempts⟩
      if swept.remaining.isEmpty then
        let flushed := flush offer swept.queues swept.broker
        { flushed with deliveries := delivery :: flushed.deliveries }
      else ⟨swept.broker, swept.queues, [], some ⟨delivery, swept.remaining⟩⟩
termination_by (broker.size, broker.backlog)
decreasing_by
  exact flush_decreases broker pending outbox _next
    ((advanced_sweep offer pending _ queues { broker with outbox }).mono
      (length_targets_le _ _ _))

/-- Go on with a delivery that had to wait, and then with the outbox. -/
def resume (offer : Offer σ) (queues : σ) (broker : Broker) (waiting : Sweep) : Flushed σ :=
  let swept := sweep offer waiting.delivery.pending waiting.remaining queues broker
  let delivery : Delivery :=
    { waiting.delivery with attempts := waiting.delivery.attempts ++ swept.attempts }
  if swept.remaining.isEmpty then
    let flushed := flush offer swept.queues swept.broker
    { flushed with deliveries := delivery :: flushed.deliveries }
  else ⟨swept.broker, swept.queues, [], some ⟨delivery, swept.remaining⟩⟩

end Broker

end MessageBus
