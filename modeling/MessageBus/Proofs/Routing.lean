import MessageBus.Proofs.Run

namespace MessageBus

open Wire

/-!
# Who gets a frame

Three places say for whom a frame is: the loggers of the table, the subscriptions
of its type, and the route.  Each is kept apart from the record of the module, so
each could name somebody who has left, or whose record says otherwise.  The
theorems here say for whom a frame is by the records alone, with the types that
each module asked for, and show that the delivery agrees.

A module may be named in more than one place.  That nobody is offered a frame
twice follows from going through the table and not through the places.  Collecting
the names from the places, and going through those that are registered, comes to
the same.
-/

namespace Broker

/-- Who is named in one of the places, registered or not. -/
def named (broker : Broker) (header : Header) (route : Route) : List Handle :=
  let bySubscription :=
    match route with
    | .direct handle => [handle]
    | .subscribers =>
        (broker.subscriptions.subscribers header.messageType).filter fun handle =>
          header.destinationModule == 0 ||
            (broker.modules.get? handle).any (·.id == header.destinationModule)
  Ascending.union (broker.modules.loggers ++ bySubscription) []

theorem mem_named {broker : Broker} {handle : Handle} {module : Module} {header : Header}
    {route : Route} (found : broker.modules.get? handle = some module)
    (registered : module.isRegistered = true) :
    handle ∈ broker.named header route ↔ broker.isTarget header route module = true := by
  have own : module.handle = handle := ModuleTable.handle_of_get? found
  unfold named isTarget
  simp only [registered, Bool.true_and, Bool.or_eq_true, List.contains_iff_mem, own,
    Ascending.mem_union, List.mem_append, List.not_mem_nil, or_false]
  refine or_congr_right ?_
  cases route with
  | direct addressed => simp only [List.mem_singleton, beq_iff_eq]
  | subscribers =>
      simp only [List.mem_filter, Subscriptions.mem_subscribers, found, Option.any_some,
        Bool.and_eq_true, Bool.or_eq_true]

/-- A frame goes to those of the named who are registered. -/
theorem targets_eq_named {broker : Broker} (consistent : broker.modules.Consistent)
    (header : Header) (route : Route) :
    broker.targets header route =
      (broker.named header route).filter broker.modules.isRegistered := by
  have ascending : (broker.named header route).Pairwise (· < ·) :=
    Ascending.pairwise_union _ List.Pairwise.nil
  refine (targets_ascending consistent header route).eq_of_mem_iff
    (ascending.sublist List.filter_sublist) fun handle => ?_
  rw [mem_targets consistent, List.mem_filter, ModuleTable.isRegistered_iff]
  constructor
  · rintro ⟨module, found, isTarget⟩
    have registered : module.isRegistered = true := (Bool.and_eq_true_iff.mp isTarget).1
    exact ⟨(mem_named found registered).mpr isTarget, module, found, registered⟩
  · rintro ⟨here, module, found, registered⟩
    exact ⟨module, found, (mem_named found registered).mp here⟩

/-- A frame concerns a module, by what the module is and by what it asked for. -/
def Concerns (broker : Broker) (pending : Pending) (module : Module) : Prop :=
  module.isLogger = true ∨
    match pending.route with
    | .direct addressed => module.handle = addressed
    | .subscribers =>
        (pending.header.messageType ∈ broker.subscriptions.typesOf module.handle ∨
          broker.subscriptions.wantsEverything module.handle = true) ∧
        (pending.header.destinationModule = 0 ∨
          module.id = pending.header.destinationModule)

/-- A frame is for the registered modules that it concerns. -/
def IsMeant (broker : Broker) (pending : Pending) (handle : Handle) : Prop :=
  ∃ module, broker.modules.get? handle = some module ∧ module.isRegistered = true ∧
    broker.Concerns pending module

namespace Sound

variable {config : Config} {broker : Broker} {handle : Handle} {module : Module}
  {pending : Pending}

theorem contains_loggers (sound : broker.Sound config)
    (found : broker.modules.get? handle = some module) (registered : module.isRegistered = true) :
    broker.modules.loggers.contains handle = module.isLogger := by
  apply Bool.eq_iff_iff.mpr
  rw [List.contains_iff_mem, sound.modules.loggers]
  constructor
  · rintro ⟨other, foundOther, _, isLogger⟩
    rw [found] at foundOther
    exact Option.some.inj foundOther ▸ isLogger
  · intro isLogger
    exact ⟨module, found, registered, isLogger⟩

theorem isTarget_iff (sound : broker.Sound config)
    (found : broker.modules.get? handle = some module) :
    broker.isTarget pending.header pending.route module = true ↔
      module.isRegistered = true ∧ broker.Concerns pending module := by
  unfold isTarget Concerns
  rw [Bool.and_eq_true, Bool.or_eq_true]
  refine and_congr_right fun registered => ?_
  rw [ModuleTable.handle_of_get? found, sound.contains_loggers found registered]
  refine or_congr_right ?_
  cases pending.route with
  | direct addressed => exact beq_iff_eq
  | subscribers =>
      simp only [Bool.and_eq_true, sound.subscriptions.wants_iff, Bool.or_eq_true, beq_iff_eq]

theorem mem_targets_iff (sound : broker.Sound config) :
    handle ∈ broker.targets pending.header pending.route ↔ broker.IsMeant pending handle := by
  rw [mem_targets sound.modules]
  exact exists_congr fun module => and_congr_right fun found => sound.isTarget_iff found

end Sound

end Broker

namespace Bus

variable {config : Config} {pending : Pending} {outbox : List Pending}

/-- Where every module has a queue of its own, the account does not stand between
the frame and the queues. -/
theorem course_separate {rule : QueueRule ρ} {bus : Bus (Handle -> ρ)}
    (sound : bus.broker.Sound config) (pending : Pending) (outbox : List Pending) :
    ∃ swept : Broker.Swept (Handle -> ρ),
      Broker.Course rule.each pending (bus.broker.targets pending.header pending.route) bus.queues
        { bus.broker with outbox } swept ∧
      (bus.handOut rule.each pending outbox).queues.1 = swept.queues ∧
      (bus.handOut rule.each pending outbox).attempts = swept.attempts :=
  ⟨_, Broker.course_next rule.each pending outbox _ sound.modules,
    (handOut_eq rule.each bus pending outbox).2⟩

variable {behaviour : Behaviour σ} {bus : Bus σ}

/-- A frame that leaves the outbox is offered to those for whom it is, each once,
and one after the other.  It is put into no other queue, and what becomes of it
at a module is for the module's own queue to say. -/
theorem Reachable.routed_exactly (reachable : bus.Reachable behaviour config)
    (next : bus.broker.outbox = pending :: outbox) :
    let handed := bus.handOut behaviour pending outbox
    (bus.deliver behaviour).history =
        bus.history ++ [.delivered ⟨pending, handed.attempts⟩] ∧
      (handed.attempts.map Prod.fst).Pairwise (· < ·) ∧
      (∀ handle, handle ∈ handed.attempts.map Prod.fst ↔ bus.broker.IsMeant pending handle) ∧
      (∀ handle, (bus.deliver behaviour).contents handle =
        if (handle, .delivered) ∈ handed.attempts then bus.contents handle ++ [pending.outbound]
        else bus.contents handle) ∧
      ∀ (ρ : Type) (rule : QueueRule ρ) (queues : Handle -> ρ),
        let separate := ({ bus with queues } : Bus (Handle -> ρ)).handOut rule.each pending outbox
        (∀ handle module outcome, bus.broker.modules.get? handle = some module ->
          (handle, outcome) ∈ separate.attempts ->
            rule.answer (queues handle) module.isLogger pending.outbound =
              (outcome, separate.queues.1 handle)) ∧
        ∀ handle, ¬ bus.broker.IsMeant pending handle ->
          separate.queues.1 handle = queues handle := by
  have sound := reachable.sound
  have reached := (course_handOut behaviour sound pending outbox).attempts_eq
  refine ⟨?_, ?_, ?_, contents_deliver sound next, ?_⟩
  · rw [deliver_of_cons behaviour next]
  · rw [reached]
    exact Broker.targets_ascending sound.modules _ _
  · intro handle
    rw [reached]
    exact sound.mem_targets_iff
  · intro ρ rule queues
    have separate : ({ bus with queues } : Bus (Handle -> ρ)).broker.Sound config := sound
    rcases course_separate separate pending outbox with ⟨swept, course, sameQueues, sameAttempts⟩
    dsimp only
    rw [sameQueues, sameAttempts]
    constructor
    · intro handle module outcome found attempted
      exact course.own_answer found attempted
    · intro handle notMeant
      exact course.queues_of_not_mem fun here => notMeant (sound.mem_targets_iff.mp here)

/-- The small bus when the second module is about to be answered. -/
def answering : Bus (Handle -> Nat) :=
  small.run QueueRule.bounded.each [.deliver, .deliver]

theorem outbox_answering : answering.broker.outbox ≠ [] := by
  apply List.ne_nil_of_length_pos
  decide +kernel

/-- The logger sees the answer as well. -/
theorem routed_exactly_of_answering :
    ∃ pending outbox, answering.broker.outbox = pending :: outbox ∧ pending.route = .direct 2 ∧
      (answering.handOut QueueRule.bounded.each pending outbox).attempts.map Prod.fst = [1, 2] ∧
      ∀ handle,
        handle ∈ (answering.handOut QueueRule.bounded.each pending outbox).attempts.map Prod.fst ↔
          answering.broker.IsMeant pending handle := by
  have next := (List.cons_head_tail outbox_answering).symm
  have reachable : answering.Reachable QueueRule.bounded.each {} := small_reachable.run _
  refine ⟨_, _, next, ?_, ?_, (reachable.routed_exactly next).2.2.1⟩
  · decide +kernel
  · decide +kernel

end Bus

end MessageBus
