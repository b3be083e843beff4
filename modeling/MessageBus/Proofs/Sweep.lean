import MessageBus.Proofs.Invariant
import MessageBus.Network.Service

namespace MessageBus

open Wire

/-!
# One frame at all its modules

A frame is offered to one module after the other, and every refusal changes the
broker before the next module has its turn.  The theorems here say that this
does not matter: what happens at one module changes nothing about the record of
another, so everybody for whom a frame was meant at the beginning is reached.
`Broker.Course` is a delivery as it goes when everybody is there, and what is to
be known about deliveries is shown along it.

How queues answer is a `Behaviour`: any rule, over any state of the queues.  The
rule always has an answer, so a wait for a logger is part of it, and it ends.
Its law says who is waited for.  An ordinary module's queue is found full, a
logger's is not, because there the broker waits until it has room, is closed or
has run out of time.  The queues of the running manager are such a behaviour
(`Service.Queues.behaviour`), and what is shown of every behaviour is shown of
every course that a delivery can take.
-/

/-- How the queues of modules answer when a frame is offered, whatever is behind
them. -/
structure Behaviour (σ : Type) where
  answer : σ -> Module -> Outbound -> Outcome × σ
  full_ordinary : ∀ queues module outbound,
    (answer queues module outbound).1 = .full -> module.isLogger = false

namespace Behaviour

def offer (behaviour : Behaviour σ) : Offer σ := fun queues module outbound =>
  some (behaviour.answer queues module outbound)

theorem ordinary_of_full {behaviour : Behaviour σ} {queues next : σ} {module : Module}
    {outbound : Outbound} {outcome : Outcome}
    (answered : behaviour.answer queues module outbound = (outcome, next))
    (full : outcome = .full) : module.isLogger = false := by
  apply behaviour.full_ordinary queues module outbound
  rw [answered, full]

/-- Queues that may have to be waited for, together with the end of every wait. -/
def ofOffer (offer : Offer σ) (ending : σ -> Module -> Outbound -> Outcome × σ)
    (ordinary : ∀ {queues module outbound next},
      offer queues module outbound = some (.full, next) -> module.isLogger = false)
    (ends : ∀ queues module outbound, (ending queues module outbound).1 ≠ .full) :
    Behaviour σ where
  answer queues module outbound :=
    (offer queues module outbound).getD (ending queues module outbound)
  full_ordinary queues module outbound full := by
    cases offered : offer queues module outbound with
    | none =>
        rw [offered] at full
        exact absurd full (ends queues module outbound)
    | some answer =>
        rw [offered] at full
        exact ordinary (offered.trans (congrArg some (Prod.ext full rfl)))

end Behaviour

/-- How the queues of the running manager answer, case by case.  A connection that
is not there or whose stream has failed takes nothing; one with room takes the frame
in at the end; and of those without room, a logger is given up when its time is over,
while another module goes without. -/
inductive Service.Queues.Answers (settings : DeliverySettings) (queues : Queues)
    (module : Module) (outbound : Outbound) : Outcome -> List Connection -> Prop where
  | taken {connection : Connection}
      (found : queues.connections.find? (·.handle = module.handle) = some connection)
      (whole : connection.isBroken = false)
      (room : connection.writer.queue.length < settings.outboundQueueDepth) :
      Answers settings queues module outbound .delivered
        (queues.connections.map fun connection =>
          if connection.handle = module.handle then
            { connection with writer := connection.writer.push outbound }
          else connection)
  | full {connection : Connection}
      (found : queues.connections.find? (·.handle = module.handle) = some connection)
      (whole : connection.isBroken = false)
      (noRoom : settings.outboundQueueDepth ≤ connection.writer.queue.length)
      (ordinary : module.isLogger = false) :
      Answers settings queues module outbound .full queues.connections
  | closed (unusable : ∀ connection,
        queues.connections.find? (·.handle = module.handle) = some connection ->
          connection.isBroken = true) :
      Answers settings queues module outbound .closed queues.connections
  | timedOut {connection : Connection}
      (found : queues.connections.find? (·.handle = module.handle) = some connection)
      (whole : connection.isBroken = false)
      (noRoom : settings.outboundQueueDepth ≤ connection.writer.queue.length)
      (isLogger : module.isLogger = true)
      (expired : queues.isOver = true ∨ settings.loggerWriteTimeout = some 0) :
      Answers settings queues module outbound .timedOut queues.connections

theorem Service.Queues.answers_of_offer {settings : DeliverySettings} {queues next : Queues}
    {module : Module} {outbound : Outbound} {outcome : Outcome}
    (offered : Queues.offer settings queues module outbound = some (outcome, next)) :
    Answers settings queues module outbound outcome next.connections := by
  unfold Queues.offer at offered
  dsimp only at offered
  split at offered
  · next missing =>
    cases offered
    refine .closed fun connection found => ?_
    rw [missing] at found
    cases found
  · next connection found =>
    split at offered
    · next broken =>
      cases offered
      refine .closed fun other here => ?_
      rw [found] at here
      cases here
      exact broken
    · next whole =>
      have whole := Bool.eq_false_of_not_eq_true whole
      split at offered
      · next room =>
        cases offered
        exact .taken found whole room
      · next noRoom =>
        have noRoom := Nat.le_of_not_lt noRoom
        split at offered
        · next ordinary =>
          cases offered
          exact .full found whole noRoom (Bool.not_eq_true' _ ▸ ordinary)
        · next isLogger =>
          split at offered
          · next expired =>
            cases offered
            refine .timedOut found whole noRoom (by simpa using isLogger) ?_
            simpa using expired
          · cases offered

theorem Service.Queues.full_ordinary {settings : DeliverySettings} {queues next : Queues}
    {module : Module} {outbound : Outbound}
    (full : Queues.offer settings queues module outbound = some (.full, next)) :
    module.isLogger = false := by
  have answers := answers_of_offer full
  generalize next.connections = connections at answers
  cases answers with
  | full found whole noRoom ordinary => exact ordinary

/-- The queues of the running manager, however it comes about that a wait ends. -/
def Service.Queues.behaviour (settings : DeliverySettings)
    (ending : Queues -> Module -> Outbound -> Outcome × Queues)
    (ends : ∀ queues module outbound, (ending queues module outbound).1 ≠ .full) :
    Behaviour Queues :=
  .ofOffer (Queues.offer settings) ending full_ordinary ends

/-- How a single queue answers: it knows of itself and of the frame, and whether
the broker waits for it, but of no other queue. -/
structure QueueRule (ρ : Type) where
  answer : ρ -> (isLogger : Bool) -> Outbound -> Outcome × ρ
  full_ordinary : ∀ queue isLogger outbound,
    (answer queue isLogger outbound).1 = .full -> isLogger = false

namespace QueueRule

/-- Every module has a queue of its own, and each follows the rule. -/
def each (rule : QueueRule ρ) : Behaviour (Handle -> ρ) where
  answer queues module outbound :=
    let (outcome, queue) := rule.answer (queues module.handle) module.isLogger outbound
    (outcome, Function.update queues module.handle queue)
  full_ordinary queues module := rule.full_ordinary (queues module.handle) module.isLogger

theorem answer_of_each {rule : QueueRule ρ} {queues next : Handle -> ρ} {module : Module}
    {outbound : Outbound} {outcome : Outcome}
    (answered : rule.each.answer queues module outbound = (outcome, next)) :
    ∃ queue, rule.answer (queues module.handle) module.isLogger outbound = (outcome, queue) ∧
      next = Function.update queues module.handle queue := by
  unfold each at answered
  rcases own : rule.answer (queues module.handle) module.isLogger outbound with ⟨result, queue⟩
  simp only [own] at answered
  cases answered
  exact ⟨queue, rfl, rfl⟩

/-- A queue with a number of free places, from which nobody reads. -/
def bounded : QueueRule Nat where
  answer
    | 0, isLogger, _ => (if isLogger then .timedOut else .full, 0)
    | room + 1, _, _ => (.delivered, room)
  full_ordinary room isLogger outbound := by
    cases room <;> cases isLogger <;> simp

end QueueRule

/-- The record of a module after an outcome, if there is one left. -/
def Outcome.record? (module : Module) : Outcome -> Option Module
  | .delivered => some module
  | .full => some { module with dropCount := module.dropCount + 1 }
  | .closed | .timedOut => none

namespace Broker

variable {broker : Broker} {handle other : Handle} {module : Module}

/-! ## What an outcome does to the table -/

theorem modules_notifyFailure (destination : ModuleId) (failed : Header) :
    (broker.notifyFailure destination failed).modules = broker.modules := by
  unfold notifyFailure
  split <;> rfl

theorem modules_remove (broker : Broker) (handle : Handle) (departure : Departure) :
    (broker.remove handle departure).modules = broker.modules.remove handle := by
  unfold remove
  split
  · rfl
  · dsimp only
    split <;> split <;> rfl

theorem modules_drop (found : broker.modules.get? handle = some module) (failed : Header) :
    (broker.drop handle failed).modules = broker.modules.modify handle fun module =>
      { module with dropCount := module.dropCount + 1 } := by
  unfold drop
  simp only [found, modules_notifyFailure]

theorem modules_fail (found : broker.modules.get? handle = some module) (failed : Header)
    (cause : String) : (broker.fail handle failed cause).modules = broker.modules.remove handle := by
  unfold fail
  simp only [found, modules_notifyFailure]
  exact modules_remove broker handle _

/-- What an outcome leaves of the record that it is about. -/
theorem get?_settle_self (found : broker.modules.get? handle = some module) (header : Header)
    (outcome : Outcome) :
    (broker.settle handle header outcome).modules.get? handle = outcome.record? module := by
  cases outcome with
  | delivered => exact found
  | full =>
      unfold settle
      rw [modules_drop found, ModuleTable.get?_modify_self
        (fun module => { module with dropCount := module.dropCount + 1 }) fun _ => rfl, found]
      rfl
  | closed =>
      unfold settle
      rw [modules_fail found]
      exact ModuleTable.get?_remove_self
  | timedOut =>
      unfold settle
      dsimp only
      rw [modules_fail found]
      exact ModuleTable.get?_remove_self

theorem get?_settle_of_ne (found : broker.modules.get? handle = some module) (header : Header)
    (outcome : Outcome) (different : other ≠ handle) :
    (broker.settle handle header outcome).modules.get? other = broker.modules.get? other := by
  cases outcome with
  | delivered => rfl
  | full =>
      unfold settle
      rw [modules_drop found]
      exact ModuleTable.get?_modify_of_ne _ (fun _ => rfl) different
  | closed =>
      unfold settle
      rw [modules_fail found]
      exact ModuleTable.get?_remove_of_ne different
  | timedOut =>
      unfold settle
      dsimp only
      rw [modules_fail found]
      exact ModuleTable.get?_remove_of_ne different

theorem edits_fail (handle : Handle) (failed : Header) (cause : String) :
    Edits [MessageType.acknowledge] broker (broker.fail handle failed cause) := by
  unfold fail
  split
  · exact .refl
  · exact (edits_remove handle _).ofResponses.trans (edits_notifyFailure _ failed)

theorem edits_settle (found : broker.modules.get? handle = some module)
    (registered : module.isRegistered = true) (header : Header) {outcome : Outcome}
    (ordinary : outcome = .full -> module.isLogger = false) :
    Edits [MessageType.acknowledge] broker (broker.settle handle header outcome) := by
  cases outcome with
  | delivered => exact .refl
  | full =>
      unfold settle drop
      rw [found]
      have counted : Edit [MessageType.acknowledge] broker { broker with
          modules := broker.modules.modify handle fun module =>
            { module with dropCount := module.dropCount + 1 } } := by
        refine .modified _ found registered (fun _ => ⟨rfl, rfl, rfl, rfl, rfl, rfl, rfl⟩)
          (Or.inl rfl) fun logger => ?_
        rw [ordinary rfl] at logger
        cases logger
      exact (Relation.ReflTransGen.single counted).trans (edits_notifyFailure _ header)
  | closed => exact edits_fail handle header _
  | timedOut => exact edits_fail handle header _

/-! ## The whole sweep -/

variable {behaviour : Behaviour σ} {pending : Pending} {handles : List Handle} {queues next : σ}
  {outcome : Outcome}

theorem sweep_cons (found : broker.modules.get? handle = some module)
    (answered : behaviour.answer queues module pending.outbound = (outcome, next)) :
    sweep behaviour.offer pending (handle :: handles) queues broker =
      let swept := sweep behaviour.offer pending handles next
        (broker.settle handle pending.header outcome)
      { swept with attempts := (handle, outcome) :: swept.attempts } := by
  conv => lhs; unfold sweep
  simp only [found, Behaviour.offer, answered]

/-- Where every offer is answered, nothing is left waiting. -/
theorem remaining_sweep (behaviour : Behaviour σ) (pending : Pending) (handles : List Handle)
    (queues : σ) (broker : Broker) :
    (sweep behaviour.offer pending handles queues broker).remaining = [] := by
  induction handles generalizing queues broker with
  | nil => rfl
  | cons handle rest ih =>
      cases found : broker.modules.get? handle with
      | none =>
          unfold sweep
          simp only [found]
          exact ih queues broker
      | some module =>
          rcases answered : behaviour.answer queues module pending.outbound with ⟨outcome, next⟩
          rw [sweep_cons found answered]
          exact ih next _

/-- The course of a frame past modules that are all there and all different.  Each
is offered the frame, and its answer is settled before the next one has its turn. -/
inductive Course (behaviour : Behaviour σ) (pending : Pending) :
    List Handle -> σ -> Broker -> Swept σ -> Prop where
  | done (queues : σ) (broker : Broker) :
      Course behaviour pending [] queues broker ⟨broker, queues, [], []⟩
  | offered {handle : Handle} {rest : List Handle} {queues next : σ} {broker : Broker}
      {module : Module} {outcome : Outcome} {swept : Swept σ}
      (found : broker.modules.get? handle = some module)
      (registered : module.isRegistered = true)
      (answered : behaviour.answer queues module pending.outbound = (outcome, next))
      (absent : handle ∉ rest)
      (later : Course behaviour pending rest next
        (broker.settle handle pending.header outcome) swept) :
      Course behaviour pending (handle :: rest) queues broker
        { swept with attempts := (handle, outcome) :: swept.attempts }

/-- All modules that are still to be reached are registered. -/
def Awaits (broker : Broker) (handles : List Handle) : Prop :=
  ∀ handle ∈ handles, broker.modules.isRegistered handle = true

theorem Awaits.settle (awaits : broker.Awaits (handle :: handles)) (absent : handle ∉ handles)
    (found : broker.modules.get? handle = some module) (header : Header) (outcome : Outcome) :
    (broker.settle handle header outcome).Awaits handles := by
  intro other here
  have different : other ≠ handle := fun same => absent (same ▸ here)
  have before := awaits other (List.mem_cons_of_mem _ here)
  unfold ModuleTable.isRegistered at before ⊢
  rwa [get?_settle_of_ne found header outcome different]

/-- What becomes of the frame at one module keeps the others where they are, so a
frame takes its course past everybody who was there at the beginning. -/
theorem course_sweep (behaviour : Behaviour σ) (pending : Pending) (queues : σ)
    (awaits : broker.Awaits handles) (distinct : handles.Nodup) :
    Course behaviour pending handles queues broker
      (sweep behaviour.offer pending handles queues broker) := by
  induction handles generalizing queues broker with
  | nil => exact .done queues broker
  | cons handle rest ih =>
      rcases ModuleTable.isRegistered_iff.mp (awaits handle List.mem_cons_self) with
        ⟨module, found, registered⟩
      rcases answered : behaviour.answer queues module pending.outbound with ⟨outcome, next⟩
      rcases List.nodup_cons.mp distinct with ⟨absent, distinctRest⟩
      rw [sweep_cons found answered]
      have awaitsRest := awaits.settle absent found pending.header outcome
      exact .offered found registered answered absent (ih next awaitsRest distinctRest)

namespace Course

variable {swept : Swept σ}

/-- Nobody is passed over and nobody is offered the frame twice. -/
theorem attempts_eq (course : Course behaviour pending handles queues broker swept) :
    swept.attempts.map Prod.fst = handles := by
  induction course with
  | done queues broker => rfl
  | offered found registered answered absent later ih => exact congrArg (_ :: ·) ih

theorem mem_of_attempted (course : Course behaviour pending handles queues broker swept)
    (attempted : (other, outcome) ∈ swept.attempts) : other ∈ handles := by
  rw [← course.attempts_eq]
  exact List.mem_map_of_mem attempted

/-- Whoever a frame is not offered to keeps the record as it was. -/
theorem get?_of_not_mem (course : Course behaviour pending handles queues broker swept)
    (absent : other ∉ handles) :
    swept.broker.modules.get? other = broker.modules.get? other := by
  induction course with
  | done queues broker => rfl
  | offered found registered answered _ later ih =>
      rcases List.ne_and_not_mem_of_not_mem_cons absent with ⟨different, untouched⟩
      exact (ih untouched).trans (get?_settle_of_ne found pending.header _ different)

/-- The record of a module is in the end what its own outcome has left of it. -/
theorem get?_of_attempted (course : Course behaviour pending handles queues broker swept)
    (found : broker.modules.get? other = some module)
    (attempted : (other, outcome) ∈ swept.attempts) :
    swept.broker.modules.get? other = outcome.record? module := by
  induction course with
  | done queues broker => cases attempted
  | @offered handle _ _ _ _ _ own _ foundFirst registered answered absent later ih =>
      rcases List.mem_cons.mp attempted with here | after
      · cases here
        rw [found] at foundFirst
        cases foundFirst
        exact (later.get?_of_not_mem absent).trans (get?_settle_self found pending.header _)
      · have different : other ≠ handle := fun same =>
          absent (same ▸ later.mem_of_attempted after)
        exact ih ((get?_settle_of_ne foundFirst pending.header own different).trans found) after

theorem edits (course : Course behaviour pending handles queues broker swept) :
    Edits [MessageType.acknowledge] broker swept.broker := by
  induction course with
  | done queues broker => exact .refl
  | offered found registered answered _ later ih =>
      have ordinary := Behaviour.ordinary_of_full answered
      exact (edits_settle found registered pending.header ordinary).trans ih

/-! ## One queue for each module -/

section Separate

variable {rule : QueueRule ρ} {separate : Handle -> ρ} {swept : Swept (Handle -> ρ)}

/-- Whoever a frame is not offered to keeps the queue as it was. -/
theorem queues_of_not_mem (course : Course rule.each pending handles separate broker swept)
    (absent : other ∉ handles) : swept.queues other = separate other := by
  induction course with
  | done queues broker => rfl
  | offered found registered answered _ later ih =>
      rcases List.ne_and_not_mem_of_not_mem_cons absent with ⟨different, untouched⟩
      rcases QueueRule.answer_of_each answered with ⟨queue, _, rfl⟩
      rw [ModuleTable.handle_of_get? found] at ih
      have kept := ih untouched
      rwa [Function.update_of_ne different] at kept

/-- What becomes of a frame at a module is what the module's own queue says. -/
theorem own_answer (course : Course rule.each pending handles separate broker swept)
    (found : broker.modules.get? other = some module)
    (attempted : (other, outcome) ∈ swept.attempts) :
    rule.answer (separate other) module.isLogger pending.outbound =
      (outcome, swept.queues other) := by
  induction course with
  | done queues broker => cases attempted
  | @offered handle _ _ _ _ _ own _ foundFirst registered answered absent later ih =>
      rcases QueueRule.answer_of_each answered with ⟨queue, ownAnswer, rfl⟩
      rw [ModuleTable.handle_of_get? foundFirst] at ih ownAnswer later
      rcases List.mem_cons.mp attempted with here | after
      · cases here
        rw [foundFirst] at found
        cases found
        rw [later.queues_of_not_mem absent, Function.update_self]
        exact ownAnswer
      · have different : other ≠ handle := fun same =>
          absent (same ▸ later.mem_of_attempted after)
        have foundAfter := get?_settle_of_ne foundFirst pending.header own different
        have answer := ih (foundAfter.trans found) after
        rwa [Function.update_of_ne different] at answer

end Separate

end Course

/-! ## For whom a frame is -/

theorem mem_targets (consistent : broker.modules.Consistent) {header : Header} {route : Route} :
    handle ∈ broker.targets header route ↔
      ∃ module, broker.modules.get? handle = some module ∧
        broker.isTarget header route module = true := by
  unfold targets
  rw [List.mem_map]
  constructor
  · rintro ⟨module, kept, rfl⟩
    rcases List.mem_filter.mp kept with ⟨here, isTarget⟩
    exact ⟨module, consistent.get?_of_mem here, isTarget⟩
  · rintro ⟨module, found, isTarget⟩
    exact ⟨module, List.mem_filter.mpr ⟨ModuleTable.mem_of_get? found, isTarget⟩,
      ModuleTable.handle_of_get? found⟩

theorem targets_ascending (consistent : broker.modules.Consistent) (header : Header)
    (route : Route) : (broker.targets header route).Pairwise (· < ·) :=
  List.Pairwise.sublist (List.filter_sublist.map _) consistent.ascending

theorem targets_nodup (consistent : broker.modules.Consistent) (header : Header)
    (route : Route) : (broker.targets header route).Nodup :=
  (targets_ascending consistent header route).imp fun before => Nat.ne_of_lt before

theorem awaits_targets (consistent : broker.modules.Consistent) (header : Header) (route : Route) :
    broker.Awaits (broker.targets header route) := by
  intro handle here
  rcases (mem_targets consistent).mp here with ⟨module, found, isTarget⟩
  exact ModuleTable.isRegistered_iff.mpr ⟨module, found, (Bool.and_eq_true_iff.mp isTarget).1⟩

/-- A broker is as sound without the frame that it is about to deliver. -/
theorem Sound.popped {config : Config} {outbox : List Pending} (sound : broker.Sound config)
    (next : broker.outbox = pending :: outbox) : Sound config { broker with outbox } := by
  refine { sound with honest := ?_ }
  intro other here
  apply sound.honest
  rw [next]
  exact List.mem_cons_of_mem _ here

/-- The course of the next frame. -/
theorem course_next (behaviour : Behaviour σ) (pending : Pending) (outbox : List Pending)
    (queues : σ) (consistent : broker.modules.Consistent) :
    Course behaviour pending (broker.targets pending.header pending.route) queues
      { broker with outbox }
      (sweep behaviour.offer pending (broker.targets pending.header pending.route) queues
        { broker with outbox }) := by
  have awaits : Awaits { broker with outbox } (broker.targets pending.header pending.route) :=
    awaits_targets consistent pending.header pending.route
  exact course_sweep behaviour pending queues awaits (targets_nodup consistent _ _)

/-! ## The whole outbox -/

theorem flush_of_nil (behaviour : Behaviour σ) (queues : σ) (empty : broker.outbox = []) :
    broker.flush behaviour.offer queues = ⟨broker, queues, [], none⟩ := by
  unfold flush
  split
  · rfl
  · next full =>
    rw [empty] at full
    cases full

theorem flush_of_cons (behaviour : Behaviour σ) (queues : σ) {outbox : List Pending}
    (next : broker.outbox = pending :: outbox) :
    broker.flush behaviour.offer queues =
      let popped := { broker with outbox }
      let swept := sweep behaviour.offer pending
        (popped.targets pending.header pending.route) queues popped
      let flushed := swept.broker.flush behaviour.offer swept.queues
      { flushed with deliveries := ⟨pending, swept.attempts⟩ :: flushed.deliveries } := by
  conv => lhs; unfold flush
  split
  · next empty =>
    rw [next] at empty
    cases empty
  · next first rest full =>
    rw [next] at full
    cases full
    dsimp only
    rw [remaining_sweep]
    rfl

/-- What holds of an empty outbox, and of an outbox whenever it holds after the
delivery of its first frame, holds. -/
theorem flush_induction (behaviour : Behaviour σ) {motive : σ -> Broker -> Prop}
    (empty : ∀ queues broker, broker.outbox = [] -> motive queues broker)
    (next : ∀ queues broker pending outbox, broker.outbox = pending :: outbox ->
      (let popped := { broker with outbox }
        let swept := sweep behaviour.offer pending
          (popped.targets pending.header pending.route) queues popped
        motive swept.queues swept.broker) -> motive queues broker)
    (queues : σ) (broker : Broker) : motive queues broker := by
  induction queues, broker using flush.induct behaviour.offer with
  | case1 queues broker isEmpty => exact empty queues broker isEmpty
  | case2 queues broker pending outbox isNext _ _ _ ih =>
      exact next queues broker pending outbox isNext ih
  | case3 queues broker pending outbox isNext _ _ waits =>
      exact absurd (List.isEmpty_iff.mpr (remaining_sweep behaviour pending _ queues _)) waits

end Broker

end MessageBus
