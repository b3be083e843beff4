import MessageBus.Proofs.Answers
import MessageBus.Proofs.Failures
import MessageBus.Proofs.Wishes

namespace MessageBus

open Wire

/-!
# What happens to the others

One message can cost several modules their places, because every frame that it
leads to is offered to others, and every refusal leads to further frames.  None of
this touches a module whose own queue is open.  `Broker.Spares` is what such a
module keeps: its record, apart from the losses that are counted there, and its
subscriptions.  A reaction spares everybody but the one that it is a reaction to;
the settlement of an outcome spares everybody but the one whose outcome it is, and
that one too as long as its queue took the frame or had no room for it.

Whether a queue is open is a matter of its answers.  `Bus.StaysOpen` asks for no
more than that those which a flush really gets are not that it is closed, or that a
logger's time is over.  `Behaviour.Serves` is the same as a promise about the state
of the queues, which is where it can be checked before anything is delivered.
-/

/-- Who has caused it, if it comes from a connection. -/
def Occasion.source? : Occasion -> Option Handle
  | .event happened => some happened.source
  | .arrival _ | .poll _ | .upkeep _ => none

theorem Occasion.ne_source_of_foreign {happened : Event} {handle : Handle}
    (foreign : (Occasion.event happened).source? ≠ some handle) : handle ≠ happened.source :=
  fun same => foreign (congrArg some same.symm)

/-- A module for which so many frames more were dropped. -/
def Module.dropping (module : Module) (lost : Nat) : Module :=
  { module with dropCount := module.dropCount + lost }

namespace Module

variable (module : Module) (early late : Nat)

@[simp] theorem dropping_zero : module.dropping 0 = module := rfl

@[simp] theorem dropping_dropping :
    (module.dropping early).dropping late = module.dropping (early + late) := by
  simp only [dropping, Nat.add_assoc]

end Module

namespace Outcome

/-- The queue is open: it took the frame, or it had no room for it. -/
def isOpen : Outcome -> Bool
  | .delivered | .full => true
  | .closed | .timedOut => false

theorem isOpen_iff {outcome : Outcome} :
    outcome.isOpen = true ↔ outcome = .delivered ∨ outcome = .full := by
  cases outcome <;> simp [isOpen]

/-- An open queue costs the module at most the frame. -/
theorem record?_of_isOpen {outcome : Outcome} (isOpen : outcome.isOpen = true) (module : Module) :
    ∃ lost, outcome.record? module = some (module.dropping lost) := by
  rcases isOpen_iff.mp isOpen with rfl | rfl
  · exact ⟨0, rfl⟩
  · exact ⟨1, rfl⟩

end Outcome

namespace Broker

/-- Of one module only the losses may differ. -/
structure Spares (handle : Handle) (before after : Broker) : Prop where
  record : ∃ lost,
    after.modules.get? handle = (before.modules.get? handle).map (·.dropping lost)
  subscriptions : Subscriptions.SameFor handle before.subscriptions after.subscriptions

variable {broker before between after : Broker} {handle other : Handle} {module : Module}
  {config : Config}

namespace Spares

theorem of_get? (same : after.modules.get? handle = before.modules.get? handle)
    (subscriptions : Subscriptions.SameFor handle before.subscriptions after.subscriptions) :
    Spares handle before after := by
  refine ⟨⟨0, ?_⟩, subscriptions⟩
  simp [same]

theorem refl (handle : Handle) (broker : Broker) : Spares handle broker broker :=
  of_get? rfl (.refl handle _)

theorem trans (early : Spares handle before between) (late : Spares handle between after) :
    Spares handle before after := by
  rcases early.record with ⟨first, foundBetween⟩
  rcases late.record with ⟨second, foundAfter⟩
  refine ⟨⟨first + second, ?_⟩, early.subscriptions.trans late.subscriptions⟩
  rw [foundAfter, foundBetween, Option.map_map]
  congr 1
  funext module
  exact module.dropping_dropping first second

end Spares

/-! ## Reactions -/

theorem get?_remove_of_ne (different : handle ≠ other) (departure : Departure) :
    (broker.remove other departure).modules.get? handle = broker.modules.get? handle := by
  rw [modules_remove]
  exact ModuleTable.get?_remove_of_ne different

theorem get?_connect_of_ne (different : handle ≠ other) (request : ConnectRequest) :
    (broker.connect other request).modules.get? handle = broker.modules.get? handle := by
  rcases chosen : broker.modules.chooseId broker.identities other request
    broker.config.identity.dynamicStart with ⟨rejection | id, identities⟩
  · rw [connect_of_error chosen]
    exact get?_remove_of_ne different _
  · rw [connect_of_ok chosen]
    simp only [modules_publishClientInfo, modules_acknowledge]
    exact ModuleTable.get?_enroll_of_ne id request different

theorem get?_rename_of_ne (different : handle ≠ other) (name : String) :
    (broker.rename other name).modules.get? handle = broker.modules.get? handle := by
  unfold rename
  split
  · rfl
  · split
    · rfl
    · simp only [modules_publishClientInfo, modules_acknowledge]
      exact ModuleTable.get?_modify_of_ne _ (fun _ => rfl) different

theorem get?_serve_of_ne (different : handle ≠ other) (message : Message) (request : Request) :
    (broker.serve other message request).modules.get? handle = broker.modules.get? handle := by
  cases request with
  | connect request => rfl
  | disconnect => exact get?_remove_of_ne different .disconnected
  | subscribe messageType | resume messageType =>
      exact congrArg (ModuleTable.get? · handle) (modules_acknowledge _ other)
  | unsubscribe messageType | pause messageType =>
      exact congrArg (ModuleTable.get? · handle) (modules_acknowledge _ other)
  | moduleReady pid => exact ModuleTable.get?_modify_of_ne _ (fun _ => rfl) different
  | setName name => exact get?_rename_of_ne different name
  | other =>
      unfold serve
      dsimp only
      split
      · rfl
      · unfold forward
        split <;> rfl

theorem get?_greet_of_ne (different : handle ≠ other) (request : Request) :
    (broker.greet other request).modules.get? handle = broker.modules.get? handle := by
  unfold greet
  split
  · exact get?_connect_of_ne different _
  · exact get?_remove_of_ne different .disconnected
  · rfl

theorem get?_receive_of_ne (different : handle ≠ other) (message : Message) :
    (broker.receive other message).modules.get? handle = broker.modules.get? handle := by
  unfold receive
  split
  · unfold dispatch
    split
    · rfl
    · split
      · exact get?_serve_of_ne different message _
      · exact get?_greet_of_ne different _
  · rfl

theorem modules_report (broker : Broker) (now : Milliseconds) :
    (broker.report now).modules = broker.modules := by
  rcases report_eq broker now with ⟨diagnostics, outbox, same⟩
  rw [same]

/-- Whatever happens leaves the records of all but its source alone. -/
theorem get?_meet_of_foreign {occasion : Occasion} (foreign : occasion.source? ≠ some handle)
    (given : handle ≤ broker.modules.lastHandle) :
    (broker.meet occasion).modules.get? handle = broker.modules.get? handle := by
  cases occasion with
  | event event =>
      have different := Occasion.ne_source_of_foreign foreign
      cases event with
      | message source message => exact get?_receive_of_ne different message
      | ended source cause => exact get?_remove_of_ne different _
  | arrival peer =>
      exact ModuleTable.get?_insert_of_ne peer (Nat.ne_of_lt (Nat.lt_succ_of_le given))
  | poll now => exact congrArg (ModuleTable.get? · handle) (modules_report broker now)
  | upkeep clock => rfl

theorem Resubscribed.sameFor {source : Handle} {wish? : Option Wish}
    (resubscribed : Resubscribed broker source wish? after) (sound : broker.Sound config)
    (different : handle ≠ source) :
    Subscriptions.SameFor handle broker.subscriptions after.subscriptions := by
  cases resubscribed with
  | untouched silent same => exact same ▸ .refl handle _
  | granted asked same => exact same ▸ .grant sound.subscriptions different _
  | forgotten silent gone same => exact same ▸ .remove sound.subscriptions different

theorem spares_meet (sound : broker.Sound config) {occasion : Occasion}
    (foreign : occasion.source? ≠ some handle) (given : handle ≤ broker.modules.lastHandle) :
    Spares handle broker (broker.meet occasion) := by
  refine .of_get? (get?_meet_of_foreign foreign given) ?_
  cases occasion with
  | event event =>
      have different := Occasion.ne_source_of_foreign foreign
      cases event with
      | message source message =>
          exact (resubscribed_receive broker source message).sameFor sound different
      | ended source cause =>
          exact (resubscribed_remove broker source (.lost cause)).sameFor sound different
  | arrival peer => exact .refl handle _
  | poll now =>
      have same : (broker.meet (.poll now)).subscriptions = broker.subscriptions :=
        subscriptions_report broker now
      exact same ▸ .refl handle _
  | upkeep clock => exact .refl handle _

/-- A module that asks again to be let in is counted and not heard. -/
theorem receive_connect_again {message : Message} {request : ConnectRequest}
    (registered : broker.modules.isRegistered handle = true)
    (asked : Request.classify broker.schemas message = .ok (.connect request)) :
    broker.receive handle message =
      { broker with diagnostics := broker.diagnostics.count message.messageType } := by
  rcases ModuleTable.isRegistered_iff.mp registered with ⟨module, found, _⟩
  unfold receive dispatch
  rw [if_pos (ModuleTable.contains_iff.mpr ⟨module, found⟩)]
  simp only [asked, registered, if_true]
  rfl

/-! ## Deliveries -/

/-- What becomes of a frame at a module spares the others, and itself if its queue
is open. -/
theorem spares_settle (sound : broker.Sound config)
    (found : broker.modules.get? other = some module) (header : Header) {outcome : Outcome}
    (isOpen : other = handle -> outcome.isOpen = true) :
    Spares handle broker (broker.settle other header outcome) := by
  by_cases own : other = handle
  · subst own
    rcases outcome.record?_of_isOpen (isOpen rfl) module with ⟨lost, record⟩
    refine ⟨⟨lost, ?_⟩, ?_⟩
    · rw [get?_settle_self found, record, found, Option.map_some]
    · rw [subscriptions_settle found, record, if_neg (Option.some_ne_none _)]
      exact .refl other _
  · have different : handle ≠ other := fun same => own same.symm
    apply Spares.of_get? (get?_settle_of_ne found header outcome different)
    rw [subscriptions_settle found]
    split
    · exact .remove sound.subscriptions different
    · exact .refl handle _

variable {behaviour : Behaviour σ} {pending : Pending} {handles : List Handle} {queues : σ}

/-- None of the attempts has found a module's queue closed, or its time over. -/
def HeldOpen (handle : Handle) (attempts : List (Handle × Outcome)) : Prop :=
  ∀ attempt ∈ attempts, attempt.1 = handle -> attempt.2.isOpen = true

theorem Course.spares {swept : Swept σ}
    (course : Course behaviour pending handles queues broker swept) (sound : broker.Sound config)
    (heldOpen : HeldOpen handle swept.attempts) : Spares handle broker swept.broker := by
  induction course with
  | done queues broker => exact .refl handle broker
  | @offered first rest queues next broker module outcome swept found registered answered absent
      later ih =>
      rcases List.forall_mem_cons.mp heldOpen with ⟨here, rest⟩
      have ordinary := Behaviour.ordinary_of_full answered
      have settled := (edits_settle found registered pending.header ordinary).sound sound
      exact (spares_settle sound found pending.header here).trans (ih settled rest)

theorem Sound.swept (sound : broker.Sound config) {outbox : List Pending}
    (next : broker.outbox = pending :: outbox) (behaviour : Behaviour σ) (queues : σ) :
    (sweep behaviour.offer pending (broker.targets pending.header pending.route) queues
      { broker with outbox }).broker.Sound config :=
  (course_next behaviour pending outbox queues sound.modules).edits.sound (sound.popped next)

/-- A flush spares everybody whose queue is open whenever it is offered something. -/
theorem spares_flush (sound : broker.Sound config) (behaviour : Behaviour σ) (queues : σ)
    (heldOpen : ∀ delivery ∈ (broker.flush behaviour.offer queues).deliveries,
      HeldOpen handle delivery.attempts) :
    Spares handle broker (broker.flush behaviour.offer queues).broker := by
  induction queues, broker using flush_induction behaviour with
  | empty queues broker empty =>
      rw [flush_of_nil behaviour queues empty]
      exact .refl handle broker
  | next queues broker pending outbox next ih =>
      rw [flush_of_cons behaviour queues next] at heldOpen ⊢
      rcases List.forall_mem_cons.mp heldOpen with ⟨here, rest⟩
      have popped : Spares handle broker { broker with outbox } := .of_get? rfl (.refl handle _)
      have course := course_next behaviour pending outbox queues sound.modules
      have swept := course.spares (sound.popped next) here
      exact (popped.trans swept).trans (ih (sound.swept next behaviour queues) rest)

end Broker

/-! ## Open queues -/

/-- A promise about the state of the queues under which a module's own queue is open:
its frames are taken in time or find no room, and whatever is offered to whomever, the
promise stays. -/
structure Behaviour.Serves (behaviour : Behaviour σ) (module : Module)
    (promise : σ -> Prop) : Prop where
  answers : ∀ queues later outbound, promise queues -> module.Keeps later ->
    (behaviour.answer queues later outbound).1.isOpen = true
  lasts : ∀ queues other outbound, promise queues ->
    (other.handle = module.handle -> module.Keeps other) ->
      promise (behaviour.answer queues other outbound).2

/-- Where every module has a queue of its own, its own queue is what counts. -/
theorem QueueRule.serves (rule : QueueRule ρ) (module : Module) {isOpen : ρ -> Prop}
    (opens : ∀ queue outbound, isOpen queue ->
      (rule.answer queue module.isLogger outbound).1.isOpen = true ∧
        isOpen (rule.answer queue module.isLogger outbound).2) :
    rule.each.Serves module fun queues => isOpen (queues module.handle) where
  answers queues later outbound promised keeps := by
    have own := (opens (queues module.handle) outbound promised).1
    rw [← keeps.handle, ← keeps.isLogger] at own
    exact own
  lasts queues other outbound promised keeps := by
    rcases answered : rule.each.answer queues other outbound with ⟨outcome, next⟩
    rcases QueueRule.answer_of_each answered with ⟨queue, own, rfl⟩
    dsimp only
    by_cases same : other.handle = module.handle
    · have still := (opens (queues module.handle) outbound promised).2
      rw [← same, ← (keeps same).isLogger, own] at still
      rw [← same, Function.update_self]
      exact still
    · rw [Function.update_of_ne (Ne.symm same)]
      exact promised

/-- Nobody waits for a module that is no logger, so a queue with whatever room is open. -/
theorem QueueRule.bounded_serves {module : Module} (ordinary : module.isLogger = false) :
    QueueRule.bounded.each.Serves module fun _ => True := by
  refine @QueueRule.serves Nat QueueRule.bounded module (fun _ => True) ?_
  intro room outbound _
  rw [ordinary]
  cases room with
  | zero => exact ⟨rfl, trivial⟩
  | succ room => exact ⟨rfl, trivial⟩

namespace Service.Queues

/-- The connection is there, and its stream has not failed. -/
def IsOpen (handle : Handle) (queues : Queues) : Prop :=
  ∃ connection, queues.connections.find? (·.handle = handle) = some connection ∧
    connection.isBroken = false

variable {settings : DeliverySettings} {queues next : Queues} {module other : Module}
  {handle : Handle} {outbound : Outbound} {outcome : Outcome}

/-- Taking in a frame leaves every stream as it is. -/
theorem IsOpen.of_offer (isOpen : IsOpen handle queues)
    (offered : Queues.offer settings queues other outbound = some (outcome, next)) :
    IsOpen handle next := by
  have answers := answers_of_offer offered
  rcases isOpen with ⟨connection, found, whole⟩
  unfold IsOpen
  generalize next.connections = connections at answers
  cases answers with
  | taken _ _ _ =>
      let push (connection : Connection) : Connection :=
        if connection.handle = other.handle then
          { connection with writer := connection.writer.push outbound }
        else connection
      have sameHandle : ∀ connection, (push connection).handle = connection.handle := by
        intro connection
        by_cases here : connection.handle = other.handle
        · simp only [push, if_pos here]
        · simp only [push, if_neg here]
      have sameStream : (push connection).isBroken = connection.isBroken := by
        by_cases here : connection.handle = other.handle
        · simp only [push, if_pos here]
        · simp only [push, if_neg here]
      have pushed : (queues.connections.map push).find? (·.handle = handle) =
          some (push connection) := by
        rw [List.find?_map]
        simp only [Function.comp_def, sameHandle, found, Option.map_some]
      exact ⟨push connection, pushed, sameStream.trans whole⟩
  | full | closed | timedOut => exact ⟨connection, found, whole⟩

/-- A module that is no logger is answered at once, and if its stream has not failed,
not by saying that its queue is closed. -/
theorem IsOpen.answered (isOpen : IsOpen module.handle queues)
    (ordinary : module.isLogger = false) (settings : DeliverySettings) (outbound : Outbound) :
    ∃ outcome next, Queues.offer settings queues module outbound = some (outcome, next) ∧
      outcome.isOpen = true := by
  rcases isOpen with ⟨connection, found, whole⟩
  unfold Queues.offer
  by_cases room : connection.writer.queue.length < settings.outboundQueueDepth
  · simp only [found, whole, room]
    exact ⟨_, _, rfl, rfl⟩
  · simp only [found, whole, room, ordinary]
    exact ⟨_, _, rfl, rfl⟩

/-- The running manager serves every module that is no logger while its stream has not
failed, provided that no wait for a logger makes the stream fail. -/
theorem serves (ending : Queues -> Module -> Outbound -> Outcome × Queues)
    (ends : ∀ queues module outbound, (ending queues module outbound).1 ≠ .full)
    (ordinary : module.isLogger = false)
    (harmless : ∀ queues other outbound, IsOpen module.handle queues ->
      IsOpen module.handle (ending queues other outbound).2) :
    (behaviour settings ending ends).Serves module (IsOpen module.handle) where
  answers queues later outbound promised keeps := by
    rw [← keeps.handle] at promised
    rcases promised.answered (keeps.isLogger.trans ordinary) settings outbound with
      ⟨outcome, next, offered, isOpen⟩
    have answered : (behaviour settings ending ends).answer queues later outbound =
        (outcome, next) := congrArg (Option.getD · _) offered
    rwa [answered]
  lasts queues other outbound promised _ := by
    cases offered : Queues.offer settings queues other outbound with
    | none =>
        have answered : (behaviour settings ending ends).answer queues other outbound =
            ending queues other outbound := congrArg (Option.getD · _) offered
        rw [answered]
        exact harmless queues other outbound promised
    | some answer =>
        have answered : (behaviour settings ending ends).answer queues other outbound =
            answer := congrArg (Option.getD · _) offered
        rw [answered]
        exact promised.of_offer offered

end Service.Queues

namespace Broker

variable {behaviour : Behaviour σ} {pending : Pending} {handles : List Handle} {queues : σ}
  {broker : Broker} {module : Module} {config : Config} {promise : σ -> Prop}

theorem Course.heldOpen {swept : Swept σ}
    (course : Course behaviour pending handles queues broker swept)
    (serves : behaviour.Serves module promise) (promised : promise queues)
    (known : broker.modules.HasOnly module.handle module.Keeps) :
    HeldOpen module.handle swept.attempts ∧ promise swept.queues := by
  induction course with
  | done queues broker => exact ⟨List.forall_mem_nil _, promised⟩
  | @offered first rest queues next broker offeree outcome swept found registered answered absent
      later ih =>
      have keeps : offeree.handle = module.handle -> module.Keeps offeree := by
        intro same
        rw [← same, ModuleTable.handle_of_get? found] at known
        exact (known.2 offeree found).2
      have ordinary := Behaviour.ordinary_of_full answered
      have succeeds := (edits_settle found registered pending.header ordinary).succeeds
      have promisedNext := serves.lasts queues offeree pending.outbound promised keeps
      rw [answered] at promisedNext
      rcases ih promisedNext (known.of_succeeds (fun early late => late.trans early) succeeds) with
        ⟨held, promisedLast⟩
      refine ⟨List.forall_mem_cons.mpr ⟨fun own => ?_, held⟩, promisedLast⟩
      have isOpen := serves.answers queues offeree pending.outbound promised
        (keeps ((ModuleTable.handle_of_get? found).trans own))
      rwa [answered] at isOpen

/-- Where a module is served, a flush finds its queue open. -/
theorem heldOpen_flush (sound : broker.Sound config) (serves : behaviour.Serves module promise)
    (promised : promise queues) (known : broker.modules.HasOnly module.handle module.Keeps) :
    ∀ delivery ∈ (broker.flush behaviour.offer queues).deliveries,
      HeldOpen module.handle delivery.attempts := by
  induction queues, broker using flush_induction behaviour with
  | empty queues broker empty =>
      rw [flush_of_nil behaviour queues empty]
      exact List.forall_mem_nil _
  | next queues broker pending outbox next ih =>
      rw [flush_of_cons behaviour queues next]
      have course := course_next behaviour pending outbox queues sound.modules
      rcases course.heldOpen serves promised known with ⟨held, promisedNext⟩
      have knownNext := known.of_succeeds (fun early late => late.trans early) course.edits.succeeds
      exact List.forall_mem_cons.mpr
        ⟨held, ih (sound.swept next behaviour queues) promisedNext knownNext⟩

end Broker

/-! ## The whole run -/

namespace Bus

variable {behaviour : Behaviour σ} {config : Config} {bus : Bus σ} {handle : Handle}
  {module : Module}

/-- No flush finds a module's queue closed, or its time over. -/
def StaysOpen (behaviour : Behaviour σ) (bus : Bus σ) (handle : Handle) : Prop :=
  ∀ delivery ∈ (bus.broker.flush behaviour.offer bus.queues).deliveries,
    Broker.HeldOpen handle delivery.attempts

/-- A module stays what it is until it leaves. -/
theorem Reachable.keeps (reachable : bus.Reachable behaviour config)
    (found : bus.broker.modules.get? handle = some module)
    (registered : module.isRegistered = true) (moves : List (Move σ)) :
    (bus.run behaviour moves).broker.modules.HasOnly handle module.Keeps :=
  (ModuleTable.HasOnly.of_get? reachable.sound.modules found registered (.refl module)).of_succeeds
    (fun early late => late.trans early) (succeeds_run behaviour reachable.sound moves)

/-- Whatever comes from a connection, and every tick, leaves all the other modules alone
whose queues stay open: after everything that follows from it has been delivered, they
have the same records, apart from what was dropped for them, and the same subscriptions.
For the queues to stay open it is enough that they are open to begin with, in any sense
that offering frames does not end.  And a registered module has the same number and the
same flags for as long as it is there, even if it asks again to be let in. -/
theorem Reachable.bystanders_unharmed (reachable : bus.Reachable behaviour config)
    (found : bus.broker.modules.get? handle = some module)
    (registered : module.isRegistered = true) :
    (∀ occasion : Occasion, occasion.source? ≠ some handle ->
      let met := bus.step behaviour (.occasion occasion)
      met.StaysOpen behaviour handle ->
        let after := (met.flush behaviour).broker
        after.outbox = [] ∧
          (∃ lost, after.modules.get? handle = some (module.dropping lost)) ∧
          Subscriptions.SameFor handle bus.broker.subscriptions after.subscriptions ∧
          ∀ messageType, after.subscriptions.wants handle messageType =
            bus.broker.subscriptions.wants handle messageType) ∧
      (∀ promise : σ -> Prop, behaviour.Serves module promise -> promise bus.queues ->
        ∀ occasion : Occasion,
          (bus.step behaviour (.occasion occasion)).StaysOpen behaviour handle) ∧
      (∀ moves later, (bus.run behaviour moves).broker.modules.get? handle = some later ->
        module.Keeps later) ∧
      ∀ message request,
        Request.classify bus.broker.schemas message = .ok (.connect request) ->
          bus.broker.receive handle message =
            { bus.broker with
              diagnostics := bus.broker.diagnostics.count message.messageType } := by
  have sound := reachable.sound
  have own := ModuleTable.handle_of_get? found
  refine ⟨?_, ?_, ?_, ?_⟩
  · intro occasion foreign met stays after
    have soundMet : met.broker.Sound config := sound.meet occasion
    have soundAfter : after.Sound config := (reachable.step (.occasion occasion)).flush.sound
    have reacted : bus.broker.Spares handle met.broker :=
      Broker.spares_meet sound foreign (sound.modules.le_lastHandle found)
    have delivered : met.broker.Spares handle after := by
      have flushed := Broker.spares_flush soundMet behaviour met.queues stays
      rwa [← (flush_eq behaviour met).1] at flushed
    have spares := reacted.trans delivered
    rcases spares.record with ⟨lost, record⟩
    rw [found, Option.map_some] at record
    refine ⟨(flush_eq_run behaviour met).1, ⟨lost, record⟩, spares.subscriptions, ?_⟩
    intro messageType
    apply Bool.eq_iff_iff.mpr
    rw [soundAfter.subscriptions.wants_iff, sound.subscriptions.wants_iff,
      Subscriptions.wantsEverything_iff, Subscriptions.wantsEverything_iff,
      spares.subscriptions.everything, spares.subscriptions.types]
  · intro promise serves promised occasion
    have known : (bus.broker.meet occasion).modules.HasOnly module.handle module.Keeps := by
      rw [own]
      exact reachable.keeps found registered [.occasion occasion]
    have held := Broker.heldOpen_flush (sound.meet occasion) serves promised known
    rwa [own] at held
  · intro moves later there
    exact ((reachable.keeps found registered moves).2 later there).2
  · intro message request asked
    have isRegistered := ModuleTable.isRegistered_iff.mpr ⟨module, found, registered⟩
    exact Broker.receive_connect_again isRegistered asked

/-- What the logger says here costs it its place, because more is said than it has room
for.  The module with the number 7 loses two frames by this, and keeps everything else. -/
theorem bystanders_unharmed_of_crowded :
    let message : Message :=
      { header := { messageType := 1234, sourceModule := 100 }, timecode := none, payload := [] }
    let met := crowded.step QueueRule.bounded.each (.occasion (.event (.message 1 message)))
    let after := (met.flush QueueRule.bounded.each).broker
    after.modules.contains 1 = false ∧
      after.outbox = [] ∧
      (∃ module lost, crowded.broker.modules.get? 2 = some module ∧ module.id = 7 ∧
        after.modules.get? 2 = some (module.dropping lost) ∧
        (module.dropping lost).dropCount = 2) ∧
      after.subscriptions.wants 2 1234 = true := by
  intro message met after
  have reachable : crowded.Reachable QueueRule.bounded.each {} := (vacant_reachable 1).run _
  have delivered : met.flush QueueRule.bounded.each =
      met.run QueueRule.bounded.each (List.replicate 11 .deliver) :=
    flush_eq_of_run _ 11 (by decide +kernel)
  have gone : after.modules.contains 1 = false := by
    simp only [after, delivered]
    decide +kernel
  have dropped : (after.modules.get? 2).map Module.dropCount = some 2 := by
    simp only [after, delivered]
    decide +kernel
  have wanted : crowded.broker.subscriptions.wants 2 1234 = true := by decide +kernel
  have known : (crowded.broker.modules.get? 2).map
      (fun module => (module.id, module.isRegistered, module.isLogger)) =
        some (7, true, false) := by
    decide +kernel
  rcases Option.map_eq_some_iff.mp known with ⟨module, found, facts⟩
  have isSeven : module.id = 7 := congrArg (·.1) facts
  have registered : module.isRegistered = true := congrArg (·.2.1) facts
  have ordinary : module.isLogger = false := congrArg (·.2.2) facts
  rcases reachable.bystanders_unharmed found registered with ⟨unharmed, staysOpen, _⟩
  have stays : met.StaysOpen QueueRule.bounded.each 2 :=
    staysOpen _ (QueueRule.bounded_serves ordinary) trivial _
  rcases unharmed (.event (.message 1 message)) (by decide) stays with
    ⟨empty, ⟨lost, record⟩, _, same⟩
  have two : (module.dropping lost).dropCount = 2 := by
    have counted : (after.modules.get? 2).map Module.dropCount =
        some (module.dropping lost).dropCount := congrArg (Option.map Module.dropCount) record
    exact Option.some.inj (counted.symm.trans dropped)
  exact ⟨gone, empty, ⟨module, lost, found, isSeven, record, two⟩, (same 1234).trans wanted⟩

end Bus

end MessageBus
