import MessageBus.Proofs.Loggers
import MessageBus.Proofs.Registries

namespace MessageBus

open Wire

/-!
# What becomes of a frame

At every module that a frame is for, one of three things happens: the module's
queue takes the frame, or the module goes without it, or the module goes.  Each
touches several parts of the state at once, and is written down here as a whole:
`Bus.Accounted` names everything that changes, so what it does not name stays.

In the last two cases a report follows, unless one about such a frame would start
a chain of reports.  There are no other reports.  The reports of a run, those that
were delivered and those that wait, are one for one the losses of its history, in
the same order (`Reachable.failures_accounted`).
-/

/-- A frame of the broker's own, for whoever wants it, from which a payload can be
read. -/
structure Pending.Tells [Payload α] (format : Format) (pending : Pending) (payload : α) :
    Prop where
  originated : pending.outbound.provenance = .originated
  route : pending.route = .subscribers
  messageType : pending.header.messageType = Payload.messageType α
  broadcast : pending.header.destinationModule = 0
  payload : Payload.decode α (pending.outbound.frame.drop format.size) = .ok payload

namespace Broker

variable {broker before after : Broker} {handle : Handle} {module : Module} {config : Config}
  {excluded : List MessageType}

theorem publishPayload_tells [Payload α] (broker : Broker) (payload : α) :
    ∃ frame : Pending, frame.Tells broker.config.format payload ∧
      broker.publishPayload payload = { broker with outbox := broker.outbox ++ [frame] } := by
  refine ⟨_, ?_, rfl⟩
  refine ⟨rfl, rfl, rfl, rfl, ?_⟩
  show Payload.decode α ((Message.encode _ broker.config.format
    broker.clock.timecode).drop broker.config.format.size) = .ok payload
  unfold Message.encode
  rw [List.drop_left' (Format.length_encodeHead _ _ _ _)]
  exact Payload.decode_encode payload

theorem publishPayloads_tells [Payload α] (broker : Broker) (payloads : List α) :
    ∃ frames : List Pending,
      List.Forall₂ (Pending.Tells broker.config.format) frames payloads ∧
        broker.publishPayloads payloads = { broker with outbox := broker.outbox ++ frames } := by
  induction payloads generalizing broker with
  | nil =>
      refine ⟨[], .nil, ?_⟩
      rw [List.append_nil]
      rfl
  | cons payload rest ih =>
      rcases publishPayload_tells broker payload with ⟨frame, tells, published⟩
      rcases ih (broker.publishPayload payload) with ⟨frames, tellsRest, publishedRest⟩
      rw [published] at tellsRest publishedRest
      refine ⟨frame :: frames, .cons tells tellsRest, ?_⟩
      show (broker.publishPayload payload).publishPayloads rest = _
      rw [published, publishedRest, List.append_assoc]
      rfl

/-- The frames that report that a module of a number did not get a frame, and the
counts with them in it: one frame, counted once, or none. -/
inductive Reported (format : Format) (destination : ModuleId) (failed : Header)
    (diagnostics : Diagnostics) : List Pending -> Diagnostics -> Prop where
  | exempt (exempt : MessageType.isFailureExempt failed.messageType = true) :
      Reported format destination failed diagnostics [] diagnostics
  | told {frame : Pending} {notice : FailedMessage}
      (told : MessageType.isFailureExempt failed.messageType = false)
      (tells : frame.Tells format notice) (addressed : notice.destination = destination)
      (about : notice.failed = failed) :
      Reported format destination failed diagnostics [frame]
        (diagnostics.count MessageType.failedMessage)

theorem notifyFailure_reported (broker : Broker) (destination : ModuleId) (failed : Header) :
    ∃ notices diagnostics,
      Reported broker.config.format destination failed broker.diagnostics notices diagnostics ∧
        broker.notifyFailure destination failed =
          { broker with diagnostics, outbox := broker.outbox ++ notices } := by
  unfold notifyFailure
  split
  · next exempt =>
    refine ⟨[], broker.diagnostics, .exempt exempt, ?_⟩
    rw [List.append_nil]
  · next told =>
    dsimp only
    rcases publishPayload_tells { broker with
        diagnostics := broker.diagnostics.count MessageType.failedMessage }
      ({ destination
         reserved := Vector.replicate _ 0
         failureTime := broker.clock.seconds
         failed } : FailedMessage) with ⟨frame, tells, published⟩
    exact ⟨[frame], _, .told (Bool.eq_false_of_not_eq_true told) tells rfl rfl, published⟩

/-- What is left when a connection has broken off. -/
theorem lose_eq (found : broker.modules.get? handle = some module)
    (registered : module.isRegistered = true) (cause : String) :
    ∃ line closed : Pending,
      line.Tells broker.config.format (ManagerLog.ofLine .error broker.clock.seconds
        s!"Connection lost for {module.label}: {cause}") ∧
      closed.Tells broker.config.format (ClientClosed.ofModule broker.clock.seconds module) ∧
      broker.lose handle cause =
        { broker with
          modules := broker.modules.remove handle
          subscriptions := broker.subscriptions.remove handle
          closings := broker.closings ++ [(handle, .abrupt)]
          outbox := broker.outbox ++ [line, closed] } := by
  rcases publishPayload_tells { broker with
      modules := broker.modules.remove handle
      subscriptions := broker.subscriptions.remove handle
      closings := broker.closings ++ [(handle, Farewell.abrupt)] }
    (ManagerLog.ofLine .error broker.clock.seconds
      s!"Connection lost for {module.label}: {cause}") with ⟨line, tellsLine, logged⟩
  rcases publishPayload_tells { broker with
      modules := broker.modules.remove handle
      subscriptions := broker.subscriptions.remove handle
      closings := broker.closings ++ [(handle, Farewell.abrupt)]
      outbox := broker.outbox ++ [line] }
    (ClientClosed.ofModule broker.clock.seconds module) with ⟨closed, tellsClosed, announced⟩
  refine ⟨line, closed, tellsLine, tellsClosed, ?_⟩
  unfold lose remove forget
  rw [found]
  simp only [registered, if_true, Departure.announcement?, Departure.farewell, publishLog]
  rw [logged, announced, List.append_assoc]
  rfl

end Broker

/-! ## One module -/

namespace Bus

variable {behaviour : Behaviour σ} {config : Config} {bus after : Bus σ} {handle : Handle}
  {module : Module} {pending : Pending} {outbox : List Pending} {outcome : Outcome}

/-- What becomes of a frame at a module whose queue has answered, with everything that
changes by it. -/
inductive Accounted (pending : Pending) (module : Module) (bus : Bus σ) (queues : σ) :
    Outcome -> Bus σ -> Prop where
  /-- The frame is in the queue. -/
  | taken :
      Accounted pending module bus queues .delivered
        { bus with
          queues
          contents := Function.update bus.contents module.handle
            (bus.contents module.handle ++ [pending.outbound]) }
  /-- The frame is lost, which is counted. -/
  | dropped {notices : List Pending} {diagnostics : Diagnostics}
      (ordinary : module.isLogger = false)
      (reported : Broker.Reported bus.broker.config.format module.id pending.header
        bus.broker.diagnostics notices diagnostics) :
      Accounted pending module bus queues .full
        { bus with
          queues
          broker := { bus.broker with
            modules := bus.broker.modules.modify module.handle fun module =>
              { module with dropCount := module.dropCount + 1 }
            diagnostics
            outbox := bus.broker.outbox ++ notices } }
  /-- The module is gone, from the table and from every list. -/
  | removed {outcome : Outcome} {cause : String} {line closed : Pending}
      {notices : List Pending} {diagnostics : Diagnostics} {broker : Broker}
      (final : outcome = .closed ∨ outcome = .timedOut)
      (tellsLine : line.Tells bus.broker.config.format
        (ManagerLog.ofLine .error bus.broker.clock.seconds
          s!"Connection lost for {module.label}: {cause}"))
      (tellsClosed : closed.Tells bus.broker.config.format
        (ClientClosed.ofModule bus.broker.clock.seconds module))
      (reported : Broker.Reported bus.broker.config.format module.id pending.header
        bus.broker.diagnostics notices diagnostics)
      (left : broker = { bus.broker with
        modules := bus.broker.modules.remove module.handle
        subscriptions := bus.broker.subscriptions.remove module.handle
        closings := bus.broker.closings ++ [(module.handle, .abrupt)]
        diagnostics
        outbox := bus.broker.outbox ++ [line, closed] ++ notices })
      (forgotten : broker.Forgot module.handle) :
      Accounted pending module bus queues outcome { bus with queues, broker }

theorem accounted_fail (sound : bus.broker.Sound config)
    (found : bus.broker.modules.get? handle = some module)
    (registered : module.isRegistered = true) (pending : Pending) (queues : σ) (cause : String)
    (final : outcome = .closed ∨ outcome = .timedOut) :
    Accounted pending module bus queues outcome
      { bus with queues, broker := bus.broker.fail handle pending.header cause } := by
  rcases Broker.lose_eq found registered cause with ⟨line, closed, tellsLine, tellsClosed, lost⟩
  rcases Broker.notifyFailure_reported (bus.broker.lose handle cause) module.id pending.header with
    ⟨notices, diagnostics, reported, notified⟩
  have failed : bus.broker.fail handle pending.header cause =
      (bus.broker.lose handle cause).notifyFailure module.id pending.header := by
    unfold Broker.fail
    rw [found]
  have soundAfter := (Broker.edits_fail handle pending.header cause).sound sound
  have gone : (bus.broker.fail handle pending.header cause).modules.get? handle = none := by
    rw [Broker.modules_fail found]
    exact ModuleTable.get?_remove_self
  cases ModuleTable.handle_of_get? found
  rw [notified, lost] at failed
  rw [lost] at reported
  exact .removed final tellsLine tellsClosed reported failed (soundAfter.forgot gone)

theorem accounted_drop (found : bus.broker.modules.get? handle = some module)
    (ordinary : module.isLogger = false) (pending : Pending) (queues : σ) :
    Accounted pending module bus queues .full
      { bus with queues, broker := bus.broker.drop handle pending.header } := by
  unfold Broker.drop
  rw [found]
  dsimp only
  rcases Broker.notifyFailure_reported { bus.broker with
      modules := bus.broker.modules.modify handle fun module =>
        { module with dropCount := module.dropCount + 1 } } module.id pending.header with
    ⟨notices, diagnostics, reported, notified⟩
  rw [notified]
  cases ModuleTable.handle_of_get? found
  exact .dropped ordinary reported

/-- Every answer of a queue has one of the three consequences. -/
theorem accounted_settle (sound : bus.broker.Sound config)
    (found : bus.broker.modules.get? handle = some module)
    (registered : module.isRegistered = true) (pending : Pending) (queues : σ)
    (ordinary : outcome = .full -> module.isLogger = false) :
    Accounted pending module bus queues outcome
      { bus with
        queues
        broker := bus.broker.settle handle pending.header outcome
        contents := bus.contents.note handle pending.outbound outcome } := by
  cases outcome with
  | delivered =>
      cases ModuleTable.handle_of_get? found
      exact .taken
  | full => exact accounted_drop found (ordinary rfl) pending queues
  | closed => exact accounted_fail sound found registered pending queues _ (Or.inl rfl)
  | timedOut => exact accounted_fail sound found registered pending queues _ (Or.inr rfl)

/-! ## All modules, one after the other -/

/-- A frame on its way past its modules.  Everybody is there when its turn comes, and
what becomes of the frame there is what its queue answers. -/
inductive Passage (behaviour : Behaviour σ) (pending : Pending) :
    List (Handle × Outcome) -> Bus σ -> Bus σ -> Prop where
  | done (bus : Bus σ) : Passage behaviour pending [] bus bus
  | attempted {handle : Handle} {module : Module} {outcome : Outcome} {queues : σ}
      {attempts : List (Handle × Outcome)} {bus next last : Bus σ}
      (found : bus.broker.modules.get? handle = some module)
      (registered : module.isRegistered = true)
      (answered : behaviour.answer bus.queues module pending.outbound = (outcome, queues))
      (accounted : Accounted pending module bus queues outcome next)
      (later : Passage behaviour pending attempts next last) :
      Passage behaviour pending ((handle, outcome) :: attempts) bus last

theorem passage_of_course {handles : List Handle} {state : σ × Contents} {broker : Broker}
    {swept : Broker.Swept (σ × Contents)} (history : List Moment)
    (course : Broker.Course behaviour.noting pending handles state broker swept)
    (sound : broker.Sound config) :
    Passage behaviour pending swept.attempts ⟨broker, state.1, state.2, history⟩
      ⟨swept.broker, swept.queues.1, swept.queues.2, history⟩ := by
  induction course with
  | done state broker => exact .done _
  | @offered handle _ state next broker module outcome _ found registered answered _ _ ih =>
      rcases Behaviour.answer_of_noting answered with ⟨own, noted⟩
      have ordinary : outcome = .full -> module.isLogger = false := fun full =>
        behaviour.full_ordinary state.1 module pending.outbound (by rw [own, full])
      have soundNext :=
        (Broker.edits_settle found registered pending.header ordinary).sound sound
      have accounted : Accounted pending module ⟨broker, state.1, state.2, history⟩ next.1
          outcome _ := accounted_settle sound found registered pending next.1 ordinary
      cases ModuleTable.handle_of_get? found
      rw [← noted] at accounted
      exact .attempted found registered own accounted (ih soundNext)

theorem passage_deliver (behaviour : Behaviour σ) (sound : bus.broker.Sound config)
    (next : bus.broker.outbox = pending :: outbox) :
    Passage behaviour pending (bus.handOut behaviour pending outbox).attempts
      { bus with broker.outbox := outbox }
      { bus.deliver behaviour with history := bus.history } := by
  rw [deliver_of_cons behaviour next]
  exact passage_of_course bus.history (course_handOut behaviour sound pending outbox)
    (sound.popped next)

end Bus

/-! ## All reports of a run -/

/-- The headers of the frames that modules did not get in one delivery, as far as that
is reported, in the order of the attempts. -/
def Delivery.losses (delivery : Delivery) : List Header :=
  if MessageType.isFailureExempt delivery.pending.header.messageType then []
  else (delivery.attempts.filter (·.2 ≠ .delivered)).map fun _ => delivery.pending.header

theorem Delivery.losses_cons (pending : Pending) (attempt : Handle × Outcome)
    (attempts : List (Handle × Outcome)) :
    losses ⟨pending, attempt :: attempts⟩ =
      losses ⟨pending, [attempt]⟩ ++ losses ⟨pending, attempts⟩ := by
  unfold losses
  split
  · rfl
  · rw [← List.map_append, ← List.filter_append]
    rfl

theorem Delivery.losses_of_delivered (pending : Pending) (handle : Handle) :
    losses ⟨pending, [(handle, .delivered)]⟩ = [] := by
  unfold losses
  split
  · rfl
  · rfl

theorem Delivery.losses_of_missed (pending : Pending) (handle : Handle) {outcome : Outcome}
    (missed : outcome ≠ .delivered) :
    losses ⟨pending, [(handle, outcome)]⟩ =
      if MessageType.isFailureExempt pending.header.messageType then []
      else [pending.header] := by
  simp [losses, missed]

/-- A frame from which everybody can read that a frame with a header was lost. -/
def Pending.IsReportOf (format : Format) (pending : Pending) (failed : Header) : Prop :=
  ∃ notice : FailedMessage, pending.Tells format notice ∧ notice.failed = failed

namespace History

/-- The frames by which the broker reports failures. -/
def reports (frames : List Pending) : List Pending :=
  written MessageType.failedMessage frames

theorem reports_append (first second : List Pending) :
    reports (first ++ second) = reports first ++ reports second :=
  written_append ..

/-- What was lost in a run, as far as that is reported. -/
def losses (history : List Moment) : List Header :=
  history.flatMap fun
    | .delivered delivery => delivery.losses
    | .met _ _ => []

theorem losses_append (first second : List Moment) :
    losses (first ++ second) = losses first ++ losses second :=
  List.flatMap_append

end History

open History

namespace Broker

variable {broker before after : Broker} {excluded : List MessageType} {format : Format}
  {destination : ModuleId} {failed : Header} {diagnostics counted : Diagnostics}
  {notices : List Pending}

/-- Nothing that happens to the broker from outside makes it report a failure. -/
theorem reports_meet (broker : Broker) (occasion : Occasion) :
    reports (broker.meet occasion).outbox = reports broker.outbox :=
  ((edits_meet broker occasion).written_eq List.mem_cons_self).trans (written_passOn ..)

/-- Frames that tell something of one type are all of this type. -/
theorem written_of_tells [Payload α] {frames : List Pending} {payloads : List α}
    (tells : List.Forall₂ (Pending.Tells format) frames payloads) :
    written (Payload.messageType α) frames = frames := by
  apply List.filter_eq_self.mpr
  intro pending here
  rcases List.forall₂_iff_get.mp tells with ⟨sameLength, told⟩
  rcases List.mem_iff_get.mp here with ⟨index, rfl⟩
  have tell := told index.1 index.2 (sameLength ▸ index.2)
  exact decide_eq_true ⟨tell.originated, tell.messageType⟩

theorem reports_of_other [Payload α] {frame : Pending} {payload : α}
    (tells : frame.Tells format payload)
    (other : Payload.messageType α ≠ MessageType.failedMessage) : reports [frame] = [] := by
  apply written_eq_nil
  intro pending here _
  rw [List.mem_singleton.mp here, tells.messageType]
  exact other

/-- That a connection broke off is no report about a failure. -/
theorem reports_of_loss {line closed : Pending} {log : ManagerLog} {notice : ClientClosed}
    (tellsLine : line.Tells format log) (tellsClosed : closed.Tells format notice) :
    reports [line, closed] = [] := by
  rw [← List.singleton_append, reports_append, reports_of_other tellsLine (by decide),
    reports_of_other tellsClosed (by decide)]
  rfl

theorem Reported.forall₂ (reported : Reported format destination failed diagnostics notices counted) :
    List.Forall₂ (Pending.IsReportOf format) (reports notices)
      (if MessageType.isFailureExempt failed.messageType then [] else [failed]) := by
  cases reported with
  | exempt exempt =>
      rw [if_pos exempt]
      exact .nil
  | @told frame notice told tells addressed about =>
      have isReport : reports [frame] = [frame] := written_of_tells (.cons tells .nil)
      rw [if_neg (Bool.eq_false_iff.mp told), isReport]
      exact .cons ⟨notice, tells, about⟩ .nil

end Broker

namespace Bus

variable {behaviour : Behaviour σ} {config : Config} {bus next last : Bus σ} {handle : Handle}
  {module : Module} {pending : Pending} {outbox : List Pending} {outcome : Outcome}
  {queues : σ} {attempts : List (Handle × Outcome)}

/-- What one bus has added to the outbox of another, and that it reports some losses. -/
def Reports (losses : List Header) (bus next : Bus σ) : Prop :=
  next.broker.config = bus.broker.config ∧
    ∃ added, next.broker.outbox = bus.broker.outbox ++ added ∧
      List.Forall₂ (Pending.IsReportOf bus.broker.config.format) (History.reports added) losses

theorem Accounted.reports (accounted : Accounted pending module bus queues outcome next)
    (handle : Handle) : Reports (Delivery.losses ⟨pending, [(handle, outcome)]⟩) bus next := by
  cases accounted with
  | taken =>
      refine ⟨rfl, [], (List.append_nil _).symm, ?_⟩
      rw [Delivery.losses_of_delivered]
      exact .nil
  | @dropped notices diagnostics ordinary reported =>
      refine ⟨rfl, notices, rfl, ?_⟩
      rw [Delivery.losses_of_missed pending handle (by decide)]
      exact reported.forall₂
  | @removed outcome cause line closed notices diagnostics broker final tellsLine tellsClosed
      reported left forgotten =>
      subst left
      refine ⟨rfl, [line, closed] ++ notices, List.append_assoc .., ?_⟩
      have missed : outcome ≠ .delivered := by
        rcases final with rfl | rfl <;> decide
      rw [Delivery.losses_of_missed pending handle missed, reports_append,
        Broker.reports_of_loss tellsLine tellsClosed]
      exact reported.forall₂

theorem Passage.reports (passage : Passage behaviour pending attempts bus last) :
    Reports (Delivery.losses ⟨pending, attempts⟩) bus last := by
  induction passage with
  | done bus =>
      refine ⟨rfl, [], (List.append_nil _).symm, ?_⟩
      have nothing : Delivery.losses ⟨pending, []⟩ = [] := by
        unfold Delivery.losses
        split <;> rfl
      rw [nothing]
      exact .nil
  | @attempted handle module outcome queues attempts bus next last found registered answered
      accounted later ih =>
      rcases accounted.reports handle with ⟨sameConfig, early, outboxNext, reportsEarly⟩
      rcases ih with ⟨sameConfigLast, late, outboxLast, reportsLate⟩
      refine ⟨sameConfigLast.trans sameConfig, early ++ late, ?_, ?_⟩
      · rw [outboxLast, outboxNext, List.append_assoc]
      · rw [Delivery.losses_cons, reports_append]
        rw [sameConfig] at reportsLate
        exact List.rel_append reportsEarly reportsLate

/-- All reports of the run so far, delivered or not, are about what was lost in it. -/
def IsAccounted (config : Config) (bus : Bus σ) : Prop :=
  List.Forall₂ (Pending.IsReportOf config.format)
    (reports (taken bus.history ++ bus.broker.outbox)) (losses bus.history)

theorem isAccounted_deliver (sound : bus.broker.Sound config) (before : bus.IsAccounted config) :
    (bus.deliver behaviour).IsAccounted config := by
  cases next : bus.broker.outbox with
  | nil => rwa [deliver_of_nil behaviour next]
  | cons pending outbox =>
      have passage := passage_deliver behaviour sound next
      rcases passage.reports with ⟨_, added, outboxAfter, reported⟩
      have history : (bus.deliver behaviour).history = bus.history ++
          [.delivered ⟨pending, (bus.handOut behaviour pending outbox).attempts⟩] := by
        rw [deliver_of_cons behaviour next]
      have outboxDelivered : (bus.deliver behaviour).broker.outbox = outbox ++ added := outboxAfter
      have old : taken bus.history ++ bus.broker.outbox =
          taken (bus.deliver behaviour).history ++ outbox := by
        rw [next, history, taken_append, List.append_assoc]
        rfl
      have lost : losses (bus.deliver behaviour).history = losses bus.history ++
          Delivery.losses ⟨pending, (bus.handOut behaviour pending outbox).attempts⟩ := by
        rw [history, losses_append]
        exact congrArg (losses bus.history ++ ·) (List.append_nil _)
      show List.Forall₂ _ (reports (_ ++ (bus.deliver behaviour).broker.outbox)) _
      rw [outboxDelivered, ← List.append_assoc, ← old, reports_append, lost]
      exact List.rel_append before (sound.config_eq ▸ reported)

theorem Reachable.isAccounted (reachable : bus.Reachable behaviour config) :
    bus.IsAccounted config := by
  induction reachable with
  | start started queues =>
      rcases Broker.start_eq started with ⟨_, rfl⟩
      exact .nil
  | @step bus reachable move ih =>
      cases move with
      | occasion occasion =>
          have untaken : taken (bus.history ++ [.met bus.broker occasion]) = taken bus.history :=
            (taken_append ..).trans (List.append_nil _)
          have unlost : losses (bus.history ++ [.met bus.broker occasion]) = losses bus.history :=
            (losses_append ..).trans (List.append_nil _)
          show List.Forall₂ _ (reports (taken (bus.history ++ [.met bus.broker occasion]) ++
            (bus.broker.meet occasion).outbox)) (losses (bus.history ++ [.met bus.broker occasion]))
          rw [untaken, unlost, reports_append, Broker.reports_meet, ← reports_append]
          exact ih
      | readers queues => exact ih
      | deliver => exact isAccounted_deliver reachable.sound ih

/-- Emptying the outbox takes every frame past all its modules, each of them there when
its turn comes, and accounts for it at each of them; and the reports about failures are
those that follow from this, one for each loss, and no others.  The last clause says
what the answers mean that the queues of the running manager give. -/
theorem Reachable.failures_accounted (reachable : bus.Reachable behaviour config) :
    (∃ count, bus.flush behaviour = bus.run behaviour (List.replicate count .deliver) ∧
      (bus.flush behaviour).broker.outbox = []) ∧
      (∀ count pending outbox,
        let before := bus.run behaviour (List.replicate count .deliver)
        let after := before.deliver behaviour
        before.broker.outbox = pending :: outbox ->
          ∃ attempts, after.history = before.history ++ [.delivered ⟨pending, attempts⟩] ∧
            attempts.map Prod.fst = before.broker.targets pending.header pending.route ∧
            Passage behaviour pending attempts { before with broker.outbox := outbox }
              { after with history := before.history }) ∧
      (∀ occasion, reports (bus.broker.meet occasion).outbox = reports bus.broker.outbox) ∧
      List.Forall₂ (Pending.IsReportOf config.format)
        (reports (taken bus.history ++ bus.broker.outbox)) (losses bus.history) ∧
      ∀ settings queues module outbound outcome next,
        Service.Queues.offer settings queues module outbound = some (outcome, next) ->
          Service.Queues.Answers settings queues module outbound outcome next.connections := by
  refine ⟨?_, ?_, Broker.reports_meet bus.broker, reachable.isAccounted, ?_⟩
  · rcases flush_eq_run behaviour bus with ⟨empty, count, same⟩
    exact ⟨count, same, empty⟩
  · intro count pending outbox before after next
    have sound : before.broker.Sound config := (reachable.run _).sound
    have history : after.history = before.history ++
        [.delivered ⟨pending, (before.handOut behaviour pending outbox).attempts⟩] :=
      congrArg Bus.history (deliver_of_cons behaviour next)
    exact ⟨_, history, (course_handOut behaviour sound pending outbox).attempts_eq,
      passage_deliver behaviour sound next⟩
  · intro settings queues module outbound outcome next offered
    exact Service.Queues.answers_of_offer offered

/-- A logger and a module with room for one frame each, where more than that is said. -/
def crowded : Bus (Handle -> Nat) :=
  (vacant 1).run QueueRule.bounded.each (joining 1 0 true ++ joining 2 7 false ++
    [.occasion (.event (.message 2
      { header := { messageType := MessageType.subscribe, sourceModule := 7, dataBytes := 4 }
        timecode := none
        payload := [0xD2, 4, 0, 0] }))])

/-- The second frame finds the logger without room, and the logger goes; a later one
finds the module without room. -/
theorem failures_accounted_of_crowded :
    let before := crowded.run QueueRule.bounded.each [.deliver]
    let after := before.deliver QueueRule.bounded.each
    let flushed := crowded.run QueueRule.bounded.each (List.replicate 9 .deliver)
    (∃ pending outbox attempts, before.broker.outbox = pending :: outbox ∧
      pending.header.messageType = MessageType.clientInfo ∧
      attempts.map Prod.fst = [1] ∧
      after.broker.modules.contains 1 = false ∧
      Passage QueueRule.bounded.each pending attempts { before with broker.outbox := outbox }
        { after with history := before.history }) ∧
      flushed.broker.outbox = [] ∧
      (losses flushed.history).map Header.messageType =
        [MessageType.clientInfo, MessageType.acknowledge] ∧
      List.Forall₂ (Pending.IsReportOf (Config.format {}))
        (reports (taken flushed.history)) (losses flushed.history) := by
  intro before after flushed
  have reachable : crowded.Reachable QueueRule.bounded.each {} := (vacant_reachable 1).run _
  have reachableAfter : flushed.Reachable QueueRule.bounded.each {} := reachable.run _
  have empty : flushed.broker.outbox = [] := by decide +kernel
  have lost : (losses flushed.history).map Header.messageType =
      [MessageType.clientInfo, MessageType.acknowledge] := by
    decide +kernel
  rcases reachableAfter.failures_accounted with ⟨_, _, _, told, _⟩
  rw [empty, List.append_nil] at told
  refine ⟨?_, empty, lost, told⟩
  have informs : before.broker.outbox.head?.map (·.header.messageType) =
      some MessageType.clientInfo := by
    decide +kernel
  have targeted : before.broker.outbox.head?.map
      (fun pending => before.broker.targets pending.header pending.route) = some [1] := by
    decide +kernel
  have gone : after.broker.modules.contains 1 = false := by decide +kernel
  cases next : before.broker.outbox with
  | nil =>
      rw [next] at informs
      cases informs
  | cons pending outbox =>
      rw [next] at informs targeted
      rcases reachable.failures_accounted with ⟨_, accounted, _⟩
      rcases accounted 1 pending outbox next with ⟨attempts, _, targets, passage⟩
      exact ⟨pending, outbox, attempts, rfl, Option.some.inj informs,
        targets.trans (Option.some.inj targeted), gone, passage⟩

end Bus

end MessageBus
