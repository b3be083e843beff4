import MessageBus.Proofs.Admission
import MessageBus.Proofs.Subscriptions
import MessageBus.Broker.Batch

namespace MessageBus

open Wire

/-!
# What a broker can do to itself

Whatever makes a broker react, it reacts in a few small ways: it puts a frame
into the outbox, it takes in or forgets a connection, it lets one in, it changes
a record or a subscription.  `Broker.Edit` lists these ways together with the
circumstances under which the broker uses them, and the theorems of this module
take every reaction apart into edits, once.  An invariant then has to be looked
at edit by edit, and no longer message by message.

Passing a message on is not among them.  It is the one thing that puts a frame
into the outbox which the broker has not written, so it is kept apart:
`accepted?` says for which messages it happens, without saying how the broker
finds out, and every reaction to a message is shown to be this and edits.

The circumstances are part of an edit because they are what keeps the invariants
up.  A record is changed only if its module is registered, and it keeps what
`Module.Keeps` names; a name that a module wants for itself is given to it only
if it is free; and a report about a failure is about a message whose failure is
reported.

An edit is also known by what it does not say.  `excluded` is a list of types of
which it posts no message of the broker's own, so that one can tell, without
going through the reactions again, which of them answer a request and that none
of them reports a failure.
-/

/-- A report about a failure is not about a report, nor about a line of the log. -/
def Message.IsHonest (message : Message) : Prop :=
  message.messageType = MessageType.failedMessage ->
    ∃ notice : FailedMessage, message.payload = Payload.encode notice ∧
      MessageType.isFailureExempt notice.failed.messageType = false

theorem MessageType.isFailureExempt_eq_false (messageType : MessageType) :
    isFailureExempt messageType = false ↔
      messageType ≠ failedMessage ∧ messageType ≠ managerLog := by
  unfold isFailureExempt
  rw [Bool.or_eq_false_iff, beq_eq_false_iff_ne, beq_eq_false_iff_ne]

namespace Request

theorem bind_ne_other (checked : Except ProtocolError α) {request : α -> Request}
    (understood : ∀ payload, request payload ≠ .other) :
    (do let payload ← checked; return request payload) ≠ .ok .other := by
  cases checked with
  | error error => intro same; cases same
  | ok payload =>
      intro same
      exact understood payload (Except.ok.inj same)

/-- A payload is understood as what is made of it, as soon as it can be read. -/
def ReadsAs [Payload α] (finish : α -> Except ProtocolError Request) : Prop :=
  ∀ (schemas : Schemas) (message : Message), message.messageType = Payload.messageType α ->
    classify schemas message = checkedPayload α schemas message >>= finish

theorem readsAs_subscribe :
    ReadsAs fun payload : Subscribe => .ok (.subscribe payload.messageType) := by
  intro schemas message kind
  unfold classify
  rw [kind]
  rfl

theorem readsAs_unsubscribe :
    ReadsAs fun payload : Unsubscribe => .ok (.unsubscribe payload.messageType) := by
  intro schemas message kind
  unfold classify
  rw [kind]
  rfl

theorem readsAs_pause :
    ReadsAs fun payload : PauseSubscription => .ok (.pause payload.messageType) := by
  intro schemas message kind
  unfold classify
  rw [kind]
  rfl

theorem readsAs_resume :
    ReadsAs fun payload : ResumeSubscription => .ok (.resume payload.messageType) := by
  intro schemas message kind
  unfold classify
  rw [kind]
  rfl

theorem readsAs_moduleReady :
    ReadsAs fun payload : ModuleReady => .ok (.moduleReady payload.pid) := by
  intro schemas message kind
  unfold classify
  rw [kind]
  rfl

/-- A name must not be empty. -/
theorem readsAs_setName :
    ReadsAs fun payload : ClientSetName =>
      if payload.name.text.isEmpty then .error (.invalidName "empty name")
      else .ok (.setName payload.name.text) := by
  intro schemas message kind
  unfold classify
  rw [kind]
  rfl

/-- Only what asks nothing of the manager is understood as something else. -/
theorem classify_eq_other_iff (schemas : Schemas) (message : Message) :
    classify schemas message = .ok .other ↔ isControl message.messageType = false := by
  have control : ∀ {messageType answer}, message.messageType = messageType ->
      isControl messageType = true -> answer ≠ .ok .other ->
      (answer = (.ok .other : Except ProtocolError Request) ↔
        isControl message.messageType = false) := by
    intro messageType answer same isControl different
    rw [same, isControl]
    exact iff_of_false different (by simp)
  unfold classify
  dsimp only
  split
  · next same =>
    apply control same (by decide)
    split
    · simp
    · exact bind_ne_other _ fun _ => by simp
  split
  · next same => exact control same (by decide) (by simp)
  split
  · next same => exact control same (by decide) (bind_ne_other _ fun _ => by simp)
  split
  · next same => exact control same (by decide) (bind_ne_other _ fun _ => by simp)
  split
  · next same => exact control same (by decide) (bind_ne_other _ fun _ => by simp)
  split
  · next same => exact control same (by decide) (bind_ne_other _ fun _ => by simp)
  split
  · next same => exact control same (by decide) (bind_ne_other _ fun _ => by simp)
  split
  · next same =>
    apply control same (by decide)
    cases checkedPayload ClientSetName schemas message with
    | error error => intro same; cases same
    | ok payload =>
        dsimp only [bind, Except.bind]
        split
        · simp
        · intro same; cases same
  · simp_all [isControl]

end Request

/-- The types in which the broker speaks about one message that a module has sent or
was to get: the answer to a request, and the report about a failure. -/
def MessageType.responses : List MessageType :=
  [acknowledge, failedMessage]

namespace Broker

inductive Edit (excluded : List MessageType) (before : Broker) : Broker -> Prop where
  /-- What nobody's place on the bus depends on. -/
  | aside (clock : ClockReading) (diagnostics : Diagnostics)
      (closings : List (Handle × Farewell)) :
      Edit excluded before { before with clock, diagnostics, closings }
  | posted (message : Message) (route : Route) (honest : message.IsHonest)
      (unexcluded : message.messageType ∉ excluded) :
      Edit excluded before (before.publish message route)
  | attached (peer : SocketAddress) : Edit excluded before (before.attach peer).2
  | removed (handle : Handle) : Edit excluded before (before.forget handle)
  /-- The pool was asked, and nobody was let in. -/
  | refused {handle : Handle} {request : ConnectRequest} {cause : Rejection}
      {identities : IdentityPool}
      (chosen : before.modules.chooseId before.identities handle request
        before.config.identity.dynamicStart = (.error cause, identities)) :
      Edit excluded before { before with identities }
  | admitted {handle : Handle} {module : Module} {request : ConnectRequest} {id : ModuleId}
      {identities : IdentityPool} (found : before.modules.get? handle = some module)
      (unregistered : module.isRegistered = false)
      (granted : before.modules.chooseId before.identities handle request
        before.config.identity.dynamicStart = (.ok id, identities)) :
      Edit excluded before { before with identities, modules := before.modules.enroll handle id request }
  | modified {handle : Handle} {module : Module} (change : Module -> Module)
      (found : before.modules.get? handle = some module)
      (registered : module.isRegistered = true)
      (keeps : ∀ module, Module.Keeps module (change module))
      (named : (change module).name = module.name ∨ (module.isUnique = true ->
        ∃ name, (change module).name = some name ∧
          before.modules.uniqueHolderOfName? name handle = none))
      (lossless : module.isLogger = true -> (change module).dropCount = module.dropCount) :
      Edit excluded before { before with modules := before.modules.modify handle change }
  | subscribed (handle : Handle) (messageType : MessageType)
      (registered : before.modules.isRegistered handle = true) :
      Edit excluded before { before with
        subscriptions := (before.subscriptions.subscribe handle messageType).2 }
  | unsubscribed (handle : Handle) (messageType : MessageType)
      (registered : before.modules.isRegistered handle = true) :
      Edit excluded before { before with
        subscriptions := (before.subscriptions.unsubscribe handle messageType).2 }

/-- Any number of edits. -/
abbrev Edits (excluded : List MessageType) : Broker -> Broker -> Prop :=
  Relation.ReflTransGen (Edit excluded)

variable {broker before after : Broker} {handle : Handle} {module : Module}
  {excluded fewer : List MessageType}

theorem Edit.mono (edit : Edit excluded before after)
    (subset : ∀ messageType ∈ fewer, messageType ∈ excluded) : Edit fewer before after := by
  cases edit with
  | aside clock diagnostics closings => exact .aside clock diagnostics closings
  | posted message route honest unexcluded =>
      exact .posted message route honest fun here => unexcluded (subset _ here)
  | attached peer => exact .attached peer
  | removed handle => exact .removed handle
  | refused chosen => exact .refused chosen
  | admitted found unregistered granted => exact .admitted found unregistered granted
  | modified change found registered keeps named lossless =>
      exact .modified change found registered keeps named lossless
  | subscribed handle messageType registered => exact .subscribed handle messageType registered
  | unsubscribed handle messageType registered =>
      exact .unsubscribed handle messageType registered

theorem Edits.mono (edits : Edits excluded before after)
    (subset : ∀ messageType ∈ fewer, messageType ∈ excluded) : Edits fewer before after := by
  induction edits with
  | refl => exact .refl
  | tail _ edit ih => exact ih.tail (edit.mono subset)

/-- What is no response at all is not the one or the other either. -/
theorem Edits.ofResponses {response : MessageType}
    (edits : Edits MessageType.responses before after)
    (listed : response ∈ MessageType.responses := by decide) : Edits [response] before after :=
  edits.mono fun _ only => List.mem_singleton.mp only ▸ listed

/-! ## Filling the outbox -/

theorem edits_publish (message : Message) (route : Route) (honest : message.IsHonest)
    (unexcluded : message.messageType ∉ excluded) :
    Edits excluded broker (broker.publish message route) :=
  .single (.posted message route honest unexcluded)

theorem edits_publishPayload [Payload α] (payload : α)
    (other : Payload.messageType α ∉ MessageType.responses) :
    Edits MessageType.responses broker (broker.publishPayload payload) := by
  refine edits_publish _ _ (fun same => absurd ?_ other) other
  have isFailure : Payload.messageType α = MessageType.failedMessage := same
  rw [isFailure]
  decide

theorem edits_publishPayloads [Payload α] (payloads : List α)
    (other : Payload.messageType α ∉ MessageType.responses) :
    Edits MessageType.responses broker (broker.publishPayloads payloads) := by
  induction payloads generalizing broker with
  | nil => exact .refl
  | cons payload rest ih => exact (edits_publishPayload payload other).trans ih

theorem edits_publishLog (level : LogLevel) (line : String) :
    Edits MessageType.responses broker (broker.publishLog level line) :=
  edits_publishPayload _ (by decide)

theorem edits_publishClientInfo (handle : Handle) :
    Edits MessageType.responses broker (broker.publishClientInfo handle) := by
  unfold publishClientInfo
  split
  · exact .refl
  · exact edits_publishPayload _ (by decide)

theorem edits_acknowledge (handle : Handle) :
    Edits [MessageType.failedMessage] broker (broker.acknowledge handle) := by
  have different : MessageType.acknowledge ≠ MessageType.failedMessage := by decide
  unfold acknowledge
  split
  · exact .refl
  · apply edits_publish
    · intro same
      exact absurd same different
    · intro excluded
      exact absurd (List.mem_singleton.mp excluded) different

theorem edits_notifyFailure (destination : ModuleId) (failed : Header) :
    Edits [MessageType.acknowledge] broker (broker.notifyFailure destination failed) := by
  unfold notifyFailure
  split
  · exact .refl
  · next reported =>
    have counted : Edit [MessageType.acknowledge] broker { broker with
        diagnostics := broker.diagnostics.count MessageType.failedMessage } :=
      .aside broker.clock (broker.diagnostics.count MessageType.failedMessage) broker.closings
    have different : MessageType.failedMessage ∉ [MessageType.acknowledge] := by decide
    exact (Relation.ReflTransGen.single counted).trans
      (edits_publish _ _ (fun _ => ⟨_, rfl, Bool.eq_false_iff.mpr reported⟩) different)

/-! ## Connections that come and go -/

theorem edits_remove (handle : Handle) (departure : Departure) :
    Edits MessageType.responses broker (broker.remove handle departure) := by
  have left : Edits MessageType.responses broker (broker.forget handle) :=
    .single (.removed handle)
  unfold remove
  split
  · exact left
  · next module _ =>
    have closed : Edits MessageType.responses broker
        { broker.forget handle with
          closings := broker.closings ++ [(handle, departure.farewell)] } :=
      left.tail (.aside broker.clock broker.diagnostics _)
    cases departure.announcement? module with
    | none =>
        dsimp only
        split
        · exact closed.trans (edits_publishPayload _ (by decide))
        · exact closed
    | some announcement =>
        have logged := closed.trans (edits_publishLog announcement.1 announcement.2)
        dsimp only
        split
        · exact logged.trans (edits_publishPayload _ (by decide))
        · exact logged

theorem connect_of_error {request : ConnectRequest} {cause : Rejection} {identities : IdentityPool}
    (chosen : broker.modules.chooseId broker.identities handle request
      broker.config.identity.dynamicStart = (.error cause, identities)) :
    broker.connect handle request = { broker with identities }.remove handle (.refused cause) := by
  unfold connect
  simp only [chosen]

theorem connect_of_ok {request : ConnectRequest} {id : ModuleId} {identities : IdentityPool}
    (chosen : broker.modules.chooseId broker.identities handle request
      broker.config.identity.dynamicStart = (.ok id, identities)) :
    broker.connect handle request =
      ({ broker with identities, modules := broker.modules.enroll handle id request }.acknowledge
        handle).publishClientInfo handle := by
  unfold connect
  simp only [chosen]
  rfl

theorem edits_connect (found : broker.modules.get? handle = some module)
    (unregistered : module.isRegistered = false) (request : ConnectRequest) :
    Edits [MessageType.failedMessage] broker (broker.connect handle request) := by
  rcases chosen : broker.modules.chooseId broker.identities handle request
    broker.config.identity.dynamicStart with ⟨rejection | id, identities⟩
  · rw [connect_of_error chosen]
    exact (Relation.ReflTransGen.single (.refused chosen)).trans
      (edits_remove handle _).ofResponses
  · rw [connect_of_ok chosen]
    exact ((Relation.ReflTransGen.single (.admitted found unregistered chosen)).trans
      (edits_acknowledge handle)).trans (edits_publishClientInfo handle).ofResponses

/-! ## Reacting to messages -/

theorem edits_reportMismatch (handle : Handle) (error : ProtocolError) :
    Edits MessageType.responses broker (broker.reportMismatch handle error) :=
  edits_publishLog _ _

theorem edits_rename (found : broker.modules.get? handle = some module)
    (registered : module.isRegistered = true) (name : String) :
    Edits [MessageType.failedMessage] broker (broker.rename handle name) := by
  unfold rename
  rw [found]
  dsimp only
  split
  · exact (edits_publishLog _ _).ofResponses
  · next granted =>
    have free : module.isUnique = true ->
        broker.modules.uniqueHolderOfName? name handle = none := by
      intro unique
      rw [unique, Bool.true_and] at granted
      exact Option.not_isSome_iff_eq_none.mp granted
    have renamed : Edit [MessageType.failedMessage] broker { broker with
        modules := broker.modules.modify handle fun module =>
          { module with name := some name } } :=
      .modified _ found registered (fun _ => ⟨rfl, rfl, rfl, rfl, rfl, rfl, rfl⟩)
        (Or.inr fun unique => ⟨name, rfl, free unique⟩) (fun _ => rfl)
    exact ((Relation.ReflTransGen.single renamed).trans (edits_acknowledge handle)).trans
      (edits_publishClientInfo handle).ofResponses

theorem edits_subscribe (registered : broker.modules.isRegistered handle = true)
    (messageType : MessageType) :
    Edits [MessageType.failedMessage] broker (broker.subscribe handle messageType) :=
  (Relation.ReflTransGen.single (.subscribed handle messageType registered)).trans
    (edits_acknowledge handle)

theorem edits_unsubscribe (registered : broker.modules.isRegistered handle = true)
    (messageType : MessageType) :
    Edits [MessageType.failedMessage] broker (broker.unsubscribe handle messageType) :=
  (Relation.ReflTransGen.single (.unsubscribed handle messageType registered)).trans
    (edits_acknowledge handle)

theorem edits_serve (registered : broker.modules.isRegistered handle = true) (message : Message)
    {request : Request} (understood : request ≠ .other) :
    Edits [MessageType.failedMessage] broker (broker.serve handle message request) := by
  rcases ModuleTable.isRegistered_iff.mp registered with ⟨module, found, isRegistered⟩
  cases request with
  | connect request => exact .refl
  | disconnect =>
      show Edits [MessageType.failedMessage] broker (broker.remove handle .disconnected)
      exact (edits_remove handle _).ofResponses
  | subscribe messageType => exact edits_subscribe registered messageType
  | unsubscribe messageType => exact edits_unsubscribe registered messageType
  | pause messageType => exact edits_unsubscribe registered messageType
  | resume messageType => exact edits_subscribe registered messageType
  | moduleReady pid =>
      exact .single (.modified _ found isRegistered
        (fun _ => ⟨rfl, rfl, rfl, rfl, rfl, rfl, rfl⟩) (Or.inl rfl) (fun _ => rfl))
  | setName name => exact edits_rename found isRegistered name
  | other => exact absurd rfl understood

theorem edits_greet (found : broker.modules.get? handle = some module)
    (unregistered : module.isRegistered = false) (request : Request) :
    Edits [MessageType.failedMessage] broker (broker.greet handle request) := by
  unfold greet
  split
  · exact edits_connect found unregistered _
  · exact (edits_remove handle _).ofResponses
  · exact .refl

/-! ## Passing messages on -/

/-- The frame of a message that is passed on: a registered module sends it, it
asks nothing of the manager, it agrees with the schemas, and somebody could be
meant by it. -/
def accepted? (broker : Broker) (handle : Handle) (message : Message) : Option Pending :=
  if broker.modules.isRegistered handle && !Request.isControl message.messageType &&
      (broker.schemas.validate message.header).isOk &&
      broker.isValidDestination message.header then
    some ⟨message.header,
      ⟨.forwarded, message.encode broker.config.format broker.clock.timecode⟩, .subscribers⟩
  else none

/-- The broker with one frame more to deliver, if there is one. -/
def passOn (broker : Broker) (accepted : Option Pending) : Broker :=
  { broker with outbox := broker.outbox ++ accepted.toList }

theorem passOn_none (broker : Broker) : broker.passOn none = broker := by
  unfold passOn
  rw [Option.toList_none, List.append_nil]

theorem serve_other (handle : Handle) (message : Message)
    (registered : broker.modules.isRegistered handle = true)
    (application : Request.isControl message.messageType = false) :
    Edits MessageType.responses (broker.passOn (broker.accepted? handle message))
      (broker.serve handle message .other) := by
  unfold accepted? serve
  rw [registered, application]
  cases broker.schemas.validate message.header with
  | error error =>
      rw [if_neg (by simp [Except.isOk, Except.toBool]), passOn_none]
      exact edits_reportMismatch handle _
  | ok _ =>
      unfold forward
      by_cases valid : broker.isValidDestination message.header = true
      · rw [if_pos (by simp [Except.isOk, Except.toBool, valid])]
        simp only [valid, if_true]
        exact .refl
      · rw [if_neg (by simp [valid]), passOn_none]
        simp only [valid]
        exact .refl

/-- Nothing is passed on of what a module asks of the manager. -/
theorem accepted?_of_control {message : Message}
    (control : ¬ Request.isControl message.messageType = false) :
    broker.accepted? handle message = none := by
  unfold accepted?
  rw [Bool.eq_true_of_not_eq_false control]
  simp

theorem accepted?_of_unregistered (message : Message)
    (unregistered : ¬ broker.modules.isRegistered handle = true) :
    broker.accepted? handle message = none := by
  unfold accepted?
  rw [Bool.eq_false_of_not_eq_true unregistered]
  simp

theorem edits_dispatch (present : broker.modules.contains handle = true) (message : Message) :
    Edits [MessageType.failedMessage] (broker.passOn (broker.accepted? handle message))
      (broker.dispatch handle message) := by
  rcases ModuleTable.contains_iff.mp present with ⟨module, found⟩
  have other := Request.classify_eq_other_iff broker.schemas message
  unfold dispatch
  cases understood : Request.classify broker.schemas message with
  | error error =>
      rw [understood] at other
      have control : ¬ Request.isControl message.messageType = false := by
        intro application
        cases other.mpr application
      rw [accepted?_of_control control, passOn_none]
      exact (edits_reportMismatch handle _).ofResponses
  | ok request =>
      rw [understood] at other
      dsimp only
      by_cases registered : broker.modules.isRegistered handle = true
      · rw [if_pos registered]
        by_cases application : Request.isControl message.messageType = false
        · rw [Except.ok.inj (other.mpr application)]
          exact (serve_other handle message registered application).ofResponses
        · rw [accepted?_of_control application, passOn_none]
          exact edits_serve registered message fun same =>
            application (other.mp (congrArg Except.ok same))
      · rw [if_neg registered, accepted?_of_unregistered message registered, passOn_none]
        have blank : module.isRegistered = false := by
          apply Bool.eq_false_iff.mpr
          intro isRegistered
          exact registered (ModuleTable.isRegistered_iff.mpr ⟨module, found, isRegistered⟩)
        exact edits_greet found blank _

theorem edits_receive (handle : Handle) (message : Message) :
    Edits [MessageType.failedMessage] (broker.passOn (broker.accepted? handle message))
      (broker.receive handle message) := by
  unfold receive
  split
  · next present =>
    have counted : Edit [MessageType.failedMessage]
        (broker.passOn (broker.accepted? handle message))
        ({ broker with diagnostics :=
            broker.diagnostics.count message.messageType }.passOn
          (broker.accepted? handle message)) :=
      .aside broker.clock (broker.diagnostics.count message.messageType) broker.closings
    have still : { broker with
        diagnostics := broker.diagnostics.count message.messageType }.modules.contains handle =
          true := present
    exact (Relation.ReflTransGen.single counted).trans (edits_dispatch still message)
  · next absent =>
    have unregistered : ¬ broker.modules.isRegistered handle = true := by
      intro registered
      rcases ModuleTable.isRegistered_iff.mp registered with ⟨module, found, _⟩
      exact absent (ModuleTable.contains_iff.mpr ⟨module, found⟩)
    rw [accepted?_of_unregistered message unregistered, passOn_none]

/-! ## Periodic reports -/

theorem publishPayloads_eq [Payload α] (broker : Broker) (payloads : List α) :
    ∃ outbox, broker.publishPayloads payloads = { broker with outbox } := by
  induction payloads generalizing broker with
  | nil => exact ⟨broker.outbox, rfl⟩
  | cons payload rest ih => exact ih (broker.publishPayload payload)

/-- Reports are taken from the tallies and put into the outbox, and change nothing else. -/
theorem report_eq (broker : Broker) (now : Milliseconds) :
    ∃ diagnostics outbox, broker.report now = { broker with diagnostics, outbox } := by
  have timing : ∀ broker : Broker, ∃ diagnostics outbox,
      broker.reportTiming now = { broker with diagnostics, outbox } := by
    intro broker
    unfold reportTiming
    dsimp only
    split
    · split
      · exact ⟨_, _, rfl⟩
      · exact ⟨_, broker.outbox, rfl⟩
    · exact ⟨broker.diagnostics, broker.outbox, rfl⟩
  have traffic : ∀ broker : Broker, ∃ diagnostics outbox,
      broker.reportTraffic now = { broker with diagnostics, outbox } := by
    intro broker
    unfold reportTraffic
    dsimp only
    split
    · split
      · exact ⟨_, broker.outbox, rfl⟩
      · exact ⟨_, publishPayloads_eq _ _⟩
    · exact ⟨broker.diagnostics, broker.outbox, rfl⟩
  have directory : ∀ broker : Broker, ∃ diagnostics outbox,
      broker.reportDirectory now = { broker with diagnostics, outbox } := by
    intro broker
    unfold reportDirectory
    dsimp only
    split
    · exact ⟨_, publishPayloads_eq _ _⟩
    · exact ⟨broker.diagnostics, broker.outbox, rfl⟩
  rcases timing broker with ⟨_, _, first⟩
  rcases traffic (broker.reportTiming now) with ⟨_, _, second⟩
  rcases directory ((broker.reportTiming now).reportTraffic now) with ⟨diagnostics, outbox, third⟩
  refine ⟨diagnostics, outbox, third.trans ?_⟩
  rw [second, first]

private theorem edits_diagnostics (diagnostics : Diagnostics) :
    Edits MessageType.responses broker { broker with diagnostics } :=
  .single (.aside broker.clock diagnostics broker.closings)

theorem edits_report (now : Milliseconds) :
    Edits MessageType.responses broker (broker.report now) := by
  have timing : ∀ broker : Broker,
      Edits MessageType.responses broker (broker.reportTiming now) := by
    intro broker
    unfold reportTiming
    dsimp only
    split
    · split
      · exact (edits_diagnostics _).trans (edits_publishPayload _ (by decide))
      · exact edits_diagnostics _
    · exact .refl
  have traffic : ∀ broker : Broker,
      Edits MessageType.responses broker (broker.reportTraffic now) := by
    intro broker
    unfold reportTraffic
    dsimp only
    split
    · split
      · exact edits_diagnostics _
      · exact (edits_diagnostics _).trans (edits_publishPayloads _ (by decide))
    · exact .refl
  have directory : ∀ broker : Broker,
      Edits MessageType.responses broker (broker.reportDirectory now) := by
    intro broker
    unfold reportDirectory
    dsimp only
    split
    · exact ((edits_diagnostics _).trans (edits_publishPayload _ (by decide))).trans
        (edits_publishPayloads _ (by decide))
    · exact .refl
  exact ((timing _).trans (traffic _)).trans (directory _)

end Broker

/-! ## Everything from outside -/

/-- What happens to a broker from outside. -/
inductive Occasion where
  | arrival (peer : SocketAddress)
  | event (event : Event)
  | poll (now : Milliseconds)
  /-- The surroundings read the clock and close what is to be closed. -/
  | upkeep (clock : ClockReading)

namespace Broker

/-- The broker after something has happened, with everything that follows from it
in the outbox. -/
def meet (broker : Broker) : Occasion -> Broker
  | .arrival peer => (broker.attach peer).2
  | .event event => broker.observe event
  | .poll now => broker.report now
  | .upkeep clock => { broker with clock, closings := [] }

/-- The frame that is passed on because of it, if there is one. -/
def passedOn? (broker : Broker) : Occasion -> Option Pending
  | .event (.message handle message) => broker.accepted? handle message
  | .event (.ended _ _) | .arrival _ | .poll _ | .upkeep _ => none

theorem edits_meet (broker : Broker) (occasion : Occasion) :
    Edits [MessageType.failedMessage] (broker.passOn (broker.passedOn? occasion))
      (broker.meet occasion) := by
  cases occasion with
  | event event =>
      cases event with
      | message handle message => exact edits_receive handle message
      | ended handle cause =>
          rw [passedOn?, passOn_none]
          exact (edits_remove handle (.lost cause)).ofResponses
  | arrival peer =>
      rw [passedOn?, passOn_none]
      exact .single (.attached peer)
  | poll now =>
      rw [passedOn?, passOn_none]
      exact (edits_report now).ofResponses
  | upkeep clock =>
      rw [passedOn?, passOn_none]
      exact .single (.aside clock broker.diagnostics [])

end Broker

end MessageBus
