import MessageBus.Proofs.Loggers

namespace MessageBus

open Wire

/-!
# Acknowledgements on their way

The broker answers a module when it has let it in and when it has done what the module
asked for.  An answer says nothing about the request; it only has an addressee.  So the
answers that a module gets have to be accounted for on their way: a reaction to a message
puts at most one of them into the outbox, always for the sender of the message and
addressed to its number, and nothing else does (`Broker.Answered`).  From the outbox an
answer goes to the module or is lost, and to nobody else but the loggers.

Two things follow for a module that is no logger, provided that nobody makes the broker
pass on a message that looks like an answer.  Whatever looks like one in its queue is
one, with its number (`Bus.Reachable.own_of_received`).  And the number of the
acknowledgements that it may still see, `Bus.due`, grows only when the broker answers it.
-/

namespace History

/-- The broker's own acknowledgements among frames. -/
def answers (frames : List Pending) : List Pending :=
  written MessageType.acknowledge frames

theorem answers_append (first second : List Pending) :
    answers (first ++ second) = answers first ++ answers second :=
  written_append ..

/-- Nothing that looks like an acknowledgement was passed on. -/
def IsGenuine (history : List Moment) : Prop :=
  ∀ passed ∈ passedOn history, passed.header.messageType ≠ MessageType.acknowledge

instance (history : List Moment) : Decidable (IsGenuine history) :=
  List.decidableBAll _ _

theorem IsGenuine.of_append {first second : List Moment} (genuine : IsGenuine (first ++ second)) :
    IsGenuine first := by
  intro passed here
  refine genuine passed ?_
  rw [passedOn_append]
  exact List.mem_append_left _ here

/-- The frames that were put into a module's queue. -/
def received (handle : Handle) (history : List Moment) : List Pending :=
  history.flatMap fun
    | .delivered delivery =>
        if (handle, .delivered) ∈ delivery.attempts then [delivery.pending] else []
    | .met _ _ => []

theorem received_append (handle : Handle) (first second : List Moment) :
    received handle (first ++ second) = received handle first ++ received handle second :=
  List.flatMap_append

theorem received_met (handle : Handle) (history : List Moment) (broker : Broker)
    (occasion : Occasion) :
    received handle (history ++ [.met broker occasion]) = received handle history :=
  (received_append ..).trans (List.append_nil _)

theorem received_delivered (handle : Handle) (history : List Moment) (delivery : Delivery) :
    received handle (history ++ [.delivered delivery]) = received handle history ++
      if (handle, .delivered) ∈ delivery.attempts then [delivery.pending] else [] :=
  (received_append ..).trans (congrArg _ (List.append_nil _))

end History

open History

namespace Broker

variable {broker before between after : Broker} {source handle : Handle} {module : Module}

@[simp] theorem modules_acknowledge (broker : Broker) (handle : Handle) :
    (broker.acknowledge handle).modules = broker.modules := by
  unfold acknowledge
  split <;> rfl

@[simp] theorem modules_publishClientInfo (broker : Broker) (handle : Handle) :
    (broker.publishClientInfo handle).modules = broker.modules := by
  unfold publishClientInfo
  split <;> rfl

theorem outbox_publishClientInfo (broker : Broker) (handle : Handle) :
    broker.outbox <+: (broker.publishClientInfo handle).outbox := by
  unfold publishClientInfo
  split
  · exact List.prefix_refl _
  · exact List.prefix_append ..

/-! ## Who is answered -/

/-- The frame that tells a module, under its number, that its request was carried out. -/
def acknowledgement (broker : Broker) (handle : Handle) (id : ModuleId) : Pending :=
  let message := ((Message.signal broker.clock MessageType.acknowledge).addressed id 0).fromSource
    ModuleId.manager broker.config.manager.hostId
  ⟨message.header,
    ⟨.originated, message.encode broker.config.format broker.clock.timecode⟩, .direct handle⟩

/-- The number under which a request is granted, if it is.  A newcomer can only ask to be
let in.  A module's subscriptions are its own business, and whether its request changes
anything does not matter; a name can be refused to it. -/
def grants? (broker : Broker) (module : Module) (request : Request) : Option ModuleId :=
  if module.isRegistered then
    match request with
    | .subscribe _ | .unsubscribe _ | .pause _ | .resume _ => some module.id
    | .setName name =>
        if module.isUnique &&
            (broker.modules.uniqueHolderOfName? name module.handle).isSome then none
        else some module.id
    | .connect _ | .disconnect | .moduleReady _ | .other => none
  else
    match request with
    | .connect request =>
        (broker.modules.chooseId broker.identities module.handle request
          broker.config.identity.dynamicStart).1.toOption
    | _ => none

/-- The number under which what a message asks for is granted, if it is understood. -/
def grant? (broker : Broker) (handle : Handle) (message : Message) : Option ModuleId :=
  match broker.modules.get? handle, Request.classify broker.schemas message with
  | some module, .ok request => broker.grants? module request
  | _, _ => none

/-- A reaction answers nobody, or it answers a registered module once, under its number, and
writes nothing before that. -/
inductive Answered (source : Handle) (before after : Broker) : Option ModuleId -> Prop where
  | silent (same : answers after.outbox = answers before.outbox) :
      Answered source before after none
  | once {module : Module} (found : after.modules.get? source = some module)
      (registered : module.isRegistered = true)
      (first : before.outbox ++ [before.acknowledgement source module.id] <+: after.outbox)
      (same : answers after.outbox =
        answers before.outbox ++ [before.acknowledgement source module.id]) :
      Answered source before after (some module.id)

theorem Answered.of_edits (edits : Edits MessageType.responses before after) :
    Answered source before after none :=
  .silent (edits.written_eq (by decide))

/-- What is done before an answer is written does not count, if the answer is the same. -/
theorem Answered.of_between {granted : Option ModuleId} (between : Broker)
    (same : between.outbox = before.outbox)
    (acknowledges : between.acknowledgement source = before.acknowledgement source)
    (answered : Answered source between after granted) :
    Answered source before after granted := by
  cases answered with
  | silent silent => exact .silent (silent.trans (congrArg answers same))
  | once found registered first added =>
      rw [same, acknowledges] at first added
      exact .once found registered first added

theorem answered_acknowledge (found : broker.modules.get? source = some module)
    (registered : module.isRegistered = true) :
    Answered source broker (broker.acknowledge source) (some module.id) := by
  have acknowledged : broker.acknowledge source =
      { broker with outbox := broker.outbox ++ [broker.acknowledgement source module.id] } := by
    unfold acknowledge
    rw [found]
    rfl
  rw [acknowledged]
  exact .once found registered (List.prefix_refl _) (answers_append broker.outbox [_])

theorem Answered.publishClientInfo {granted : Option ModuleId}
    (answered : Answered source before after granted) :
    Answered source before (after.publishClientInfo source) granted := by
  have silent : answers (after.publishClientInfo source).outbox = answers after.outbox :=
    (edits_publishClientInfo source).written_eq (by decide)
  cases answered with
  | silent same => exact .silent (silent.trans same)
  | once found registered first same =>
      rw [← modules_publishClientInfo after source] at found
      exact .once found registered (first.trans (outbox_publishClientInfo after source))
        (silent.trans same)

theorem answered_connect (found : broker.modules.get? source = some module)
    (unregistered : module.isRegistered = false) (request : ConnectRequest) :
    Answered source broker (broker.connect source request)
      (broker.grants? module (.connect request)) := by
  have asked : broker.grants? module (.connect request) =
      (broker.modules.chooseId broker.identities source request
        broker.config.identity.dynamicStart).1.toOption := by
    unfold grants?
    rw [unregistered, ModuleTable.handle_of_get? found]
    rfl
  rw [asked]
  rcases chosen : broker.modules.chooseId broker.identities source request
    broker.config.identity.dynamicStart with ⟨rejection | id, identities⟩
  · rw [connect_of_error chosen]
    exact .of_between { broker with identities } rfl rfl (.of_edits (edits_remove source _))
  · rw [connect_of_ok chosen]
    let enrolled :=
      { broker with identities, modules := broker.modules.enroll source id request }
    have admitted : enrolled.modules.get? source = some (module.admitted id request) := by
      show (broker.modules.enroll source id request).get? source = _
      rw [ModuleTable.get?_enroll_self, found]
      rfl
    have answered : Answered source enrolled (enrolled.acknowledge source) (some id) :=
      answered_acknowledge admitted rfl
    exact .publishClientInfo (.of_between enrolled rfl rfl answered)

theorem answered_rename (found : broker.modules.get? source = some module)
    (registered : module.isRegistered = true) (name : String) :
    Answered source broker (broker.rename source name)
      (broker.grants? module (.setName name)) := by
  unfold rename grants?
  rw [found, registered, ModuleTable.handle_of_get? found]
  dsimp only
  rw [if_pos rfl]
  split
  · exact .of_edits (edits_publishLog _ _)
  · let change (module : Module) : Module := { module with name := some name }
    let changed := { broker with modules := broker.modules.modify source change }
    have renamed : changed.modules.get? source = some (change module) :=
      (ModuleTable.get?_modify_self change fun _ => rfl).trans (congrArg (Option.map change) found)
    have answered := answered_acknowledge renamed registered
    exact .publishClientInfo (.of_between changed rfl rfl answered)

theorem answered_serve (found : broker.modules.get? source = some module)
    (registered : module.isRegistered = true) (message : Message) (request : Request) :
    Answered source broker (broker.serve source message request)
      (broker.grants? module request) := by
  have granted : ∀ subscriptions : Subscriptions,
      Answered source broker ({ broker with subscriptions }.acknowledge source)
        (some module.id) := by
    intro subscriptions
    let changed := { broker with subscriptions }
    have still : changed.modules.get? source = some module := found
    exact .of_between changed rfl rfl (answered_acknowledge still registered)
  have asked : broker.grants? module request = match request with
      | .subscribe _ | .unsubscribe _ | .pause _ | .resume _ => some module.id
      | .setName name => broker.grants? module (.setName name)
      | .connect _ | .disconnect | .moduleReady _ | .other => none := by
    unfold grants?
    rw [registered]
    cases request <;> rfl
  rw [asked]
  cases request with
  | connect request => exact .silent rfl
  | disconnect =>
      show Answered source broker (broker.remove source .disconnected) none
      exact .of_edits (edits_remove source _)
  | subscribe messageType | resume messageType => exact granted _
  | unsubscribe messageType | pause messageType => exact granted _
  | moduleReady pid => exact .silent rfl
  | setName name => exact answered_rename found registered name
  | other =>
      unfold serve
      dsimp only
      split
      · exact .of_edits (edits_reportMismatch source _)
      · unfold forward
        split
        · refine .silent (written_append_of_others fun pending here own => ?_)
          rw [List.mem_singleton.mp here] at own
          cases own
        · exact .silent rfl

theorem answered_greet (found : broker.modules.get? source = some module)
    (unregistered : module.isRegistered = false) (request : Request) :
    Answered source broker (broker.greet source request) (broker.grants? module request) := by
  have silent : ∀ request : Request, (∀ asked, request ≠ .connect asked) ->
      broker.grants? module request = none := by
    intro request other
    unfold grants?
    rw [unregistered]
    cases request with
    | connect asked => exact absurd rfl (other asked)
    | disconnect | subscribe | unsubscribe | pause | resume | moduleReady | setName | other => rfl
  unfold greet
  split
  · exact answered_connect found unregistered _
  · rw [silent .disconnect fun _ same => Request.noConfusion same]
    exact .of_edits (edits_remove source _)
  · next others _ =>
    rw [silent _ others]
    exact .silent rfl

theorem answered_dispatch (found : broker.modules.get? source = some module)
    (message : Message) :
    Answered source broker (broker.dispatch source message) (broker.grant? source message) := by
  unfold dispatch grant?
  rw [found]
  cases Request.classify broker.schemas message with
  | error error => exact .of_edits (edits_reportMismatch source _)
  | ok request =>
      dsimp only
      cases registered : module.isRegistered with
      | true =>
          rw [if_pos (ModuleTable.isRegistered_iff.mpr ⟨module, found, registered⟩)]
          exact answered_serve found registered message request
      | false =>
          rw [if_neg]
          · exact answered_greet found registered request
          · intro isRegistered
            rcases ModuleTable.isRegistered_iff.mp isRegistered with ⟨other, again, is⟩
            obtain rfl := Option.some.inj (found.symm.trans again)
            rw [registered] at is
            cases is

theorem answered_receive (broker : Broker) (source : Handle) (message : Message) :
    Answered source broker (broker.receive source message) (broker.grant? source message) := by
  unfold receive
  split
  · next present =>
    rcases ModuleTable.contains_iff.mp present with ⟨module, found⟩
    let counted :=
      { broker with diagnostics := broker.diagnostics.count message.messageType }
    have still : counted.modules.get? source = some module := found
    exact .of_between counted rfl rfl (answered_dispatch still message)
  · next absent =>
    have nobody : broker.modules.get? source = none := by
      cases found : broker.modules.get? source with
      | none => rfl
      | some module => exact absurd (ModuleTable.contains_iff.mpr ⟨module, found⟩) absent
    have ungranted : broker.grant? source message = none := by
      unfold grant?
      rw [nobody]
    rw [ungranted]
    exact .silent rfl

/-- The answers after a message are those before it and, if what it asks for is granted, the
acknowledgement of that. -/
theorem answers_receive (broker : Broker) (source : Handle) (message : Message) :
    answers (broker.receive source message).outbox = answers broker.outbox ++
      ((broker.grant? source message).map (broker.acknowledgement source)).toList := by
  have answered := answered_receive broker source message
  generalize broker.grant? source message = granted at answered
  cases answered with
  | silent same => exact same.trans (List.append_nil _).symm
  | once found registered first same => exact same

/-- Whoever is answered is registered then, under the number that the answer has. -/
theorem found_of_grant? {message : Message} {id : ModuleId}
    (granted : broker.grant? source message = some id) :
    ∃ module, (broker.receive source message).modules.get? source = some module ∧
      module.isRegistered = true ∧ module.id = id := by
  have answered := answered_receive broker source message
  rw [granted] at answered
  cases answered with
  | once found registered _ _ => exact ⟨_, found, registered, rfl⟩

/-- The acknowledgement is the first frame that a message leads to. -/
theorem outbox_of_grant? {message : Message} {id : ModuleId}
    (granted : broker.grant? source message = some id) :
    broker.outbox ++ [broker.acknowledgement source id] <+:
      (broker.receive source message).outbox := by
  have answered := answered_receive broker source message
  rw [granted] at answered
  cases answered with
  | once _ _ first _ => exact first

/-- Whether a message makes the broker answer its sender. -/
def acknowledges (broker : Broker) (handle : Handle) (message : Message) : Bool :=
  (answers broker.outbox).length < (answers (broker.receive handle message).outbox).length

theorem acknowledges_eq (broker : Broker) (handle : Handle) (message : Message) :
    broker.acknowledges handle message = (broker.grant? handle message).isSome := by
  unfold acknowledges
  rw [answers_receive, List.length_append]
  cases broker.grant? handle message with
  | none => exact decide_eq_false (Nat.lt_irrefl _)
  | some id => exact decide_eq_true (Nat.lt_add_one _)

/-- What is acknowledged has been understood. -/
theorem understood_of_acknowledges {message : Message}
    (acknowledged : broker.acknowledges handle message = true) :
    ∃ request, Request.classify broker.schemas message = .ok request := by
  rw [acknowledges_eq] at acknowledged
  unfold grant? at acknowledged
  split at acknowledged
  · next request _ understood => exact ⟨request, understood⟩
  · cases acknowledged

/-- The acknowledgement that the broker gives, if there is one. -/
def answer? (broker : Broker) : Occasion -> Option Pending
  | .event (.message source message) =>
      (broker.grant? source message).map (broker.acknowledgement source)
  | .event (.ended _ _) | .arrival _ | .poll _ | .upkeep _ => none

/-- Only a message is answered, and only its sender. -/
theorem answers_meet (broker : Broker) (occasion : Occasion) :
    answers (broker.meet occasion).outbox =
      answers broker.outbox ++ (broker.answer? occasion).toList := by
  cases occasion with
  | event event =>
      cases event with
      | message source message => exact answers_receive broker source message
      | ended source cause =>
          exact ((edits_remove source _).written_eq (by decide)).trans (List.append_nil _).symm
  | arrival peer => exact (List.append_nil _).symm
  | poll now => exact ((edits_report now).written_eq (by decide)).trans (List.append_nil _).symm
  | upkeep clock => exact (List.append_nil _).symm

theorem eq_of_answer? {occasion : Occasion} {pending : Pending}
    (answer : broker.answer? occasion = some pending) :
    ∃ source message id, occasion = .event (.message source message) ∧
      broker.grant? source message = some id ∧ pending = broker.acknowledgement source id := by
  unfold answer? at answer
  split at answer
  · next source message =>
    rcases Option.map_eq_some_iff.mp answer with ⟨id, granted, rfl⟩
    exact ⟨source, message, id, rfl, granted, rfl⟩
  all_goals cases answer

end Broker

/-! ## Where answers go -/

/-- Whether a move is that the broker gets a message of a module. -/
def Move.isFrom (handle : Handle) : Move σ -> Bool
  | .occasion (.event (.message source _)) => source = handle
  | .occasion _ | .readers _ | .deliver => false

namespace ModuleTable

variable {first second table : ModuleTable} {handle : Handle} {module : Module}
  {kind : Module -> Prop}

/-- A handle was given out, and whoever is found there is a registered module of a kind. -/
def HasOnly (table : ModuleTable) (handle : Handle) (kind : Module -> Prop) : Prop :=
  handle ≤ table.lastHandle ∧
    ∀ module, table.get? handle = some module -> module.isRegistered = true ∧ kind module

theorem HasOnly.of_succeeds (hasOnly : first.HasOnly handle kind)
    (kept : ∀ {earlier later : Module}, earlier.Keeps later -> kind earlier -> kind later)
    (succeeds : first.Succeeds second) : second.HasOnly handle kind := by
  rcases hasOnly with ⟨given, whoever⟩
  refine ⟨Nat.le_trans given succeeds.lastHandle_le, fun module found => ?_⟩
  rcases succeeds.found handle module given found with ⟨earlier, foundEarlier, keeps⟩
  rcases whoever earlier foundEarlier with ⟨registered, before⟩
  have keeps := keeps registered
  exact ⟨keeps.isRegistered.trans registered, kept keeps before⟩

theorem HasOnly.of_get? (consistent : table.Consistent)
    (found : table.get? handle = some module) (registered : module.isRegistered = true)
    (isKind : kind module) : table.HasOnly handle kind := by
  refine ⟨consistent.le_lastHandle found, fun other again => ?_⟩
  obtain rfl := Option.some.inj (found.symm.trans again)
  exact ⟨registered, isKind⟩

/-- Whoever is under a handle has been let in, and is no logger. -/
def IsOrdinary (table : ModuleTable) (handle : Handle) : Prop :=
  table.HasOnly handle fun module => module.isLogger = false

instance (table : ModuleTable) (handle : Handle) : Decidable (table.IsOrdinary handle) :=
  inferInstanceAs (Decidable (handle ≤ table.lastHandle ∧
    ∀ module ∈ table.get? handle, module.isRegistered = true ∧ module.isLogger = false))

theorem IsOrdinary.of_succeeds (ordinary : first.IsOrdinary handle)
    (succeeds : first.Succeeds second) : second.IsOrdinary handle :=
  HasOnly.of_succeeds ordinary (fun keeps isLogger => keeps.isLogger.trans isLogger) succeeds

/-- Whoever is ordinary was so before, or had not been let in. -/
theorem IsOrdinary.before (ordinary : second.IsOrdinary handle)
    (present : second.contains handle = true) (consistent : first.Consistent)
    (succeeds : first.Succeeds second) :
    first.IsOrdinary handle ∧ first.contains handle = true ∨ first.IsNew handle := by
  rcases contains_iff.mp present with ⟨module, found⟩
  by_cases given : handle ≤ first.lastHandle
  · rcases succeeds.found handle module given found with ⟨earlier, foundEarlier, keeps⟩
    by_cases registered : earlier.isRegistered = true
    · have isLogger := (keeps registered).isLogger.symm.trans (ordinary.2 module found).2
      exact Or.inl ⟨.of_get? consistent foundEarlier registered isLogger,
        contains_iff.mpr ⟨earlier, foundEarlier⟩⟩
    · exact Or.inr (Or.inr ⟨earlier, foundEarlier, Bool.eq_false_of_not_eq_true registered⟩)
  · exact Or.inr (Or.inl (Nat.lt_of_not_le given))

end ModuleTable

/-- A frame is for one connection, and addressed to the number of whoever is there. -/
def Pending.IsAddressed (table : ModuleTable) (pending : Pending) : Prop :=
  ∃ source, pending.route = .direct source ∧
    table.HasOnly source fun module => pending.header.destinationModule = module.id

theorem Pending.IsAddressed.of_succeeds {first second : ModuleTable} {pending : Pending}
    (addressed : pending.IsAddressed first) (succeeds : first.Succeeds second) :
    pending.IsAddressed second := by
  rcases addressed with ⟨source, route, hasOnly⟩
  exact ⟨source, route,
    hasOnly.of_succeeds (fun keeps address => address.trans keeps.id.symm) succeeds⟩

namespace Bus

open Broker

variable {behaviour : Behaviour σ} {config : Config} {bus : Bus σ} {handle : Handle}
  {pending : Pending} {outbox : List Pending}

/-- A delivery adds no answers to those that were taken and those that wait. -/
theorem answers_deliver (sound : bus.broker.Sound config)
    (next : bus.broker.outbox = pending :: outbox) :
    answers (bus.deliver behaviour).broker.outbox = answers outbox :=
  (edits_deliver behaviour sound next).written_eq List.mem_cons_self

/-- The answers of a run, those that have left the outbox and those that wait, are the same
after a delivery. -/
theorem answers_all_deliver (behaviour : Behaviour σ) (sound : bus.broker.Sound config) :
    answers (taken (bus.deliver behaviour).history ++ (bus.deliver behaviour).broker.outbox) =
      answers (taken bus.history ++ bus.broker.outbox) := by
  cases next : bus.broker.outbox with
  | nil => rw [deliver_of_nil behaviour next, next]
  | cons first outbox =>
      have left : taken (bus.deliver behaviour).history = taken bus.history ++ [first] := by
        rw [deliver_of_cons behaviour next, taken_append]
        rfl
      rw [left, answers_append, answers_deliver sound next, ← answers_append, List.append_assoc,
        List.singleton_append]

/-- An answer that a step adds is addressed to whoever it is for. -/
theorem addressed_step (sound : bus.broker.Sound config) {move : Move σ}
    (here : pending ∈ answers (taken (bus.step behaviour move).history ++
      (bus.step behaviour move).broker.outbox)) :
    pending ∈ answers (taken bus.history ++ bus.broker.outbox) ∨
      pending.IsAddressed (bus.step behaviour move).broker.modules := by
  cases move with
  | occasion occasion =>
      let move : Move σ := .occasion occasion
      have same : taken (bus.step behaviour move).history = taken bus.history :=
        (taken_append ..).trans (List.append_nil _)
      rw [same, answers_append] at here
      rw [answers_append]
      change pending ∈ _ ++ answers (bus.broker.meet occasion).outbox at here
      rw [answers_meet, ← List.append_assoc] at here
      refine (List.mem_append.mp here).imp_right fun new => ?_
      rcases eq_of_answer? (Option.mem_toList.mp new) with ⟨source, message, id, rfl, granted, rfl⟩
      rcases found_of_grant? granted with ⟨module, found, registered, rfl⟩
      have consistent := (sound_step behaviour sound move).modules
      exact ⟨source, rfl, .of_get? consistent found registered rfl⟩
  | readers queues => exact Or.inl here
  | deliver => exact Or.inl (answers_all_deliver behaviour sound ▸ here)

theorem Reachable.addressed (reachable : bus.Reachable behaviour config) :
    ∀ pending ∈ answers (taken bus.history ++ bus.broker.outbox),
      pending.IsAddressed bus.broker.modules := by
  induction reachable with
  | start started queues =>
      rcases Broker.start_eq started with ⟨_, rfl⟩
      exact fun _ here => absurd here List.not_mem_nil
  | @step bus reachable move ih =>
      intro pending here
      rcases addressed_step reachable.sound here with before | new
      · exact (ih pending before).of_succeeds (succeeds_step behaviour reachable.sound move)
      · exact new

/-- Everything that was passed on has left the outbox or waits there. -/
theorem Reachable.passedOn_eq (reachable : bus.Reachable behaviour config) :
    passedOn bus.history = forwarded (taken bus.history) ++ forwarded bus.broker.outbox := by
  induction reachable with
  | start started queues =>
      rcases Broker.start_eq started with ⟨_, rfl⟩
      rfl
  | @step bus reachable move ih =>
      rcases extends_step behaviour reachable.sound move with ⟨since, stretch⟩
      rw [stretch.history, passedOn_append, ih, taken_append, forwarded_append, List.append_assoc,
        stretch.passedOn, List.append_assoc]

/-- A frame that goes to an ordinary module and looks like an answer is an answer to it,
unless something of the kind was passed on. -/
theorem Reachable.answer_of_delivered (reachable : bus.Reachable behaviour config)
    (next : bus.broker.outbox = pending :: outbox)
    (genuine : IsGenuine bus.history)
    (ordinary : bus.broker.modules.IsOrdinary handle)
    (delivered : (handle, Outcome.delivered) ∈ (bus.handOut behaviour pending outbox).attempts)
    (looks : pending.header.messageType = MessageType.acknowledge) :
    pending ∈ answers bus.broker.outbox ∧ pending.route = .direct handle := by
  have first : pending ∈ bus.broker.outbox := next ▸ List.mem_cons_self
  have own : pending.outbound.provenance = .originated := by
    cases provenance : pending.outbound.provenance with
    | originated => rfl
    | forwarded =>
        have passed : pending ∈ passedOn bus.history := by
          rw [reachable.passedOn_eq]
          exact List.mem_append_right _
            (List.mem_filter.mpr ⟨first, decide_eq_true provenance⟩)
        exact absurd looks (genuine pending passed)
  have answer : pending ∈ answers bus.broker.outbox := mem_written.mpr ⟨first, own, looks⟩
  refine ⟨answer, ?_⟩
  have listed : pending ∈ answers (taken bus.history ++ bus.broker.outbox) := by
    rw [answers_append]
    exact List.mem_append_right _ answer
  rcases reachable.addressed pending listed with ⟨source, route, _⟩
  rcases (reachable.sound.popped next).mem_targets_iff.mp
    ((course_handOut behaviour reachable.sound pending outbox).mem_of_attempted delivered) with
    ⟨module, found, _, concerns⟩
  unfold Concerns at concerns
  rw [route, (ordinary.2 module found).2] at concerns
  rw [route, ← concerns.resolve_left Bool.false_ne_true, ModuleTable.handle_of_get? found]

/-! ## What is in a module's queue -/

/-- The frames are those that the account of the queue shows. -/
theorem Reachable.contents_eq (reachable : bus.Reachable behaviour config) (handle : Handle) :
    bus.contents handle = (received handle bus.history).map Pending.outbound := by
  induction reachable with
  | start started queues => rfl
  | @step bus reachable move ih =>
      cases move with
      | occasion occasion =>
          show bus.contents handle =
            (received handle (bus.history ++ [.met bus.broker occasion])).map _
          rw [received_met, ih]
      | readers queues => exact ih
      | deliver =>
          show (bus.deliver behaviour).contents handle =
            (received handle (bus.deliver behaviour).history).map _
          cases next : bus.broker.outbox with
          | nil => rwa [deliver_of_nil behaviour next]
          | cons pending outbox =>
              rw [contents_deliver reachable.sound next, deliver_of_cons behaviour next,
                received_delivered, List.map_append, ih]
              split <;> simp

/-- What a step puts into a queue is the frame that leaves the outbox. -/
theorem mem_received_step {move : Move σ}
    (here : pending ∈ received handle (bus.step behaviour move).history) :
    pending ∈ received handle bus.history ∨
      pending ∈ taken (bus.step behaviour move).history ∧
        ∃ outbox, bus.broker.outbox = pending :: outbox ∧
          (handle, Outcome.delivered) ∈ (bus.handOut behaviour pending outbox).attempts := by
  cases move with
  | occasion occasion =>
      change pending ∈ received handle (bus.history ++ [.met bus.broker occasion]) at here
      rw [received_met] at here
      exact Or.inl here
  | readers queues => exact Or.inl here
  | deliver =>
      change pending ∈ received handle (bus.deliver behaviour).history at here
      show _ ∨ pending ∈ taken (bus.deliver behaviour).history ∧ _
      cases next : bus.broker.outbox with
      | nil =>
          rw [deliver_of_nil behaviour next] at here
          exact Or.inl here
      | cons first outbox =>
          rw [deliver_of_cons behaviour next, received_delivered] at here
          rcases List.mem_append.mp here with known | added
          · exact Or.inl known
          · split at added
            · next delivered =>
              obtain rfl := List.mem_singleton.mp added
              refine Or.inr ⟨?_, outbox, rfl, delivered⟩
              rw [deliver_of_cons behaviour next, taken_append]
              exact List.mem_append_right _ List.mem_cons_self
            · cases added

/-- What looks like an answer in the queue of an ordinary module is an answer to it,
unless something of the kind was passed on. -/
theorem Reachable.answer_of_received (reachable : bus.Reachable behaviour config)
    (genuine : IsGenuine bus.history)
    (ordinary : bus.broker.modules.IsOrdinary handle)
    (present : bus.broker.modules.contains handle = true) :
    ∀ pending ∈ received handle bus.history,
      pending.header.messageType = MessageType.acknowledge ->
        pending ∈ answers (taken bus.history) ∧ pending.route = .direct handle := by
  induction reachable with
  | start started queues => exact fun _ here => absurd here List.not_mem_nil
  | @step bus reachable move ih =>
      have succeeds := succeeds_step behaviour reachable.sound move
      rcases extends_step behaviour reachable.sound move with ⟨since, stretch⟩
      have earlier : IsGenuine bus.history := .of_append (stretch.history ▸ genuine)
      intro pending here looks
      rcases ordinary.before present reachable.sound.modules succeeds with ⟨before, there⟩ | new
      · rcases mem_received_step here with known | ⟨left, outbox, next, delivered⟩
        · rcases ih earlier before there pending known looks with ⟨answer, route⟩
          rw [stretch.history, taken_append, answers_append]
          exact ⟨List.mem_append_left _ answer, route⟩
        · rcases reachable.answer_of_delivered next earlier before delivered looks with
            ⟨answer, route⟩
          exact ⟨mem_written.mpr ⟨left, (mem_written.mp answer).2⟩, route⟩
      · -- Whoever has just been let in has not got anything yet.
        have empty := (reachable.step move).contents_eq handle
        rw [contents_step_of_isNew behaviour reachable.sound new move,
          reachable.contents_of_isNew new] at empty
        rw [List.map_eq_nil_iff.mp empty.symm] at here
        cases here

/-- What looks like an answer in the queue of an ordinary module has the number of the
module. -/
theorem Reachable.own_of_received {module : Module} (reachable : bus.Reachable behaviour config)
    (genuine : IsGenuine bus.history) (ordinary : bus.broker.modules.IsOrdinary handle)
    (found : bus.broker.modules.get? handle = some module)
    (here : pending ∈ received handle bus.history)
    (looks : pending.header.messageType = MessageType.acknowledge) :
    pending.header.destinationModule = module.id := by
  rcases reachable.answer_of_received genuine ordinary
    (ModuleTable.contains_iff.mpr ⟨module, found⟩) pending here looks with ⟨answer, route⟩
  have listed : pending ∈ answers (taken bus.history ++ bus.broker.outbox) := by
    rw [answers_append]
    exact List.mem_append_left _ answer
  rcases reachable.addressed pending listed with ⟨source, own, hasOnly⟩
  obtain rfl : handle = source := Route.direct.inj (route.symm.trans own)
  exact (hasOnly.2 module found).2

/-! ## What is due -/

/-- The number of the acknowledgements that a module may still see when it has seen a number
of the frames in its queue: those in the queue that look like one, and its answers in the
outbox. -/
def due (bus : Bus σ) (handle : Handle) (seen : Nat) : Nat :=
  ((received handle bus.history).drop seen).countP
      (·.header.messageType = MessageType.acknowledge) +
    (answers bus.broker.outbox).countP (·.route = .direct handle)

theorem countP_drop_append_le (p : α → Bool) (seen : Nat) (first second : List α) :
    ((first ++ second).drop seen).countP p ≤ (first.drop seen).countP p + second.countP p := by
  rw [List.drop_append, List.countP_append]
  exact Nat.add_le_add_left ((List.drop_sublist _ _).countP_le) _

theorem due_occasion (occasion : Occasion) (handle : Handle) (seen : Nat) :
    (bus.step behaviour (.occasion occasion)).due handle seen =
      ((received handle bus.history).drop seen).countP
          (·.header.messageType = MessageType.acknowledge) +
        (answers (bus.broker.meet occasion).outbox).countP (·.route = .direct handle) := by
  show List.countP _ ((received handle (bus.history ++ [.met bus.broker occasion])).drop seen) +
    _ = _
  rw [received_met]
  rfl

/-- A module's own message adds an answer to what is due, if it is acknowledged. -/
theorem due_receive (message : Message) (handle : Handle) (seen : Nat) :
    (bus.step behaviour (.occasion (.event (.message handle message)))).due handle seen =
      bus.due handle seen + (bus.broker.acknowledges handle message).toNat := by
  have answer : bus.broker.answer? (.event (.message handle message)) =
      (bus.broker.grant? handle message).map (bus.broker.acknowledgement handle) := rfl
  rw [due_occasion, answers_meet, List.countP_append, ← Nat.add_assoc, acknowledges_eq, answer]
  cases bus.broker.grant? handle message with
  | none => rfl
  | some id =>
      have own : (bus.broker.acknowledgement handle id).route = .direct handle := rfl
      rw [Option.map_some, Option.toList_some, List.countP_singleton, if_pos (decide_eq_true own)]
      rfl

theorem due_deliver (reachable : bus.Reachable behaviour config)
    (genuine : IsGenuine bus.history)
    (ordinary : bus.broker.modules.IsOrdinary handle) (seen : Nat) :
    (bus.deliver behaviour).due handle seen ≤ bus.due handle seen := by
  cases next : bus.broker.outbox with
  | nil =>
      rw [deliver_of_nil behaviour next]
  | cons pending outbox =>
      have frames : received handle (bus.deliver behaviour).history =
          received handle bus.history ++
            if (handle, .delivered) ∈ (bus.handOut behaviour pending outbox).attempts then
              [pending] else [] := by
        rw [deliver_of_cons behaviour next, received_delivered]
      have split : answers bus.broker.outbox = answers [pending] ++ answers outbox := by
        rw [next, ← answers_append, List.singleton_append]
      unfold due
      rw [frames, answers_deliver reachable.sound next, split, List.countP_append,
        ← Nat.add_assoc]
      refine Nat.add_le_add_right ((countP_drop_append_le ..).trans ?_) _
      refine Nat.add_le_add_left ?_ _
      split
      · next delivered =>
        by_cases looks : pending.header.messageType = MessageType.acknowledge
        · rcases reachable.answer_of_delivered next genuine ordinary delivered looks with
            ⟨answer, route⟩
          have own : pending ∈ answers [pending] :=
            mem_written.mpr ⟨List.mem_cons_self, (mem_written.mp answer).2⟩
          have counted : 0 < (answers [pending]).countP (·.route = .direct handle) :=
            List.countP_pos_iff.mpr ⟨pending, own, decide_eq_true route⟩
          rw [List.countP_singleton, if_pos (decide_eq_true looks)]
          exact counted
        · rw [List.countP_singleton, if_neg (by simpa using looks)]
          exact Nat.zero_le _
      · exact Nat.zero_le _

/-- Whatever else happens, what is due to an ordinary module does not grow. -/
theorem due_step_le (reachable : bus.Reachable behaviour config)
    (genuine : IsGenuine bus.history)
    (ordinary : bus.broker.modules.IsOrdinary handle)
    {move : Move σ} (foreign : move.isFrom handle = false) (seen : Nat) :
    (bus.step behaviour move).due handle seen ≤ bus.due handle seen := by
  cases move with
  | occasion occasion =>
      rw [due_occasion]
      refine Nat.add_le_add_left ?_ _
      rw [answers_meet, List.countP_append]
      have elsewhere : (bus.broker.answer? occasion).toList.countP (·.route = .direct handle) = 0 := by
        refine List.countP_eq_zero.mpr fun pending here => ?_
        rcases eq_of_answer? (Option.mem_toList.mp here) with ⟨source, message, id, rfl, _, rfl⟩
        have different : source ≠ handle := of_decide_eq_false foreign
        rw [decide_eq_true_eq]
        exact fun same => different (Route.direct.inj same)
      rw [elsewhere]
      exact Nat.le_refl _
  | readers queues => exact Nat.le_refl _
  | deliver => exact due_deliver reachable genuine ordinary seen

end Bus

end MessageBus
