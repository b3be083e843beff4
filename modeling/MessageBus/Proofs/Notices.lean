import MessageBus.Proofs.Requests

namespace MessageBus

open Wire History

/-!
# What the manager tells about who is on the bus

When a module is let in or takes another name the manager tells everybody who is
interested about it, and when a registered module leaves it tells that, too.  From time to
time it goes through all modules that are there.  What a frame of this kind says is a
`Notice`, and `tidings` are the notices among frames.

Most of what the manager writes is none of this, and what it passes on never is, whatever
it looks like.  So every way of writing something has a lemma here that says what it adds
to the notices in the outbox (`Broker.told`).  From these it follows for each thing that
can happen to a broker what is told and what has changed in the table of modules, both at
once: `Broker.Announced` has a case for each kind of change, and `Broker.announced_meet`
says that it is the change that `Broker.notices` announces.
-/

/-- Somebody is there, or has gone. -/
inductive Notice (α : Type) where
  | entered (who : α)
  | left (who : α)
deriving DecidableEq, Repr

namespace Notice

variable {α β : Type}

def who : Notice α -> α
  | .entered who | .left who => who

def map (name : α -> β) : Notice α -> Notice β
  | .entered who => .entered (name who)
  | .left who => .left (name who)

@[simp] theorem map_entered (name : α -> β) (who : α) :
    (Notice.entered who).map name = .entered (name who) := rfl

@[simp] theorem map_left (name : α -> β) (who : α) :
    (Notice.left who).map name = .left (name who) := rfl

@[simp] theorem who_map (name : α -> β) (notice : Notice α) :
    (notice.map name).who = name notice.who := by
  cases notice <;> rfl

theorem map_congr {name other : α -> β} {notice : Notice α}
    (same : name notice.who = other notice.who) : notice.map name = notice.map other := by
  cases notice with
  | entered who => exact congrArg entered same
  | left who => exact congrArg left same

theorem map_entered_list (name : α -> β) (others : List α) :
    (others.map Notice.entered).map (Notice.map name) = (others.map name).map .entered := by
  rw [List.map_map, List.map_map]
  rfl

theorem map_left_list (name : α -> β) (others : List α) :
    (others.map Notice.left).map (Notice.map name) = (others.map name).map .left := by
  rw [List.map_map, List.map_map]
  rfl

end Notice

/-! ## Reading them -/

/-- What a message says about who is on the bus.  One that cannot be read would be about the
number zero, which nobody has. -/
def Message.notice? (message : Message) : Option (Notice ModuleId) :=
  if message.messageType = MessageType.clientInfo then
    some (.entered (((message.decodePayload ClientInfo).toOption.map ClientInfo.module).getD 0))
  else if message.messageType = MessageType.clientClosed then
    some (.left (((message.decodePayload ClientClosed).toOption.map ClientClosed.module).getD 0))
  else none

namespace Outbound

/-- The message in a frame. -/
def message (format : Format) (outbound : Outbound) : Message :=
  let (header, timecode) := format.decodeHead (outbound.frame.take format.size)
  { header, timecode, payload := outbound.frame.drop format.size }

/-- What a frame of the manager's own says about who is on the bus. -/
def notice? (format : Format) (outbound : Outbound) : Option (Notice ModuleId) :=
  match outbound.provenance with
  | .originated => (outbound.message format).notice?
  | .forwarded => none

/-- The time at which a frame is written changes nothing about what it says. -/
theorem notice?_encode (format : Format) (present : Timecode) (message : Message) :
    notice? format ⟨.originated, message.encode format present⟩ = message.notice? := by
  have length := Format.length_encodeHead format present message.header message.timecode
  have header := Format.header_decodeHead format present message.header message.timecode
  have read : (Outbound.message format ⟨.originated, message.encode format present⟩).header =
      message.header ∧
      (Outbound.message format ⟨.originated, message.encode format present⟩).payload =
        message.payload := by
    unfold Outbound.message Message.encode
    rw [List.take_left' length, List.drop_left' length]
    exact ⟨header, rfl⟩
  show (Outbound.message format ⟨.originated, message.encode format present⟩).notice? = _
  unfold Message.notice? Message.decodePayload Message.messageType
  rw [read.1, read.2]

end Outbound

/-- The notices among frames. -/
def tidings (format : Format) (frames : List Outbound) : List (Notice ModuleId) :=
  frames.filterMap (Outbound.notice? format)

theorem tidings_append (format : Format) (first second : List Outbound) :
    tidings format (first ++ second) = tidings format first ++ tidings format second :=
  List.filterMap_append

theorem Message.decodePayload_ofPayload [Payload α] (clock : ClockReading) (payload : α) :
    (Message.ofPayload clock payload).decodePayload α = .ok payload :=
  decodePayload_of_bytes rfl

theorem Message.notice?_clientInfo (clock : ClockReading) (info : ClientInfo) :
    (Message.ofPayload clock info).notice? = some (.entered info.module) := by
  have same : (Message.ofPayload clock info).messageType = MessageType.clientInfo := rfl
  unfold notice?
  rw [if_pos same, decodePayload_ofPayload]
  rfl

theorem Message.notice?_clientClosed (clock : ClockReading) (closed : ClientClosed) :
    (Message.ofPayload clock closed).notice? = some (.left closed.module) := by
  have same : (Message.ofPayload clock closed).messageType = MessageType.clientClosed := rfl
  have other : (Message.ofPayload clock closed).messageType ≠ MessageType.clientInfo := by
    rw [same]
    decide
  unfold notice?
  rw [if_neg other, if_pos same, decodePayload_ofPayload]
  rfl

/-- A message of any other type says nothing about it. -/
theorem Message.notice?_of_other {message : Message}
    (notInfo : message.messageType ≠ MessageType.clientInfo)
    (notClosed : message.messageType ≠ MessageType.clientClosed) : message.notice? = none := by
  unfold notice?
  rw [if_neg notInfo, if_neg notClosed]

namespace Broker

variable {broker before between after : Broker} {handle : Handle} {module : Module}

/-- The notices that wait in the outbox. -/
def told (broker : Broker) : List (Notice ModuleId) :=
  tidings broker.config.format (broker.outbox.map Pending.outbound)

theorem told_publish (broker : Broker) (message : Message) (route : Route) :
    (broker.publish message route).told = broker.told ++ message.notice?.toList := by
  let sourced := message.fromSource ModuleId.manager broker.config.manager.hostId
  have same : sourced.notice? = message.notice? := rfl
  show tidings broker.config.format ((broker.outbox ++ [_]).map Pending.outbound) = _
  rw [List.map_append, tidings_append, ← same,
    ← Outbound.notice?_encode broker.config.format broker.clock.timecode sourced]
  show _ ++ List.filterMap _ [_] = _
  cases said : Outbound.notice? broker.config.format
    ⟨.originated, sourced.encode broker.config.format broker.clock.timecode⟩ with
  | none => rw [List.filterMap_cons_none said]; rfl
  | some notice => rw [List.filterMap_cons_some said]; rfl

theorem told_publish_of_other (broker : Broker) {message : Message} (route : Route)
    (notInfo : message.messageType ≠ MessageType.clientInfo)
    (notClosed : message.messageType ≠ MessageType.clientClosed) :
    (broker.publish message route).told = broker.told := by
  rw [told_publish, Message.notice?_of_other notInfo notClosed]
  exact List.append_nil _

theorem told_publishPayload_of_other [Payload α] (broker : Broker) (payload : α)
    (notInfo : Payload.messageType α ≠ MessageType.clientInfo)
    (notClosed : Payload.messageType α ≠ MessageType.clientClosed) :
    (broker.publishPayload payload).told = broker.told :=
  broker.told_publish_of_other .subscribers notInfo notClosed

@[simp] theorem told_publishLog (broker : Broker) (level : LogLevel) (line : String) :
    (broker.publishLog level line).told = broker.told :=
  broker.told_publishPayload_of_other _ (by decide) (by decide)

@[simp] theorem told_notifyFailure (broker : Broker) (destination : ModuleId) (failed : Header) :
    (broker.notifyFailure destination failed).told = broker.told := by
  unfold notifyFailure
  split
  · rfl
  · exact told_publishPayload_of_other _ _ (by decide) (by decide)

@[simp] theorem told_acknowledge (broker : Broker) (handle : Handle) :
    (broker.acknowledge handle).told = broker.told := by
  unfold acknowledge
  split
  · rfl
  · have notInfo : MessageType.acknowledge ≠ MessageType.clientInfo := by decide
    have notClosed : MessageType.acknowledge ≠ MessageType.clientClosed := by decide
    exact told_publish_of_other _ _ notInfo notClosed

theorem told_publishInfo (broker : Broker) (module : Module) :
    (broker.publishPayload (ClientInfo.ofModule broker.clock.seconds module)).told =
      broker.told ++ [.entered module.id] := by
  show (broker.publish _ _).told = _
  rw [told_publish, Message.notice?_clientInfo]
  rfl

theorem told_publishClientInfo (found : broker.modules.get? handle = some module) :
    (broker.publishClientInfo handle).told = broker.told ++ [.entered module.id] := by
  unfold publishClientInfo
  rw [found]
  exact broker.told_publishInfo module

theorem told_publishClosed (broker : Broker) (module : Module) :
    (broker.publishPayload (ClientClosed.ofModule broker.clock.seconds module)).told =
      broker.told ++ [.left module.id] := by
  show (broker.publish _ _).told = _
  rw [told_publish, Message.notice?_clientClosed]
  rfl

/-- The whole directory, module by module. -/
theorem told_publishDirectory (broker : Broker) (modules : List Module) :
    (broker.publishPayloads (modules.map (ClientInfo.ofModule broker.clock.seconds))).told =
      broker.told ++ modules.map fun module => .entered module.id := by
  induction modules generalizing broker with
  | nil => exact (List.append_nil _).symm
  | cons module rest ih =>
      have later := ih (broker.publishPayload (ClientInfo.ofModule broker.clock.seconds module))
      rw [told_publishInfo, List.append_assoc] at later
      exact later

end Broker

/-! ## What happens and what is told -/

/-- What is told when a connection is gone. -/
def Module.parting (module : Module) : List (Notice (Handle × ModuleId)) :=
  if module.isRegistered then [.left (module.handle, module.id)] else []

namespace Broker

variable {broker before between after : Broker} {handle : Handle} {module : Module}
  {config : Config}

/-- What is told when a request was read: about whoever is let in or takes another name, and
about whoever leaves. -/
def requestNotices (broker : Broker) (module : Module) (request : Request) :
    List (Notice (Handle × ModuleId)) :=
  match request with
  | .connect _ | .setName _ =>
      ((broker.grants? module request).map fun id => .entered (module.handle, id)).toList
  | .disconnect => module.parting
  | .subscribe _ | .unsubscribe _ | .pause _ | .resume _ | .moduleReady _ | .other => []

/-- Whether the whole directory is told at a poll. -/
def isDirectoryDue (broker : Broker) (now : Milliseconds) : Bool :=
  isDue broker.diagnostics.lastDirectory now broker.config.diagnostics.directoryInterval

/-- What is told when something has happened, about whom and under which number. -/
def notices (broker : Broker) : Occasion -> List (Notice (Handle × ModuleId))
  | .event (.message handle message) =>
      match broker.modules.get? handle, Request.classify broker.schemas message with
      | some module, .ok request => broker.requestNotices module request
      | _, _ => []
  | .event (.ended handle _) => ((broker.modules.get? handle).map Module.parting).getD []
  | .poll now =>
      if broker.isDirectoryDue now then
        broker.modules.registered.map fun module => .entered (module.handle, module.id)
      else []
  | .arrival _ | .upkeep _ => []

/-- What becomes of the table and of the notices when something happens: nothing; or a module
is there, and was perhaps let in just now; or a module has gone; or all modules are gone
through.  In each case the others are as registered as before. -/
inductive Announced (before after : Broker) : List (Notice (Handle × ModuleId)) -> Prop where
  | nothing (told : after.told = before.told)
      (same : ∀ handle, after.modules.isRegistered handle = before.modules.isRegistered handle) :
      Announced before after []
  | entered {handle : Handle} {module : Module}
      (told : after.told = before.told ++ [.entered module.id])
      (found : after.modules.get? handle = some module) (registered : module.isRegistered = true)
      (others : ∀ other, other ≠ handle ->
        after.modules.isRegistered other = before.modules.isRegistered other) :
      Announced before after [.entered (handle, module.id)]
  | left {handle : Handle} {module : Module}
      (told : after.told = before.told ++ [.left module.id])
      (found : before.modules.get? handle = some module) (registered : module.isRegistered = true)
      (gone : after.modules.get? handle = none)
      (others : ∀ other, other ≠ handle ->
        after.modules.isRegistered other = before.modules.isRegistered other) :
      Announced before after [.left (handle, module.id)]
  | listed (told : after.told =
        before.told ++ before.modules.registered.map fun module => .entered module.id)
      (same : after.modules = before.modules) :
      Announced before after
        (before.modules.registered.map fun module => .entered (module.handle, module.id))

/-- What is done before that does not count if it tells nothing and changes nobody's place. -/
theorem Announced.of_between {notices : List (Notice (Handle × ModuleId))} (between : Broker)
    (told : between.told = before.told)
    (modules : between.modules = before.modules)
    (announced : Announced between after notices) : Announced before after notices := by
  cases announced with
  | nothing silent same =>
      exact .nothing (silent.trans told) fun handle => (same handle).trans (modules ▸ rfl)
  | entered news found registered others =>
      refine .entered (told ▸ news) found registered fun other different => ?_
      exact (others other different).trans (modules ▸ rfl)
  | left news found registered gone others =>
      refine .left (told ▸ news) (modules ▸ found) registered gone fun other different => ?_
      exact (others other different).trans (modules ▸ rfl)
  | listed news same =>
      rw [modules] at news same ⊢
      exact .listed (told ▸ news) same

/-- That somebody has left is told last, after what goes into the log. -/
theorem told_remove (found : broker.modules.get? handle = some module) (departure : Departure) :
    (broker.remove handle departure).told =
      broker.told ++ if module.isRegistered then [.left module.id] else [] := by
  let left :=
    { broker.forget handle with closings := broker.closings ++ [(handle, departure.farewell)] }
  have closed : ∀ logged : Broker, logged.told = broker.told ->
      logged.clock = broker.clock ->
        (if module.isRegistered then
          logged.publishPayload (ClientClosed.ofModule broker.clock.seconds module)
        else logged).told = broker.told ++ if module.isRegistered then [.left module.id] else [] := by
    intro logged told clock
    split
    · rw [← clock, told_publishClosed, told]
    · rw [told, List.append_nil]
  unfold remove
  rw [found]
  dsimp only
  cases departure.announcement? module with
  | none => exact closed left rfl rfl
  | some announcement =>
      exact closed (left.publishLog announcement.1 announcement.2) (told_publishLog _ _ _) rfl

theorem announced_remove (found : broker.modules.get? handle = some module)
    (departure : Departure) :
    Announced broker (broker.remove handle departure) module.parting := by
  have told := told_remove found departure
  have gone := get?_remove_self broker handle departure
  have others : ∀ other, other ≠ handle ->
      (broker.remove handle departure).modules.isRegistered other =
        broker.modules.isRegistered other := fun other different =>
    ModuleTable.isRegistered_congr (get?_remove_of_ne different departure)
  unfold Module.parting
  cases registered : module.isRegistered with
  | true =>
      rw [registered, if_pos rfl] at told
      rw [if_pos rfl, ModuleTable.handle_of_get? found]
      exact .left told found registered gone others
  | false =>
      rw [registered, if_neg Bool.false_ne_true, List.append_nil] at told
      rw [if_neg Bool.false_ne_true]
      refine .nothing told fun other => ?_
      by_cases same : other = handle
      · subst same
        rw [ModuleTable.isRegistered_of_gone gone, ModuleTable.isRegistered_of_get? found, registered]
      · exact others other same

/-- Whoever is registered is told to be there. -/
theorem announced_publishClientInfo {answered : Broker} (told : answered.told = broker.told)
    (found : answered.modules.get? handle = some module) (registered : module.isRegistered = true)
    (others : ∀ other, other ≠ handle ->
      answered.modules.isRegistered other = broker.modules.isRegistered other) :
    Announced broker (answered.publishClientInfo handle) [.entered (handle, module.id)] := by
  refine .entered ?_ ?_ registered fun other different => ?_
  · rw [told_publishClientInfo found, told]
  · rw [modules_publishClientInfo, found]
  · rw [modules_publishClientInfo, others other different]

theorem announced_connect (found : broker.modules.get? handle = some module)
    (unregistered : module.isRegistered = false) (request : ConnectRequest) :
    Announced broker (broker.connect handle request)
      (broker.requestNotices module (.connect request)) := by
  have asked : broker.requestNotices module (.connect request) =
      ((broker.modules.chooseId broker.identities handle request
        broker.config.identity.dynamicStart).1.toOption.map
          fun id => .entered (handle, id)).toList := by
    unfold requestNotices grants?
    rw [unregistered, ModuleTable.handle_of_get? found]
    rfl
  rw [asked]
  rcases chosen : broker.modules.chooseId broker.identities handle request
    broker.config.identity.dynamicStart with ⟨rejection | id, identities⟩
  · rw [connect_of_error chosen]
    have parting : module.parting = [] := if_neg (Bool.eq_false_iff.mp unregistered)
    let asking := { broker with identities }
    have still : asking.modules.get? handle = some module := found
    have removed := announced_remove still (.refused rejection)
    rw [parting] at removed
    exact .of_between asking rfl rfl removed
  · rw [connect_of_ok chosen]
    let enrolled :=
      { broker with identities, modules := broker.modules.enroll handle id request }
    have admitted : (enrolled.acknowledge handle).modules.get? handle =
        some (module.admitted id request) := by
      rw [modules_acknowledge]
      show (broker.modules.enroll handle id request).get? handle = _
      rw [ModuleTable.get?_enroll_self, found]
      rfl
    have silent : (enrolled.acknowledge handle).told = broker.told := told_acknowledge _ _
    have others : ∀ other, other ≠ handle ->
        (enrolled.acknowledge handle).modules.isRegistered other =
          broker.modules.isRegistered other := by
      intro other different
      rw [modules_acknowledge]
      exact ModuleTable.isRegistered_congr (ModuleTable.get?_enroll_of_ne id request different)
    exact announced_publishClientInfo silent admitted rfl others

theorem announced_rename (found : broker.modules.get? handle = some module)
    (registered : module.isRegistered = true) (name : String) :
    Announced broker (broker.rename handle name)
      (broker.requestNotices module (.setName name)) := by
  unfold rename requestNotices grants?
  rw [found, registered, ModuleTable.handle_of_get? found]
  dsimp only
  rw [if_pos rfl]
  split
  · exact .nothing (told_publishLog _ _ _) fun _ => rfl
  · let change (module : Module) : Module := { module with name := some name }
    let changed := { broker with modules := broker.modules.modify handle change }
    have renamed : (changed.acknowledge handle).modules.get? handle = some (change module) := by
      rw [modules_acknowledge]
      exact (ModuleTable.get?_modify_self change fun _ => rfl).trans
        (congrArg (Option.map change) found)
    have silent : (changed.acknowledge handle).told = broker.told := told_acknowledge _ _
    have others : ∀ other, other ≠ handle ->
        (changed.acknowledge handle).modules.isRegistered other =
          broker.modules.isRegistered other := by
      intro other different
      rw [modules_acknowledge]
      exact ModuleTable.isRegistered_congr
        (ModuleTable.get?_modify_of_ne change (fun _ => rfl) different)
    have announced := announced_publishClientInfo silent renamed registered others
    exact announced

theorem announced_serve (found : broker.modules.get? handle = some module)
    (registered : module.isRegistered = true) (message : Message) (request : Request) :
    Announced broker (broker.serve handle message request)
      (broker.requestNotices module request) := by
  have answered : ∀ subscriptions : Subscriptions,
      Announced broker ({ broker with subscriptions }.acknowledge handle) [] := fun subscriptions =>
    .nothing (told_acknowledge _ _) fun _ => by rw [modules_acknowledge]
  cases request with
  | connect request =>
      unfold requestNotices grants?
      rw [registered]
      exact .nothing rfl fun _ => rfl
  | disconnect => exact announced_remove found .disconnected
  | subscribe messageType | resume messageType => exact answered _
  | unsubscribe messageType | pause messageType => exact answered _
  | moduleReady pid =>
      refine .nothing rfl fun other => ModuleTable.isRegistered_modify _ fun _ => ?_
      exact ⟨rfl, rfl, rfl, rfl, rfl, rfl, rfl⟩
  | setName name => exact announced_rename found registered name
  | other =>
      unfold serve
      dsimp only
      split
      · exact .nothing (told_publishLog _ _ _) fun _ => rfl
      · unfold forward
        split
        · refine .nothing ?_ fun _ => rfl
          -- What is passed on is none of the manager's notices, whatever it looks like.
          show tidings _ ((broker.outbox ++ [_]).map Pending.outbound) = _
          rw [List.map_append, tidings_append]
          exact List.append_nil _
        · exact .nothing rfl fun _ => rfl

theorem announced_greet (found : broker.modules.get? handle = some module)
    (unregistered : module.isRegistered = false) (request : Request) :
    Announced broker (broker.greet handle request) (broker.requestNotices module request) := by
  cases request with
  | connect request => exact announced_connect found unregistered request
  | disconnect => exact announced_remove found .disconnected
  | setName name =>
      unfold requestNotices grants?
      rw [unregistered]
      exact .nothing rfl fun _ => rfl
  | subscribe | unsubscribe | pause | resume | moduleReady | other =>
      exact .nothing rfl fun _ => rfl

theorem announced_dispatch (found : broker.modules.get? handle = some module)
    (message : Message) :
    Announced broker (broker.dispatch handle message)
      (broker.notices (.event (.message handle message))) := by
  unfold dispatch notices
  dsimp only
  rw [found]
  cases Request.classify broker.schemas message with
  | error error => exact .nothing (told_publishLog _ _ _) fun _ => rfl
  | ok request =>
      dsimp only
      rw [ModuleTable.isRegistered_of_get? found]
      cases registered : module.isRegistered with
      | true => exact announced_serve found registered message request
      | false => exact announced_greet found registered request

theorem announced_receive (broker : Broker) (handle : Handle) (message : Message) :
    Announced broker (broker.receive handle message)
      (broker.notices (.event (.message handle message))) := by
  unfold receive
  split
  · next present =>
    rcases ModuleTable.contains_iff.mp present with ⟨module, found⟩
    let counted :=
      { broker with diagnostics := broker.diagnostics.count message.messageType }
    have still : counted.modules.get? handle = some module := found
    exact .of_between counted rfl rfl (announced_dispatch still message)
  · next absent =>
    have nobody : broker.modules.get? handle = none := Option.not_isSome_iff_eq_none.mp absent
    unfold notices
    dsimp only
    rw [nobody]
    exact .nothing rfl fun _ => rfl

/-! ## Polls -/

theorem told_publishPayloads_of_other [Payload α] (broker : Broker) (payloads : List α)
    (notInfo : Payload.messageType α ≠ MessageType.clientInfo)
    (notClosed : Payload.messageType α ≠ MessageType.clientClosed) :
    (broker.publishPayloads payloads).told = broker.told := by
  induction payloads generalizing broker with
  | nil => rfl
  | cons payload rest ih =>
      exact (ih (broker.publishPayload payload)).trans
        (broker.told_publishPayload_of_other payload notInfo notClosed)

/-- A report of another kind tells nothing about who is there, and leaves alone when the
directory was last due. -/
structure IsElsewhere (now : Milliseconds) (before after : Broker) : Prop where
  told : after.told = before.told
  due : after.isDirectoryDue now = before.isDirectoryDue now
  modules : after.modules = before.modules

theorem reportTiming_elsewhere (broker : Broker) (now : Milliseconds) :
    IsElsewhere now broker (broker.reportTiming now) := by
  unfold reportTiming
  dsimp only
  split
  · split
    · exact ⟨told_publishPayload_of_other _ _ (by decide) (by decide), rfl, rfl⟩
    · exact ⟨rfl, rfl, rfl⟩
  · exact ⟨rfl, rfl, rfl⟩

theorem reportTraffic_elsewhere (broker : Broker) (now : Milliseconds) :
    IsElsewhere now broker (broker.reportTraffic now) := by
  have counted : ∀ (diagnostics : Diagnostics) (reports : List Traffic),
      diagnostics.lastDirectory = broker.diagnostics.lastDirectory ->
        IsElsewhere now broker ({ broker with diagnostics }.publishPayloads reports) := by
    intro diagnostics reports last
    have told := told_publishPayloads_of_other { broker with diagnostics } reports (by decide)
      (by decide)
    rcases publishPayloads_eq { broker with diagnostics } reports with ⟨outbox, same⟩
    rw [same] at told ⊢
    refine ⟨told, ?_, rfl⟩
    unfold isDirectoryDue
    rw [last]
  unfold reportTraffic
  dsimp only
  split
  · split
    · exact ⟨rfl, rfl, rfl⟩
    · exact counted _ _ rfl
  · exact ⟨rfl, rfl, rfl⟩

theorem announced_reportDirectory (broker : Broker) (now : Milliseconds) :
    Announced broker (broker.reportDirectory now) (broker.notices (.poll now)) := by
  unfold reportDirectory notices isDirectoryDue
  dsimp only
  split
  · let taken := { broker with diagnostics := { broker.diagnostics with lastDirectory := now } }
    let list := ActiveClients.ofModules broker.clock.seconds broker.modules.registered
    have listed : (taken.publishPayload list).told = broker.told :=
      taken.told_publishPayload_of_other list (by decide) (by decide)
    refine .listed ?_ ?_
    · exact (told_publishDirectory (taken.publishPayload list) _).trans (by rw [listed])
    · rcases publishPayloads_eq (taken.publishPayload list)
        (broker.modules.registered.map (ClientInfo.ofModule broker.clock.seconds)) with
        ⟨outbox, same⟩
      exact (congrArg Broker.modules same).trans rfl
  · exact .nothing rfl fun _ => rfl

theorem announced_report (broker : Broker) (now : Milliseconds) :
    Announced broker (broker.report now) (broker.notices (.poll now)) := by
  have timing := reportTiming_elsewhere broker now
  have traffic := reportTraffic_elsewhere (broker.reportTiming now) now
  have directory := announced_reportDirectory ((broker.reportTiming now).reportTraffic now) now
  unfold notices at directory ⊢
  dsimp only at directory ⊢
  rw [traffic.due, timing.due, traffic.modules, timing.modules] at directory
  exact .of_between _ (traffic.told.trans timing.told) (traffic.modules.trans timing.modules)
    directory

/-- What is told is what `notices` says. -/
theorem announced_meet (sound : broker.Sound config) (occasion : Occasion) :
    Announced broker (broker.meet occasion) (broker.notices occasion) := by
  cases occasion with
  | event event =>
      cases event with
      | message handle message => exact announced_receive broker handle message
      | ended handle cause =>
          unfold notices
          dsimp only
          cases found : broker.modules.get? handle with
          | none =>
              have same : broker.meet (.event (.ended handle cause)) = broker :=
                sound.remove_of_gone found (.lost cause)
              rw [same]
              exact .nothing rfl fun _ => rfl
          | some module => exact announced_remove found (.lost cause)
  | arrival peer =>
      refine .nothing rfl fun handle => ?_
      by_cases own : handle = broker.modules.lastHandle + 1
      · subst own
        have fresh := sound.modules.get?_of_lt (Nat.lt_succ_self broker.modules.lastHandle)
        exact (ModuleTable.isRegistered_of_get? (ModuleTable.get?_insert_self peer fresh)).trans
          (ModuleTable.isRegistered_of_gone fresh).symm
      · exact ModuleTable.isRegistered_congr (ModuleTable.get?_insert_of_ne peer own)
  | poll now => exact announced_report broker now
  | upkeep clock => exact .nothing rfl fun _ => rfl

end Broker

end MessageBus
