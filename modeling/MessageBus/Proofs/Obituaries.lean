import MessageBus.Proofs.Failures

namespace MessageBus

open Wire History

/-!
# What is written about those who leave

Two kinds of frames are about a connection that is over: a line in the log, if it broke off, and
the notice to everybody, if it was registered.  Both are written by the broker itself, in the one
place where it forgets a connection.  But it writes much else, in the log and otherwise, and what
is to be shown is that nothing else looks like one of these.  The log tells them apart: only the
loss of a connection is an error there, and everything else a warning.

`Broker.Buries` says of a stretch of the broker's life who has left in it: that they were there,
that nobody else has gone, that each was put down to be closed, and that the frames of the two
kinds are those about them, one after the other.  Most reactions bury nobody, `remove` buries one
connection, and a delivery those that are lost at it.
-/

/-- A connection that has left, as it was in the end. -/
structure Parting where
  module : Module
  departure : Departure

/-- What a frame can be about. -/
inductive Obituary where
  /-- The connection broke off. -/
  | broke (module : Module) (cause : String)
  /-- The module has left. -/
  | closed (module : Module)

namespace Parting

def handle (parting : Parting) : Handle := parting.module.handle

/-- The order to close the connection. -/
def closing (parting : Parting) : Handle × Farewell :=
  (parting.handle, parting.departure.farewell)

/-- That it broke off, if it did. -/
def loss (parting : Parting) : List Obituary :=
  match parting.departure with
  | .lost cause => [.broke parting.module cause]
  | .disconnected | .refused _ => []

/-- That the module has left, if it was one. -/
def notice (parting : Parting) : List Obituary :=
  if parting.module.isRegistered then [.closed parting.module] else []

/-- What is written about it: at most one frame of each kind. -/
def obituaries (parting : Parting) : List Obituary :=
  parting.loss ++ parting.notice

end Parting

namespace Pending

variable {format : Format} {pending : Pending}

/-- A frame says this about a connection. -/
def IsAbout (format : Format) (pending : Pending) : Obituary -> Prop
  | .broke module cause => ∃ seconds, pending.Tells format
      (ManagerLog.ofLine .error seconds s!"Connection lost for {module.label}: {cause}")
  | .closed module => ∃ seconds, pending.Tells format (ClientClosed.ofModule seconds module)

/-- Whether a frame of the broker's own is a notice that somebody has left, or an error in the
log. -/
def isObituary (format : Format) (pending : Pending) : Bool :=
  pending.outbound.provenance = .originated &&
    (pending.header.messageType = MessageType.clientClosed ||
      (pending.header.messageType = MessageType.managerLog &&
        match Payload.decode ManagerLog (pending.outbound.frame.drop format.size) with
        | .ok log => log.level = LogLevel.error.number
        | .error _ => false))

theorem isObituary_of_type (notClosed : pending.header.messageType ≠ MessageType.clientClosed)
    (notLog : pending.header.messageType ≠ MessageType.managerLog) :
    pending.isObituary format = false := by
  unfold isObituary
  simp [notClosed, notLog]

theorem isObituary_of_forwarded (forwarded : pending.outbound.provenance = .forwarded) :
    pending.isObituary format = false := by
  unfold isObituary
  simp [forwarded]

/-- A line in the log is one exactly if it is an error. -/
theorem isObituary_of_log {log : ManagerLog} (tells : pending.Tells format log) :
    pending.isObituary format = decide (log.level = LogLevel.error.number) := by
  have kind : pending.header.messageType = MessageType.managerLog := tells.messageType
  have different : MessageType.managerLog ≠ MessageType.clientClosed := by decide
  unfold isObituary
  rw [tells.payload]
  simp [tells.originated, kind, different]

theorem IsAbout.isObituary {obituary : Obituary} (about : pending.IsAbout format obituary) :
    pending.isObituary format = true := by
  cases obituary with
  | broke module cause =>
      rcases about with ⟨seconds, tells⟩
      rw [isObituary_of_log tells]
      exact decide_eq_true rfl
  | closed module =>
      rcases about with ⟨seconds, tells⟩
      have kind : pending.header.messageType = MessageType.clientClosed := tells.messageType
      unfold Pending.isObituary
      simp [tells.originated, kind]

end Pending

namespace History

variable {format : Format} {frames : List Pending}

/-- The frames about those who have left. -/
def obituaries (format : Format) (frames : List Pending) : List Pending :=
  frames.filter (·.isObituary format)

theorem obituaries_append (format : Format) (first second : List Pending) :
    obituaries format (first ++ second) = obituaries format first ++ obituaries format second :=
  List.filter_append ..

theorem obituaries_eq_nil (quiet : ∀ pending ∈ frames, pending.isObituary format = false) :
    obituaries format frames = [] :=
  List.filter_eq_nil_iff.mpr fun pending here => Bool.eq_false_iff.mp (quiet pending here)

/-- Frames that say something about somebody are all of this sort. -/
theorem obituaries_of_about {subjects : List Obituary}
    (about : List.Forall₂ (Pending.IsAbout format) frames subjects) :
    obituaries format frames = frames := by
  induction about with
  | nil => rfl
  | cons first _ ih =>
      unfold obituaries at ih ⊢
      rw [List.filter_cons_of_pos first.isObituary, ih]

end History

namespace Broker

/-- Who has left between two states of a broker. -/
structure Buries (before after : Broker) (partings : List Parting) : Prop where
  config : after.config = before.config
  lastHandle : after.modules.lastHandle = before.modules.lastHandle
  /-- They were there, with these records. -/
  found : ∀ parting ∈ partings, before.modules.get? parting.handle = some parting.module
  /-- Nobody else is gone, and nobody has come. -/
  present : ∀ handle, after.modules.contains handle = true ↔
    before.modules.contains handle = true ∧ handle ∉ partings.map Parting.handle
  distinct : (partings.map Parting.handle).Nodup
  /-- Each of them was put down to be closed. -/
  closings : after.closings = before.closings ++ partings.map Parting.closing
  /-- The frames that were written about somebody who has left are about them. -/
  frames : ∃ added, after.outbox = before.outbox ++ added ∧
    List.Forall₂ (Pending.IsAbout before.config.format)
      (obituaries before.config.format added) (partings.flatMap Parting.obituaries)

namespace Buries

variable {before middle after : Broker} {first second : List Parting}

theorem refl (broker : Broker) : broker.Buries broker [] where
  config := rfl
  lastHandle := rfl
  found := List.forall_mem_nil _
  present handle := by simp
  distinct := List.nodup_nil
  closings := (List.append_nil _).symm
  frames := ⟨[], (List.append_nil _).symm, .nil⟩

/-- Those who have left later had the same records before. -/
theorem trans (one : before.Buries middle first) (two : middle.Buries after second)
    (same : ∀ parting ∈ second, before.modules.get? parting.handle =
      middle.modules.get? parting.handle) : before.Buries after (first ++ second) where
  config := two.config.trans one.config
  lastHandle := two.lastHandle.trans one.lastHandle
  found parting here := by
    rcases List.mem_append.mp here with early | late
    · exact one.found parting early
    · exact (same parting late).trans (two.found parting late)
  present handle := by
    rw [two.present, one.present, List.map_append, List.mem_append, not_or, and_assoc]
  distinct := by
    rw [List.map_append, List.nodup_append']
    refine ⟨one.distinct, two.distinct, fun handle early late => ?_⟩
    rcases List.mem_map.mp late with ⟨parting, here, rfl⟩
    have there : middle.modules.contains parting.handle = true :=
      ModuleTable.contains_iff.mpr ⟨parting.module, two.found parting here⟩
    exact ((one.present _).mp there).2 early
  closings := by
    rw [two.closings, one.closings, List.map_append, List.append_assoc]
  frames := by
    rcases one.frames with ⟨early, outboxMiddle, aboutEarly⟩
    rcases two.frames with ⟨late, outboxAfter, aboutLate⟩
    refine ⟨early ++ late, ?_, ?_⟩
    · rw [outboxAfter, outboxMiddle, List.append_assoc]
    · rw [obituaries_append, List.flatMap_append]
      rw [one.config] at aboutLate
      exact List.rel_append aboutEarly aboutLate

end Buries

variable {broker before after : Broker} {handle other : Handle} {module : Module}
  {config : Config}

/-! ## Reactions that bury nobody -/

/-- What holds of most reactions. -/
abbrev BuriesNobody (before after : Broker) : Prop :=
  before.Buries after []

theorem BuriesNobody.trans {middle : Broker} (one : before.BuriesNobody middle)
    (two : middle.BuriesNobody after) : before.BuriesNobody after :=
  Buries.trans one two (List.forall_mem_nil _)

theorem buriesNobody_append {added : List Pending}
    (quiet : ∀ pending ∈ added, pending.isObituary broker.config.format = false) :
    broker.BuriesNobody { broker with outbox := broker.outbox ++ added } := by
  refine { Buries.refl broker with frames := ⟨added, rfl, ?_⟩ }
  rw [obituaries_eq_nil quiet]
  exact .nil

theorem buriesNobody_publishPayload [Payload α] (payload : α)
    (notClosed : Payload.messageType α ≠ MessageType.clientClosed)
    (notLog : Payload.messageType α ≠ MessageType.managerLog) :
    broker.BuriesNobody (broker.publishPayload payload) := by
  rcases publishPayload_tells broker payload with ⟨frame, tells, published⟩
  rw [published]
  refine buriesNobody_append fun pending here => ?_
  rw [List.mem_singleton.mp here]
  rw [← tells.messageType] at notClosed notLog
  exact Pending.isObituary_of_type notClosed notLog

theorem buriesNobody_publishPayloads [Payload α] (payloads : List α)
    (notClosed : Payload.messageType α ≠ MessageType.clientClosed)
    (notLog : Payload.messageType α ≠ MessageType.managerLog) :
    broker.BuriesNobody (broker.publishPayloads payloads) := by
  induction payloads generalizing broker with
  | nil => exact .refl broker
  | cons payload rest ih =>
      exact (buriesNobody_publishPayload payload notClosed notLog).trans ih

/-- A warning is no error. -/
theorem buriesNobody_warning (line : String) :
    broker.BuriesNobody (broker.publishLog .warning line) := by
  rcases publishPayload_tells broker (ManagerLog.ofLine .warning broker.clock.seconds line) with
    ⟨frame, tells, published⟩
  unfold publishLog
  rw [published]
  refine buriesNobody_append fun pending here => ?_
  rw [List.mem_singleton.mp here, Pending.isObituary_of_log tells]
  exact decide_eq_false (show ¬ LogLevel.warning.number = LogLevel.error.number by decide)

theorem buriesNobody_acknowledge (handle : Handle) :
    broker.BuriesNobody (broker.acknowledge handle) := by
  unfold acknowledge
  split
  · exact .refl broker
  · refine buriesNobody_append fun pending here => ?_
    rw [List.mem_singleton.mp here]
    exact Pending.isObituary_of_type (show MessageType.acknowledge ≠ _ by decide)
      (show MessageType.acknowledge ≠ _ by decide)

theorem buriesNobody_publishClientInfo (handle : Handle) :
    broker.BuriesNobody (broker.publishClientInfo handle) := by
  unfold publishClientInfo
  split
  · exact .refl broker
  · exact buriesNobody_publishPayload _ (by decide) (by decide)

theorem buriesNobody_notifyFailure (destination : ModuleId) (failed : Header) :
    broker.BuriesNobody (broker.notifyFailure destination failed) := by
  unfold notifyFailure
  split
  · exact .refl broker
  · have counted : broker.BuriesNobody { broker with
        diagnostics := broker.diagnostics.count MessageType.failedMessage } :=
      { Buries.refl broker with }
    exact counted.trans (buriesNobody_publishPayload _ (by decide) (by decide))

/-- Records may change, as long as nobody comes or goes. -/
theorem buriesNobody_modules {modules : ModuleTable}
    (lastHandle : modules.lastHandle = broker.modules.lastHandle)
    (same : ∀ handle, modules.contains handle = broker.modules.contains handle) :
    broker.BuriesNobody { broker with modules } := by
  refine { Buries.refl broker with lastHandle, present := fun handle => ?_ }
  rw [same]
  simp

theorem buriesNobody_modify (handle : Handle) (change : Module -> Module)
    (keeps : ∀ module, (change module).handle = module.handle) :
    broker.BuriesNobody { broker with modules := broker.modules.modify handle change } := by
  refine buriesNobody_modules rfl fun other => ?_
  unfold ModuleTable.contains
  rw [ModuleTable.get?_modify change keeps, Option.isSome_map]

theorem buriesNobody_enroll (handle : Handle) (id : ModuleId) (request : ConnectRequest) :
    broker.BuriesNobody { broker with modules := broker.modules.enroll handle id request } := by
  refine buriesNobody_modules (ModuleTable.lastHandle_enroll id request) fun other => ?_
  unfold ModuleTable.contains
  rw [ModuleTable.get?_enroll, ModuleTable.get?_modify (Module.admitted id request) fun _ => rfl,
    Option.isSome_map]

theorem buriesNobody_answer (handle : Handle) :
    broker.BuriesNobody ((broker.acknowledge handle).publishClientInfo handle) :=
  (buriesNobody_acknowledge handle).trans (buriesNobody_publishClientInfo handle)

theorem buriesNobody_reportMismatch (handle : Handle) (error : ProtocolError) :
    broker.BuriesNobody (broker.reportMismatch handle error) :=
  buriesNobody_warning _

theorem buriesNobody_rename (handle : Handle) (name : String) :
    broker.BuriesNobody (broker.rename handle name) := by
  unfold rename
  split
  · exact .refl broker
  · split
    · exact buriesNobody_warning _
    · exact (buriesNobody_modify handle (fun module => { module with name := some name })
        fun _ => rfl).trans (buriesNobody_answer handle)

theorem buriesNobody_forward (message : Message) :
    broker.BuriesNobody (broker.forward message) := by
  unfold forward
  split
  · refine buriesNobody_append fun pending here => ?_
    rw [List.mem_singleton.mp here]
    exact Pending.isObituary_of_forwarded rfl
  · exact .refl broker

theorem buriesNobody_report (now : Milliseconds) : broker.BuriesNobody (broker.report now) := by
  have aside : ∀ (broker : Broker) (diagnostics : Diagnostics),
      broker.BuriesNobody { broker with diagnostics } :=
    fun broker diagnostics => { Buries.refl broker with }
  have timing : ∀ broker : Broker, broker.BuriesNobody (broker.reportTiming now) := by
    intro broker
    unfold reportTiming
    dsimp only
    split
    · split
      · exact (aside broker _).trans (buriesNobody_publishPayload _ (by decide) (by decide))
      · exact aside broker _
    · exact .refl broker
  have traffic : ∀ broker : Broker, broker.BuriesNobody (broker.reportTraffic now) := by
    intro broker
    unfold reportTraffic
    dsimp only
    split
    · split
      · exact aside broker _
      · exact (aside broker _).trans (buriesNobody_publishPayloads _ (by decide) (by decide))
    · exact .refl broker
  have directory : ∀ broker : Broker, broker.BuriesNobody (broker.reportDirectory now) := by
    intro broker
    unfold reportDirectory
    dsimp only
    split
    · exact ((aside broker _).trans (buriesNobody_publishPayload _ (by decide) (by decide))).trans
        (buriesNobody_publishPayloads _ (by decide) (by decide))
    · exact .refl broker
  exact ((timing _).trans (traffic _)).trans (directory _)

/-! ## Forgetting a connection -/

/-- The log tells of an error if the connection broke off, and not otherwise. -/
theorem logged_about (left : Broker) (parting : Parting) :
    ∃ lines,
      (match parting.departure.announcement? parting.module with
        | none => left
        | some (level, line) => left.publishLog level line) =
          { left with outbox := left.outbox ++ lines } ∧
      List.Forall₂ (Pending.IsAbout left.config.format) (obituaries left.config.format lines)
        parting.loss := by
  rcases parting with ⟨module, departure⟩
  cases departure with
  | disconnected =>
      refine ⟨[], ?_, .nil⟩
      rw [List.append_nil]
      rfl
  | refused cause =>
      rcases publishPayload_tells left (ManagerLog.ofLine .warning left.clock.seconds
        s!"CONNECT refused for {module.peer.text}: {cause.message}") with ⟨line, tells, logged⟩
      refine ⟨[line], logged, ?_⟩
      rw [obituaries_eq_nil]
      · exact .nil
      · intro pending here
        rw [List.mem_singleton.mp here, Pending.isObituary_of_log tells]
        exact decide_eq_false (show ¬ LogLevel.warning.number = LogLevel.error.number by decide)
  | lost cause =>
      rcases publishPayload_tells left (ManagerLog.ofLine .error left.clock.seconds
        s!"Connection lost for {module.label}: {cause}") with ⟨line, tells, logged⟩
      have about : List.Forall₂ (Pending.IsAbout left.config.format) [line]
          [.broke module cause] := .cons ⟨_, tells⟩ .nil
      refine ⟨[line], logged, ?_⟩
      rw [obituaries_of_about about]
      exact about

/-- Everybody is told if the connection was registered, and not otherwise. -/
theorem closed_about (logged : Broker) (parting : Parting) (seconds : UInt64) :
    ∃ notices,
      (if parting.module.isRegistered then
          logged.publishPayload (ClientClosed.ofModule seconds parting.module)
        else logged) = { logged with outbox := logged.outbox ++ notices } ∧
      List.Forall₂ (Pending.IsAbout logged.config.format)
        (obituaries logged.config.format notices) parting.notice := by
  unfold Parting.notice
  cases parting.module.isRegistered with
  | true =>
      rcases publishPayload_tells logged (ClientClosed.ofModule seconds parting.module) with
        ⟨closed, tells, announced⟩
      have about : List.Forall₂ (Pending.IsAbout logged.config.format) [closed]
          [.closed parting.module] := .cons ⟨_, tells⟩ .nil
      refine ⟨[closed], announced, ?_⟩
      rw [obituaries_of_about about]
      exact about
  | false =>
      refine ⟨[], ?_, .nil⟩
      rw [List.append_nil]
      rfl

theorem contains_remove (table : ModuleTable) (handle other : Handle) :
    (table.remove handle).contains other = true ↔ table.contains other = true ∧ other ≠ handle := by
  unfold ModuleTable.contains
  by_cases same : other = handle
  · rw [same, ModuleTable.get?_remove_self]
    simp
  · rw [ModuleTable.get?_remove_of_ne same]
    simp [same]

/-- Who is forgotten has left, and nobody else. -/
theorem buries_remove (found : broker.modules.get? handle = some module) (departure : Departure) :
    broker.Buries (broker.remove handle departure) [⟨module, departure⟩] := by
  let parting : Parting := ⟨module, departure⟩
  let left : Broker :=
    { broker.forget handle with closings := broker.closings ++ [(handle, departure.farewell)] }
  rcases logged_about left parting with ⟨lines, logged, aboutLoss⟩
  rcases closed_about { left with outbox := left.outbox ++ lines } parting broker.clock.seconds with
    ⟨notices, closed, aboutNotice⟩
  have removed : broker.remove handle departure =
      { left with outbox := broker.outbox ++ lines ++ notices } := by
    refine Eq.trans ?_ closed
    rw [← logged]
    unfold remove
    split
    · next absent => cases absent.symm.trans found
    · next there present =>
      cases present.symm.trans found
      rfl
  have own : module.handle = handle := ModuleTable.handle_of_get? found
  rw [removed]
  exact {
    config := rfl
    lastHandle := rfl
    found := List.forall_mem_singleton.mpr (by rw [Parting.handle, own]; exact found)
    present := fun other => by
      show (broker.modules.remove handle).contains other = true ↔ _
      rw [contains_remove, List.map_singleton, List.mem_singleton, Parting.handle, own]
    distinct := List.nodup_singleton _
    closings := by
      show broker.closings ++ [(handle, departure.farewell)] = _
      rw [← own]
      rfl
    frames := by
      refine ⟨lines ++ notices, List.append_assoc .., ?_⟩
      rw [obituaries_append, List.flatMap_singleton]
      exact List.rel_append aboutLoss aboutNotice }

/-! ## Events -/

/-- A broker that differs in nothing that counts here. -/
theorem buriesNobody_aside (broker : Broker) (identities : IdentityPool)
    (diagnostics : Diagnostics) (subscriptions : Subscriptions) :
    broker.BuriesNobody { broker with identities, diagnostics, subscriptions } :=
  { Buries.refl broker with }

theorem buries_connect (found : broker.modules.get? handle = some module)
    (request : ConnectRequest) : ∃ partings, broker.Buries (broker.connect handle request) partings := by
  rcases chosen : broker.modules.chooseId broker.identities handle request
    broker.config.identity.dynamicStart with ⟨cause | id, identities⟩
  · have asked := buriesNobody_aside broker identities broker.diagnostics broker.subscriptions
    have still : { broker with identities }.modules.get? handle = some module := found
    rw [connect_of_error chosen]
    exact ⟨_, Buries.trans asked (buries_remove still (.refused cause)) fun _ _ => rfl⟩
  · have asked := buriesNobody_aside broker identities broker.diagnostics broker.subscriptions
    rw [connect_of_ok chosen]
    exact ⟨[], (asked.trans (buriesNobody_enroll handle id request)).trans
      (buriesNobody_answer handle)⟩

theorem buries_serve (found : broker.modules.get? handle = some module) (message : Message)
    (request : Request) : ∃ partings, broker.Buries (broker.serve handle message request) partings := by
  have changed (subscriptions : Subscriptions) :
      broker.BuriesNobody ({ broker with subscriptions }.acknowledge handle) :=
    (buriesNobody_aside broker broker.identities broker.diagnostics subscriptions).trans
      (buriesNobody_acknowledge handle)
  cases request with
  | connect request => exact ⟨[], .refl broker⟩
  | disconnect => exact ⟨_, buries_remove found .disconnected⟩
  | subscribe messageType | resume messageType => exact ⟨[], changed _⟩
  | unsubscribe messageType | pause messageType => exact ⟨[], changed _⟩
  | moduleReady pid => exact ⟨[], buriesNobody_modify handle _ fun _ => rfl⟩
  | setName name => exact ⟨[], buriesNobody_rename handle name⟩
  | other =>
      refine ⟨[], ?_⟩
      unfold serve
      dsimp only
      split
      · exact buriesNobody_reportMismatch handle _
      · exact buriesNobody_forward message

theorem buries_greet (found : broker.modules.get? handle = some module) (request : Request) :
    ∃ partings, broker.Buries (broker.greet handle request) partings := by
  unfold greet
  split
  · exact buries_connect found _
  · exact ⟨_, buries_remove found .disconnected⟩
  · exact ⟨[], .refl broker⟩

theorem buries_dispatch (found : broker.modules.get? handle = some module) (message : Message) :
    ∃ partings, broker.Buries (broker.dispatch handle message) partings := by
  unfold dispatch
  split
  · exact ⟨[], buriesNobody_reportMismatch handle _⟩
  · split
    · exact buries_serve found message _
    · exact buries_greet found _

theorem buries_observe (sound : broker.Sound config) (event : Event) :
    ∃ partings, broker.Buries (broker.observe event) partings := by
  cases event with
  | message handle message =>
      show ∃ partings, broker.Buries (broker.receive handle message) partings
      unfold receive
      split
      · next present =>
        rcases ModuleTable.contains_iff.mp present with ⟨module, found⟩
        let counted :=
          { broker with diagnostics := broker.diagnostics.count message.messageType }
        have still : counted.modules.get? handle = some module := found
        rcases buries_dispatch still message with ⟨partings, buries⟩
        have aside := buriesNobody_aside broker broker.identities
          (broker.diagnostics.count message.messageType) broker.subscriptions
        exact ⟨partings, Buries.trans aside buries fun _ _ => rfl⟩
      · exact ⟨[], .refl broker⟩
  | ended handle cause =>
      show ∃ partings, broker.Buries (broker.remove handle (.lost cause)) partings
      cases found : broker.modules.get? handle with
      | none =>
          rw [sound.remove_of_gone found]
          exact ⟨[], .refl broker⟩
      | some module => exact ⟨_, buries_remove found _⟩

/-! ## Deliveries -/

theorem buries_settle (found : broker.modules.get? handle = some module) (header : Header)
    (outcome : Outcome) :
    ∃ partings, broker.Buries (broker.settle handle header outcome) partings ∧
      ∀ parting ∈ partings, parting.handle = handle := by
  have failed (cause : String) :
      ∃ partings, broker.Buries (broker.fail handle header cause) partings ∧
        ∀ parting ∈ partings, parting.handle = handle := by
    unfold fail
    rw [found]
    have buries := (buries_remove found (.lost cause)).trans
      (buriesNobody_notifyFailure module.id header) (List.forall_mem_nil _)
    exact ⟨_, buries, List.forall_mem_singleton.mpr (ModuleTable.handle_of_get? found)⟩
  cases outcome with
  | delivered => exact ⟨[], .refl broker, List.forall_mem_nil _⟩
  | full =>
      refine ⟨[], ?_, List.forall_mem_nil _⟩
      unfold settle drop
      rw [found]
      exact (buriesNobody_modify handle
        (fun module => { module with dropCount := module.dropCount + 1 }) fun _ => rfl).trans
          (buriesNobody_notifyFailure module.id header)
  | closed => exact failed _
  | timedOut => exact failed _

/-- A delivery buries some of those that it is for. -/
theorem Course.buries {behaviour : Behaviour σ} {pending : Pending} {handles : List Handle}
    {queues : σ} {swept : Swept σ}
    (course : Course behaviour pending handles queues broker swept) :
    ∃ partings, broker.Buries swept.broker partings ∧
      ∀ parting ∈ partings, parting.handle ∈ handles := by
  induction course with
  | done queues broker => exact ⟨[], .refl broker, List.forall_mem_nil _⟩
  | @offered handle _ _ _ _ _ outcome _ found registered answered absent later ih =>
      rcases buries_settle found pending.header outcome with ⟨first, early, own⟩
      rcases ih with ⟨second, late, among⟩
      refine ⟨first ++ second, early.trans late fun parting here => ?_, fun parting here => ?_⟩
      · -- Those whose turn comes later are still as they were at the beginning.
        refine (get?_settle_of_ne found _ _ fun same => absent ?_).symm
        exact same ▸ among parting here
      · rcases List.mem_append.mp here with here | here
        · exact own parting here ▸ List.mem_cons_self
        · exact List.mem_cons_of_mem _ (among parting here)

end Broker

end MessageBus
