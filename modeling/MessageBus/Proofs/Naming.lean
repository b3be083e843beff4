import MessageBus.Proofs.Clipped
import MessageBus.Proofs.Departures
import MessageBus.Proofs.Identities

namespace MessageBus

open Wire History Text

/-!
# The names under which modules are announced

A module says what it is called when it asks to be let in, or later, in a field of 32 bytes.  What
is read from the field is its title, and it is the title that must not be held by two modules
which want to be the only ones of their name.  When the manager tells others about a module it puts
the title into a field of the same width.

That is no way back to the bytes that were sent, because the reader of a field replaces what is no
text by something longer.  A title that does not fit any more is cut, and then titles that
differ can be told alike.  A title that fits is told in full, and so is every title that was
sent as a text.  That what is told is always what the title was cut to rests on
`Bus.Reachable.unbroken_title`: no title has an end in it, as all of them came out of fields.
-/

/-- What a module is called: its name, or nothing. -/
def Module.title (module : Module) : String :=
  module.name.getD ""

namespace Message

/-- The field in which a message says what its sender is called.  The older form of a CONNECT
has none. -/
def nameField? (message : Message) : Option (Field Limit.nameWidth) :=
  if message.messageType = MessageType.connect then
    (message.decodePayload Connect).toOption.map Connect.name
  else if message.messageType = MessageType.clientSetName then
    (message.decodePayload ClientSetName).toOption.map ClientSetName.name
  else none

/-- What the sender of a message is called by it, if it is one that says so. -/
def title? (message : Message) : Option String :=
  if message.messageType = MessageType.connect ∨
      message.messageType = MessageType.clientSetName then
    some ((message.nameField?.map Field.text).getD "")
  else none

variable {message : Message} {title : String}

theorem unbroken_of_title? (titled : message.title? = some title) :
    Char.ofNat 0 ∉ title.toList := by
  unfold title? at titled
  split at titled
  · cases titled
    cases message.nameField? with
    | none => exact List.not_mem_nil
    | some field => exact field.unbroken_text
  · cases titled

/-- A text that was sent is the title, and has fitted once. -/
theorem title_of_written {field : Field Limit.nameWidth} {text : String}
    (titled : message.title? = some title) (here : field ∈ message.nameField?)
    (written : encodeUtf8 text = field.toList.takeWhile (· != 0)) :
    title = text ∧ (encodeUtf8 title).length ≤ Limit.nameWidth := by
  rcases Field.text_of_written written with ⟨read, fits⟩
  unfold title? at titled
  rw [Option.mem_def.mp here] at titled
  split at titled
  · have same : title = text := (Option.some.inj titled).symm.trans read
    exact ⟨same, same ▸ fits⟩
  · cases titled

/-- The older form of a CONNECT has no field for a name. -/
theorem nameField?_of_older (connects : message.messageType = MessageType.connect)
    (older : message.payload.length = Request.legacyConnectSize) : message.nameField? = none := by
  have short : ¬ message.payload.length = Payload.size Connect := by
    rw [older]
    decide
  unfold nameField? decodePayload Payload.decode
  rw [if_pos connects, if_neg short]
  rfl

end Message

namespace Request

/-- What the sender of a request is called by it, if it is one that says so. -/
def title? : Request -> Option String
  | .connect request => some (request.name.getD "")
  | .setName name => some name
  | .disconnect | .subscribe _ | .unsubscribe _ | .pause _ | .resume _ | .moduleReady _ | .other =>
      none

variable {schemas : Schemas} {message : Message} {request : Request}

theorem decodePayload_of_checked [Payload α] {payload : α}
    (checked : checkedPayload α schemas message = .ok payload) :
    message.decodePayload α = .ok payload := by
  unfold checkedPayload at checked
  cases valid : schemas.validate message.header with
  | error error =>
      rw [valid] at checked
      cases checked
  | ok =>
      rw [valid] at checked
      exact checked

theorem getD_name? (payload : Connect) : payload.name?.getD "" = payload.name.text := by
  unfold Connect.name?
  dsimp only
  split
  · next empty => exact (String.isEmpty_iff.mp empty).symm
  · rfl

theorem title?_of_bind {checked : Except ProtocolError α} {made : α -> Request}
    (untitled : ∀ payload, (made payload).title? = none)
    (understood : (do let payload ← checked; return made payload) = .ok request) :
    request.title? = none := by
  cases checked with
  | error error => cases understood
  | ok payload => exact Except.ok.inj understood ▸ untitled payload

theorem title?_of_connect (connects : message.messageType = MessageType.connect)
    (understood : classify schemas message = .ok request) : request.title? = message.title? := by
  unfold classify at understood
  dsimp only at understood
  rw [if_pos connects] at understood
  unfold Message.title?
  rw [if_pos (Or.inl connects)]
  split at understood
  · next older =>
    cases understood
    rw [Message.nameField?_of_older connects older]
    rfl
  · cases checked : checkedPayload Connect schemas message with
    | error error =>
        rw [checked] at understood
        cases understood
    | ok payload =>
        rw [checked] at understood
        cases understood
        unfold Message.nameField?
        rw [if_pos connects, decodePayload_of_checked checked]
        exact congrArg some (getD_name? payload)

theorem title?_of_setName (renames : message.messageType = MessageType.clientSetName)
    (understood : classify schemas message = .ok request) : request.title? = message.title? := by
  have different : MessageType.clientSetName ≠ MessageType.connect := by decide
  rw [readsAs_setName schemas message renames] at understood
  unfold Message.title? Message.nameField?
  rw [if_pos (Or.inr renames), if_neg (renames ▸ different), if_pos renames]
  cases checked : checkedPayload ClientSetName schemas message with
  | error error =>
      rw [checked] at understood
      cases understood
  | ok payload =>
      rw [checked] at understood
      rw [decodePayload_of_checked checked]
      change (if payload.name.text.isEmpty then _ else _) = _ at understood
      split at understood
      · cases understood
      · cases understood
        rfl

/-- Nothing else has a name in it. -/
theorem title?_of_other (connects : message.messageType ≠ MessageType.connect)
    (renames : message.messageType ≠ MessageType.clientSetName)
    (understood : classify schemas message = .ok request) : request.title? = none := by
  unfold classify at understood
  dsimp only at understood
  rw [if_neg connects] at understood
  split at understood
  · cases understood
    rfl
  iterate 5
    split at understood
    · exact title?_of_bind (fun _ => rfl) understood
  cases understood
  rfl

/-- A request calls its sender what the message says. -/
theorem title?_of_classify (understood : classify schemas message = .ok request) :
    request.title? = message.title? := by
  by_cases connects : message.messageType = MessageType.connect
  · exact title?_of_connect connects understood
  by_cases renames : message.messageType = MessageType.clientSetName
  · exact title?_of_setName renames understood
  · have untitled : message.title? = none := if_neg fun either => either.elim connects renames
    exact (title?_of_other connects renames understood).trans untitled.symm

end Request

namespace Broker

variable {broker before after : Broker} {handle : Handle} {module : Module} {message : Message}
  {id : ModuleId} {title : String}

/-! ## Who is called what after a message -/

/-- The sender of a message is called what it was called before, or what it has asked for. -/
def Retitles (handle : Handle) (asked? : Option String) (before after : Broker) : Prop :=
  ∀ module, after.modules.get? handle = some module ->
    (∃ earlier, before.modules.get? handle = some earlier ∧ module.title = earlier.title) ∨
      asked? = some module.title

namespace Retitles

variable {asked? : Option String}

theorem of_same (same : after.modules.get? handle = before.modules.get? handle) :
    Retitles handle asked? before after :=
  fun module found => Or.inl ⟨module, same.symm.trans found, rfl⟩

theorem of_gone (gone : after.modules.get? handle = none) :
    Retitles handle asked? before after :=
  fun _ found => nomatch gone.symm.trans found

theorem remove (broker : Broker) (handle : Handle) (departure : Departure) :
    Retitles handle asked? broker (broker.remove handle departure) :=
  of_gone (get?_remove_self broker handle departure)

theorem acknowledge (broker : Broker) (handle : Handle) (subscriptions : Subscriptions) :
    Retitles handle asked? broker ({ broker with subscriptions }.acknowledge handle) :=
  of_same (congrArg (ModuleTable.get? · handle) (modules_acknowledge _ handle))

theorem connect (broker : Broker) (handle : Handle) (request : ConnectRequest) :
    Retitles handle (some (request.name.getD "")) broker (broker.connect handle request) := by
  rcases chosen : broker.modules.chooseId broker.identities handle request
    broker.config.identity.dynamicStart with ⟨rejection | id, identities⟩
  · rw [connect_of_error chosen]
    exact of_gone (get?_remove_self _ handle _)
  · rw [connect_of_ok chosen]
    intro module found
    rw [modules_publishClientInfo, modules_acknowledge, ModuleTable.get?_enroll_self] at found
    rcases Option.map_eq_some_iff.mp found with ⟨earlier, _, rfl⟩
    exact Or.inr rfl

theorem rename (broker : Broker) (handle : Handle) (name : String) :
    Retitles handle (some name) broker (broker.rename handle name) := by
  unfold Broker.rename
  split
  · exact of_same rfl
  · split
    · exact of_same rfl
    · intro module found
      rw [modules_publishClientInfo, modules_acknowledge,
        ModuleTable.get?_modify_self (fun module => { module with name := some name })
          fun _ => rfl] at found
      rcases Option.map_eq_some_iff.mp found with ⟨earlier, _, rfl⟩
      exact Or.inr rfl

theorem serve (broker : Broker) (handle : Handle) (message : Message) (request : Request) :
    Retitles handle request.title? broker (broker.serve handle message request) := by
  cases request with
  | connect request => exact of_same rfl
  | disconnect => exact remove broker handle .disconnected
  | subscribe messageType | resume messageType => exact acknowledge broker handle _
  | unsubscribe messageType | pause messageType => exact acknowledge broker handle _
  | moduleReady pid =>
      intro module found
      rw [show (broker.serve handle message (.moduleReady pid)).modules =
          broker.modules.modify handle fun module => { module with pid } from rfl,
        ModuleTable.get?_modify_self (fun module => { module with pid }) fun _ => rfl] at found
      rcases Option.map_eq_some_iff.mp found with ⟨earlier, foundEarlier, rfl⟩
      exact Or.inl ⟨earlier, foundEarlier, rfl⟩
  | setName name => exact rename broker handle name
  | other =>
      unfold Broker.serve
      dsimp only
      split
      · exact of_same rfl
      · unfold forward
        split <;> exact of_same rfl

theorem greet (broker : Broker) (handle : Handle) (request : Request) :
    Retitles handle request.title? broker (broker.greet handle request) := by
  unfold Broker.greet
  split
  · exact connect broker handle _
  · exact remove broker handle .disconnected
  · exact of_same rfl

theorem receive (broker : Broker) (handle : Handle) (message : Message) :
    Retitles handle message.title? broker (broker.receive handle message) := by
  unfold Broker.receive
  split
  · let counted :=
      { broker with diagnostics := broker.diagnostics.count message.messageType }
    show Retitles handle message.title? counted (counted.dispatch handle message)
    unfold dispatch
    split
    · exact of_same rfl
    · next request understood =>
      rw [← Request.title?_of_classify understood]
      split
      · exact serve counted handle message request
      · exact greet counted handle request
  · exact of_same rfl

end Retitles

/-! ## What is told about it -/

/-- Whoever is answered is told about to everybody right after that. -/
theorem outbox_answer (found : broker.modules.get? handle = some module) :
    ∃ notice : Pending,
      notice.Tells broker.config.format (ClientInfo.ofModule broker.clock.seconds module) ∧
        ((broker.acknowledge handle).publishClientInfo handle).outbox =
          broker.outbox ++ [broker.acknowledgement handle module.id, notice] := by
  have acknowledged : broker.acknowledge handle =
      { broker with outbox := broker.outbox ++ [broker.acknowledgement handle module.id] } := by
    unfold Broker.acknowledge
    rw [found]
    rfl
  rcases publishPayload_tells { broker with
      outbox := broker.outbox ++ [broker.acknowledgement handle module.id] }
    (ClientInfo.ofModule broker.clock.seconds module) with ⟨notice, tells, published⟩
  refine ⟨notice, tells, ?_⟩
  rw [acknowledged]
  unfold publishClientInfo
  dsimp only
  rw [found]
  dsimp only
  rw [published, List.append_assoc]
  rfl

/-- A module of this number is called so now.  It was answered, and then everybody was told about
it, and about nothing else. -/
inductive Names (handle : Handle) (id : ModuleId) (title : String) (before after : Broker) : Prop
  | announced {module : Module} {notice : Pending}
      (found : after.modules.get? handle = some module) (registered : module.isRegistered = true)
      (numbered : module.id = id) (titled : module.title = title)
      (tells : notice.Tells before.config.format
        (ClientInfo.ofModule before.clock.seconds module))
      (outbox : after.outbox =
        before.outbox ++ [before.acknowledgement handle id, notice]) :
      Names handle id title before after

/-- What is done before does not count if what is written does not depend on it. -/
theorem Names.of_between (between : Broker) (config : between.config = before.config)
    (clock : between.clock = before.clock) (outbox : between.outbox = before.outbox)
    (acknowledges : between.acknowledgement handle = before.acknowledgement handle)
    (names : Names handle id title between after) : Names handle id title before after := by
  cases names with
  | announced found registered numbered titled tells written =>
      rw [config, clock] at tells
      rw [outbox, acknowledges] at written
      exact .announced found registered numbered titled tells written

/-- An answer names whoever it is for. -/
theorem names_answer (found : broker.modules.get? handle = some module)
    (registered : module.isRegistered = true) :
    Names handle module.id module.title broker
      ((broker.acknowledge handle).publishClientInfo handle) := by
  rcases outbox_answer found with ⟨notice, tells, outbox⟩
  refine .announced ?_ registered rfl rfl tells outbox
  rw [modules_publishClientInfo, modules_acknowledge, found]

/-- Only a newcomer is let in. -/
theorem unregistered_of_grants? {request : ConnectRequest}
    (granted : broker.grants? module (.connect request) = some id) :
    module.isRegistered = false := by
  unfold grants? at granted
  split at granted
  · cases granted
  · next unregistered => exact Bool.eq_false_of_not_eq_true unregistered

/-- Only a module is given another name. -/
theorem registered_of_grants? {name : String}
    (granted : broker.grants? module (.setName name) = some id) : module.isRegistered = true := by
  unfold grants? at granted
  split at granted
  · next registered => exact registered
  · cases granted

theorem names_connect {request : ConnectRequest} (found : broker.modules.get? handle = some module)
    (granted : broker.grants? module (.connect request) = some id) :
    Names handle id (request.name.getD "") broker (broker.connect handle request) := by
  unfold grants? at granted
  split at granted
  · cases granted
  · rw [ModuleTable.handle_of_get? found] at granted
    dsimp only at granted
    rcases chosen : broker.modules.chooseId broker.identities handle request
      broker.config.identity.dynamicStart with ⟨rejection | given, identities⟩
    · rw [chosen] at granted
      cases granted
    · rw [chosen] at granted
      cases granted
      rw [connect_of_ok chosen]
      let enrolled :=
        { broker with identities, modules := broker.modules.enroll handle id request }
      have admitted : enrolled.modules.get? handle = some (module.admitted id request) := by
        show (broker.modules.enroll handle id request).get? handle = _
        rw [ModuleTable.get?_enroll_self, found]
        rfl
      have names : Names handle id (request.name.getD "") enrolled _ := names_answer admitted rfl
      exact .of_between enrolled rfl rfl rfl rfl names

theorem names_rename {name : String} (found : broker.modules.get? handle = some module)
    (granted : broker.grants? module (.setName name) = some id) :
    Names handle id name broker (broker.rename handle name) := by
  unfold grants? at granted
  split at granted
  · next registered =>
    rw [ModuleTable.handle_of_get? found] at granted
    unfold rename
    rw [found]
    dsimp only at granted ⊢
    split at granted
    · cases granted
    · next free =>
      cases granted
      rw [if_neg free]
      let change (module : Module) : Module := { module with name := some name }
      let changed := { broker with modules := broker.modules.modify handle change }
      have renamed : changed.modules.get? handle = some (change module) :=
        (ModuleTable.get?_modify_self change fun _ => rfl).trans
          (congrArg (Option.map change) found)
      have names : Names handle module.id name changed _ := names_answer renamed registered
      exact .of_between changed rfl rfl rfl rfl names
  · cases granted

/-- A message of somebody who is there is counted, and its request is served or, before the sender
was let in, received as a first one. -/
theorem receive_of_understood {request : Request}
    (found : broker.modules.get? handle = some module)
    (understood : Request.classify broker.schemas message = .ok request) :
    let counted :=
      { broker with diagnostics := broker.diagnostics.count message.messageType }
    broker.receive handle message =
      if module.isRegistered then counted.serve handle message request
      else counted.greet handle request := by
  intro counted
  have asked : Request.classify counted.schemas message = .ok request := understood
  have registered : counted.modules.isRegistered handle = module.isRegistered :=
    ModuleTable.isRegistered_of_get? found
  unfold receive
  rw [if_pos (ModuleTable.contains_iff.mpr ⟨module, found⟩)]
  unfold dispatch
  rw [asked]
  dsimp only
  rw [registered]

/-- Whoever is granted a name is called so. -/
theorem names_of_grant? (granted : broker.grant? handle message = some id)
    (titled : message.title? = some title) :
    Names handle id title broker (broker.receive handle message) := by
  unfold grant? at granted
  split at granted
  · next sender request found understood =>
    rw [← Request.title?_of_classify understood] at titled
    rw [receive_of_understood found understood]
    let counted :=
      { broker with diagnostics := broker.diagnostics.count message.messageType }
    have still : counted.modules.get? handle = some sender := found
    have alike : counted.grants? sender request = some id := granted
    refine .of_between counted rfl rfl rfl rfl ?_
    cases request with
    | connect request =>
        cases titled
        rw [if_neg (Bool.eq_false_iff.mp (unregistered_of_grants? alike))]
        exact names_connect still alike
    | setName name =>
        cases titled
        rw [if_pos (registered_of_grants? alike)]
        exact names_rename still alike
    | disconnect | subscribe | unsubscribe | pause | resume | moduleReady | other => cases titled
  · cases granted

end Broker

namespace Pending

variable {format : Format} {pending : Pending} {module : Module}

/-- A frame tells that the module of this number is there, and is called so. -/
def Introduces (format : Format) (pending : Pending) (id : ModuleId) (name : String) : Prop :=
  ∃ info : ClientInfo, pending.Tells format info ∧ info.module = id ∧ info.name.text = name

/-- A frame tells that the module of this number has left, and was called so. -/
def Dismisses (format : Format) (pending : Pending) (id : ModuleId) (name : String) : Prop :=
  ∃ closed : ClientClosed, pending.Tells format closed ∧ closed.module = id ∧
    closed.name.text = name

end Pending

/-- A name under which a module may be announced: what its title is cut to, which is the title
itself, if that fits. -/
structure Module.IsKnownAs (module : Module) (name : String) : Prop where
  cut : Field.CutsTo Limit.nameWidth module.title name
  whole : (encodeUtf8 module.title).length ≤ Limit.nameWidth -> name = module.title

namespace Bus

open Broker

variable {behaviour : Behaviour σ} {config : Config} {bus : Bus σ} {handle : Handle}
  {module : Module} {pending : Pending} {outbox : List Pending}

/-! ## Titles have no end in them -/

/-- A delivery leaves everybody's title as it is. -/
theorem title_deliver (sound : bus.broker.Sound config)
    (next : bus.broker.outbox = pending :: outbox)
    (found : (bus.deliver behaviour).broker.modules.get? handle = some module) :
    ∃ earlier, bus.broker.modules.get? handle = some earlier ∧ module.title = earlier.title := by
  by_cases here : handle ∈ bus.broker.targets pending.header pending.route
  · rcases ModuleTable.isRegistered_iff.mp (awaits_targets sound.modules _ _ handle here) with
      ⟨earlier, foundEarlier, _⟩
    have course := course_handOut behaviour sound pending outbox
    rw [← course.attempts_eq] at here
    rcases List.mem_map.mp here with ⟨⟨_, outcome⟩, attempted, rfl⟩
    have record := course.get?_of_attempted foundEarlier attempted
    rw [deliver_of_cons behaviour next] at found
    have left : outcome.record? earlier = some module := record.symm.trans found
    refine ⟨earlier, foundEarlier, ?_⟩
    cases outcome with
    | delivered | full =>
        cases left
        rfl
    | closed | timedOut => cases left
  · rw [get?_deliver_of_not_mem sound next here] at found
    exact ⟨module, found, rfl⟩

/-- What happens to the broker gives nobody a title with an end in it. -/
theorem unbroken_meet (sound : bus.broker.Sound config)
    (before : ∀ handle module, bus.broker.modules.get? handle = some module ->
      Char.ofNat 0 ∉ module.title.toList)
    (occasion : Occasion) (found : (bus.broker.meet occasion).modules.get? handle = some module) :
    Char.ofNat 0 ∉ module.title.toList := by
  cases occasion with
  | arrival peer =>
      have fresh := sound.modules.get?_of_lt (Nat.lt_succ_self bus.broker.modules.lastHandle)
      by_cases own : handle = bus.broker.modules.lastHandle + 1
      · subst own
        cases (ModuleTable.get?_insert_self peer fresh).symm.trans found
        exact List.not_mem_nil
      · exact before handle module ((ModuleTable.get?_insert_of_ne peer own).symm.trans found)
  | event event =>
      cases event with
      | message source message =>
          by_cases own : handle = source
          · subst own
            rcases Retitles.receive bus.broker handle message module found with
              ⟨earlier, foundEarlier, same⟩ | titled
            · rw [same]
              exact before handle earlier foundEarlier
            · exact Message.unbroken_of_title? titled
          · exact before handle module ((get?_receive_of_ne own message).symm.trans found)
      | ended source cause =>
          by_cases own : handle = source
          · subst own
            exact nomatch (get?_remove_self bus.broker handle _).symm.trans found
          · exact before handle module ((get?_remove_of_ne own _).symm.trans found)
  | poll now =>
      rw [show (bus.broker.meet (.poll now)).modules = bus.broker.modules from
        modules_report bus.broker now] at found
      exact before handle module found
  | upkeep clock => exact before handle module found

theorem Reachable.unbroken_title (reachable : bus.Reachable behaviour config) :
    ∀ handle module, bus.broker.modules.get? handle = some module ->
      Char.ofNat 0 ∉ module.title.toList := by
  induction reachable using stepwise with
  | start started queues =>
      rcases start_eq started with ⟨_, rfl⟩
      exact fun _ _ found => nomatch found
  | met reachable ih occasion =>
      exact fun _ _ found => unbroken_meet reachable.sound ih occasion found
  | readers reachable ih queues => exact ih
  | delivered reachable ih isNext =>
      intro handle module found
      rcases title_deliver reachable.sound isNext found with ⟨earlier, foundEarlier, same⟩
      rw [same]
      exact ih handle earlier foundEarlier

/-- Whatever is told about a module calls it by what its title is cut to. -/
theorem isKnownAs_ofPrefix (unbroken : Char.ofNat 0 ∉ module.title.toList) :
    module.IsKnownAs (Field.ofPrefix Limit.nameWidth module.title).text where
  cut := Field.cutsTo_ofPrefix unbroken Limit.nameWidth
  whole := (Field.cutsTo_ofPrefix unbroken Limit.nameWidth).eq_of_fits

/-! ## Those who leave -/

/-- A step after which somebody is gone is one that buries. -/
theorem Reachable.buries_of_gone (reachable : bus.Reachable behaviour config) (move : Move σ)
    (there : bus.broker.modules.contains handle = true)
    (gone : (bus.step behaviour move).broker.modules.contains handle = false) :
    ∃ new, StepBuries behaviour bus (bus.step behaviour move) new := by
  have moved {later : Broker} (same : later.modules.contains handle = true)
      (absent : later.modules.contains handle = false) : False :=
    Bool.false_ne_true (absent.symm.trans same)
  cases move with
  | occasion occasion =>
      cases occasion with
      | event event => exact stepBuries_event behaviour reachable.sound event
      | poll now => exact ⟨[], stepBuries_poll behaviour bus now⟩
      | arrival peer =>
          exact (moved ((contains_attach reachable.sound peer handle).mpr (Or.inr there)) gone).elim
      | upkeep clock => exact (moved there gone).elim
  | readers queues => exact (moved there gone).elim
  | deliver =>
      cases next : bus.broker.outbox with
      | nil =>
          rw [show bus.step behaviour .deliver = bus from deliver_of_nil behaviour next] at gone
          exact (moved there gone).elim
      | cons pending outbox => exact stepBuries_deliver behaviour reachable.sound next

/-- Whoever has left is among those that something was written about. -/
theorem exists_about {frames : List Pending} {subjects : List Obituary} {subject : Obituary}
    (about : List.Forall₂ (Pending.IsAbout config.format) frames subjects)
    (here : subject ∈ subjects) : ∃ frame ∈ frames, frame.IsAbout config.format subject := by
  induction about with
  | nil => cases here
  | cons first _ ih =>
      rcases List.mem_cons.mp here with rfl | later
      · exact ⟨_, List.mem_cons_self, first⟩
      · rcases ih later with ⟨frame, among, about⟩
        exact ⟨frame, List.mem_cons_of_mem _ among, about⟩

/-- A registered module that is gone after a step is told about in it. -/
theorem Reachable.told_of_gone (reachable : bus.Reachable behaviour config) (move : Move σ)
    (found : bus.broker.modules.get? handle = some module) (registered : module.isRegistered = true)
    (gone : (bus.step behaviour move).broker.modules.contains handle = false) :
    ∃ (added : List Pending) (notice : Pending) (seconds : UInt64),
      taken (bus.step behaviour move).history ++ (bus.step behaviour move).broker.outbox =
        taken bus.history ++ bus.broker.outbox ++ added ∧
      notice ∈ added ∧ notice.Tells config.format (ClientClosed.ofModule seconds module) := by
  have there := ModuleTable.contains_iff.mpr ⟨module, found⟩
  rcases reachable.buries_of_gone move there gone with ⟨new, _, _, _, outbox, buried, all⟩
  rcases buried.frames with ⟨added, written, about⟩
  have left : handle ∈ new.map Parting.handle := by
    by_contra absent
    exact Bool.false_ne_true (gone.symm.trans ((buried.present handle).mpr ⟨there, absent⟩))
  rcases List.mem_map.mp left with ⟨parting, among, rfl⟩
  have same : parting.module = module :=
    Option.some.inj ((buried.found parting among).symm.trans found)
  have subject : Obituary.closed module ∈ new.flatMap Parting.obituaries := by
    refine List.mem_flatMap.mpr ⟨parting, among, List.mem_append_right _ ?_⟩
    unfold Parting.notice
    rw [same, if_pos registered]
    exact List.mem_singleton_self _
  rw [show ({ bus.broker with outbox } : Broker).config = config from reachable.sound.config_eq]
    at about
  rcases exists_about about subject with ⟨notice, here, seconds, tells⟩
  refine ⟨added, notice, seconds, ?_, (List.mem_filter.mp here).1, tells⟩
  rw [written, ← List.append_assoc]
  exact congrArg (· ++ added) all

/-! ## What is told about whom -/

/-- Two modules that want to be the only ones of their name are known under names of their own,
if both titles fit. -/
theorem apart_of_fits {dynamicStart : ModuleId} {first second : Module} {name : String}
    (apart : ¬ first.Clash dynamicStart second) (unique : first.isUnique = true)
    (alsoUnique : second.isUnique = true)
    (fits : (encodeUtf8 first.title).length ≤ Limit.nameWidth)
    (alsoFits : (encodeUtf8 second.title).length ≤ Limit.nameWidth)
    (known : first.IsKnownAs name) (alsoKnown : second.IsKnownAs name) : name = "" := by
  have one : name = first.name.getD "" := known.whole fits
  have two : name = second.name.getD "" := alsoKnown.whole alsoFits
  cases named : first.name with
  | none => rw [one, named, Option.getD_none]
  | some title =>
      cases alsoNamed : second.name with
      | none => rw [two, alsoNamed, Option.getD_none]
      | some other =>
          rw [named, Option.getD_some] at one
          rw [alsoNamed, Option.getD_some] at two
          rw [← one] at named
          rw [← two] at alsoNamed
          exact absurd (Or.inr ⟨unique, alsoUnique, name, named, alsoNamed⟩) apart

/-- A module that is let in or takes another name is called what its field says, and is announced
under what this is cut to; a text that was sent as such is announced in full.  Whoever leaves is
announced in the same way.  If two modules want to be the only ones of their name, and their
titles fit, then they are not announced under the same name, unless they have none. -/
theorem Reachable.announced_by_name (reachable : bus.Reachable behaviour config) :
    (∀ {handle : Handle} {message : Message} {title : String} {id : ModuleId},
      message.title? = some title -> bus.broker.grant? handle message = some id ->
        let after := (bus.step behaviour (.occasion (.event (.message handle message)))).broker
        ∃ (module : Module) (notice : Pending) (name : String),
          after.modules.get? handle = some module ∧ module.isRegistered = true ∧
          module.id = id ∧ module.title = title ∧ module.IsKnownAs name ∧
          after.outbox =
            bus.broker.outbox ++ [bus.broker.acknowledgement handle id, notice] ∧
          notice.Introduces config.format id name ∧
          ∀ field ∈ message.nameField?, ∀ text,
            encodeUtf8 text = field.toList.takeWhile (· != 0) -> title = text ∧ name = text) ∧
    (∀ (move : Move σ) {handle : Handle} {module : Module},
      bus.broker.modules.get? handle = some module -> module.isRegistered = true ->
        (bus.step behaviour move).broker.modules.contains handle = false ->
          ∃ (added : List Pending) (notice : Pending) (name : String),
            taken (bus.step behaviour move).history ++
                (bus.step behaviour move).broker.outbox =
              taken bus.history ++ bus.broker.outbox ++ added ∧
            notice ∈ added ∧ notice.Dismisses config.format module.id name ∧
            module.IsKnownAs name) ∧
    bus.broker.modules.registered.Pairwise fun first second =>
      first.isUnique = true -> second.isUnique = true ->
        (encodeUtf8 first.title).length ≤ Limit.nameWidth ->
          (encodeUtf8 second.title).length ≤ Limit.nameWidth ->
            ∀ name, first.IsKnownAs name -> second.IsKnownAs name -> name = "" := by
  refine ⟨?entered, ?left, ?apart⟩
  case entered =>
    intro handle message title id titled granted after
    let met := bus.step behaviour (.occasion (.event (.message handle message)))
    have reached : met.Reachable behaviour config := reachable.step _
    cases names_of_grant? granted titled with
    | @announced module notice found registered numbered called tells outbox =>
        rw [reachable.sound.config_eq] at tells
        have known := isKnownAs_ofPrefix (reached.unbroken_title handle module found)
        refine ⟨module, notice, _, found, registered, numbered, called, known, outbox,
          ⟨_, tells, numbered, rfl⟩, fun field here text written => ?_⟩
        rcases Message.title_of_written titled here written with ⟨same, fits⟩
        exact ⟨same, (known.whole (called ▸ fits)).trans (called.trans same)⟩
  case left =>
    intro move handle module found registered gone
    rcases reachable.told_of_gone move found registered gone with
      ⟨added, notice, seconds, frames, here, tells⟩
    exact ⟨added, notice, _, frames, here, ⟨_, tells, rfl, rfl⟩,
      isKnownAs_ofPrefix (reachable.unbroken_title handle module found)⟩
  case apart =>
    exact reachable.sound.registered_apart.imp fun apart unique alsoUnique fits alsoFits name =>
      apart_of_fits apart unique alsoUnique fits alsoFits

/-! ## Names that are no text -/

/-- A newcomer that wants to be the only one of its name, which is so many bytes that are no
text. -/
def mumbling (count : Nat) : Message where
  header := { messageType := MessageType.connect, dataBytes := 44 }
  timecode := none
  payload := [0, 0, 0, 0, 0, 0, 0, 0, 1, 0, 0, 0] ++ List.replicate count 0xFF ++
    List.replicate (32 - count) 0

/-- The text that stands for so many of them. -/
def garbled (count : Nat) : String :=
  String.ofList (List.replicate count replacement)

/-- There is room for ten of the characters, of which each takes three bytes. -/
theorem text_of_garbled : ∀ count ∈ [11, 12],
    (Field.ofPrefix Limit.nameWidth (garbled count)).text = garbled 10 := by
  decide +kernel

/-- A connection that has not said anything yet. -/
def silent : Bus (Handle -> Nat) :=
  (vacant 20).run QueueRule.bounded.each [.occasion (.arrival ⟨.v4 [127, 0, 0, 1], 7111, 0⟩)]

theorem silent_reachable : silent.Reachable QueueRule.bounded.each {} :=
  (vacant_reachable 20).run _

/-- Twelve bytes that are no text are a title of 36, of which 30 are told, when the module is let
in and when its connection has broken off. -/
theorem announced_by_name_of_garbled :
    let joined := silent.step QueueRule.bounded.each (.occasion (.event (.message 1 (mumbling 12))))
    let left := joined.step QueueRule.bounded.each (.occasion (.event (.ended 1 "gone")))
    (mumbling 12).title? = some (garbled 12) ∧
      silent.broker.grant? 1 (mumbling 12) = some 100 ∧
      (∃ module receipt notice, joined.broker.modules.get? 1 = some module ∧
        module.title = garbled 12 ∧ joined.broker.outbox = [receipt, notice] ∧
        notice.Introduces .standard 100 (garbled 10)) ∧
      ∃ notice ∈ left.broker.outbox, notice.Dismisses .standard 100 (garbled 10) := by
  intro joined left
  have reachable : joined.Reachable QueueRule.bounded.each {} := silent_reachable.step _
  have titled : (mumbling 12).title? = some (garbled 12) := by decide +kernel
  have granted : silent.broker.grant? 1 (mumbling 12) = some 100 := by decide +kernel
  have gone : left.broker.modules.contains 1 = false := by decide +kernel
  have cuts : Field.CutsTo Limit.nameWidth (garbled 12) (garbled 10) := by
    rw [← text_of_garbled 12 (by decide)]
    exact Field.cutsTo_ofPrefix (Message.unbroken_of_title? titled) _
  rcases silent_reachable.announced_by_name.1 titled granted with
    ⟨module, notice, name, found, registered, numbered, called, known, outbox, introduces, _⟩
  obtain rfl : name = garbled 10 := (called ▸ known.cut).unique cuts
  refine ⟨titled, granted, ⟨module, _, notice, found, called, outbox, introduces⟩, ?_⟩
  rcases reachable.announced_by_name.2.1 (.occasion (.event (.ended 1 "gone"))) found registered
    gone with ⟨added, farewell, other, frames, here, dismisses, alsoKnown⟩
  obtain rfl : other = garbled 10 := (called ▸ alsoKnown.cut).unique cuts
  have all : left.broker.outbox = joined.broker.outbox ++ added := frames
  exact ⟨farewell, all ▸ List.mem_append_right _ here, numbered ▸ dismisses⟩

/-- Whoever is called so many of those characters is announced as ten of them. -/
theorem introduces_of_names {before after : Broker} {id : ModuleId} {count : Nat}
    (cut : count ∈ [11, 12]) (names : Names handle id (garbled count) before after) :
    ∃ notice ∈ after.outbox, notice.Introduces before.config.format id (garbled 10) := by
  cases names with
  | @announced module notice _ _ numbered called tells outbox =>
      have here : notice ∈ [before.acknowledgement handle id, notice] :=
        List.mem_cons_of_mem _ (List.mem_singleton_self notice)
      refine ⟨notice, outbox ▸ List.mem_append_right _ here, _, tells, numbered, ?_⟩
      rw [← text_of_garbled count cut, ← called]
      rfl

/-- Two modules that are each the only one of their name are announced under one name, which is
neither of theirs. -/
theorem announced_alike_of_garbled :
    let joined := silent.step QueueRule.bounded.each (.occasion (.event (.message 1 (mumbling 11))))
    let between := joined.step QueueRule.bounded.each
      (.occasion (.arrival ⟨.v4 [127, 0, 0, 1], 7111, 0⟩))
    let bus := between.step QueueRule.bounded.each (.occasion (.event (.message 2 (mumbling 12))))
    bus.Reachable QueueRule.bounded.each {} ∧
      bus.broker.modules.registered.map (fun module =>
        (module.id, module.isUnique, module.title)) =
          [(100, true, garbled 11), (101, true, garbled 12)] ∧
      (∃ one ∈ bus.broker.outbox, one.Introduces .standard 100 (garbled 10)) ∧
      (∃ two ∈ bus.broker.outbox, two.Introduces .standard 101 (garbled 10)) ∧
      garbled 10 ∉ ["", garbled 11, garbled 12] := by
  intro joined between bus
  have reachable : bus.Reachable QueueRule.bounded.each {} :=
    ((silent_reachable.step _).step _).step _
  have calls : (mumbling 11).title? = some (garbled 11) := by decide +kernel
  have alsoCalls : (mumbling 12).title? = some (garbled 12) := by decide +kernel
  have granted : silent.broker.grant? 1 (mumbling 11) = some 100 := by decide +kernel
  have alsoGranted : between.broker.grant? 2 (mumbling 12) = some 101 := by decide +kernel
  have first : Names 1 100 (garbled 11) silent.broker joined.broker :=
    names_of_grant? granted calls
  have second : Names 2 101 (garbled 12) between.broker bus.broker :=
    names_of_grant? alsoGranted alsoCalls
  refine ⟨reachable, by decide +kernel, ?one, ?two, by decide +kernel⟩
  case one =>
    rcases introduces_of_names (by decide) first with ⟨notice, here, introduces⟩
    have kept : notice ∈ between.broker.outbox := here
    cases second with
    | announced _ _ _ _ _ outbox =>
        exact ⟨notice, outbox ▸ List.mem_append_left _ kept, introduces⟩
  case two => exact introduces_of_names (by decide) second

end Bus

end MessageBus
