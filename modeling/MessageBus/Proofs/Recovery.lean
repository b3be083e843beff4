import MessageBus.Client.Call
import MessageBus.Proofs.Codecs
import MessageBus.Proofs.Edit
import MessageBus.Proofs.Texts

namespace MessageBus

open Wire

/-!
# The request that was meant

A module asks something of the manager by calling its client, and the manager understands the
message that comes in.  In between the request is a record in a payload, the payload is tagged
with the hash of its definition, the message is stamped and written, and its bytes are read
again and held against the schemas.  What comes out is the request that was made
(`Client.Ask.recovered`).

The other direction is about whatever else may come in.  A message that was cut out of a stream
has as much payload as its header says, so a message that agrees with the schemas cannot have
the wrong size for its payload, and the only thing that can still be wrong with it is an empty
name (`Request.understood_of_valid`).  Only the eight types of requests are understood as
requests, and nothing at all can be wrong with a goodbye.
-/

/-! ## The schemas of the bus -/

/-- Every payload of the bus is known to the bus. -/
theorem Schemas.core_get? : ∀ kind ∈ PayloadKind.all,
    core.get? kind.messageType = some (.ofPayload kind) := by
  simp only [PayloadKind.all, List.forall_mem_cons]
  exact ⟨rfl, rfl, rfl, rfl, rfl, rfl, rfl, rfl, rfl, rfl, rfl, rfl, rfl, rfl, rfl, rfl, rfl,
    List.forall_mem_nil _⟩

/-- What is expected of a type suits a payload: it has the expected size and, if both sides tell
their hash, the expected hash. -/
def SchemaEntry.Suits (entry : SchemaEntry) (kind : PayloadKind) : Prop :=
  entry.size = kind.size ∧
    (entry.hash = 0 ∨ definitionHash kind.definition = 0 ∨
      entry.hash = definitionHash kind.definition)

instance (entry : SchemaEntry) (kind : PayloadKind) : Decidable (entry.Suits kind) :=
  inferInstanceAs (Decidable (_ ∧ _))

/-- The bus expects of its payloads what they are. -/
theorem SchemaEntry.suits_ofPayload (kind : PayloadKind) : (ofPayload kind).Suits kind :=
  ⟨rfl, Or.inr (Or.inr rfl)⟩

/-- What is said about a header of a known type that announces a payload: it has to have the
expected size, and where both sides tell their hash the hashes must not differ. -/
theorem Schemas.validate_of_sized {schemas : Schemas} {header : Header} {entry : SchemaEntry}
    {size : Nat} (known : schemas.get? header.messageType = some entry)
    (sized : header.dataBytes.toInt = size) :
    schemas.validate header =
      if size ≠ entry.size then .error (.sizeMismatch header.messageType entry.size size)
      else if header.version = 0 ∨ entry.hash = 0 ∨ header.version = entry.hash then .ok ()
      else .error (.versionMismatch header.messageType entry.hash header.version) := by
  have positive : ¬ header.dataBytes < 0 := by
    intro negative
    have below := Int32.lt_iff_toInt_lt.mp negative
    rw [sized] at below
    exact absurd below (by simp)
  have length : header.payloadLength = size := by
    unfold Header.payloadLength
    rw [sized]
    exact Int.toNat_natCast _
  unfold validate
  rw [known]
  dsimp only
  rw [length]
  refine if_congr (by simp [positive]) rfl ?_
  by_cases passes : header.version = 0 ∨ entry.hash = 0 ∨ header.version = entry.hash
  · rw [if_pos passes, if_neg]
    simp only [Bool.and_eq_true, bne_iff_ne, ne_eq]
    tauto
  · rw [if_neg passes, if_pos]
    simp only [Bool.and_eq_true, bne_iff_ne, ne_eq]
    tauto

/-- A payload that is tagged as what it is agrees with the schemas if what they expect of its
type suits it, and not otherwise. -/
theorem Schemas.validate_eq_ok_iff {schemas : Schemas} {header : Header} (kind : PayloadKind)
    (named : header.messageType = kind.messageType)
    (tagged : header.version = definitionHash kind.definition)
    (sized : header.dataBytes.toInt = kind.size) :
    schemas.validate header = .ok () ↔
      ∀ entry ∈ schemas.get? kind.messageType, entry.Suits kind := by
  rw [← named]
  cases found : schemas.get? header.messageType with
  | none =>
      unfold validate
      rw [found]
      exact iff_of_true rfl (fun _ none => nomatch none)
  | some entry =>
      have only : (∀ found ∈ some entry, found.Suits kind) ↔ entry.Suits kind := by simp
      rw [only, validate_of_sized found sized, tagged]
      split
      · next different => exact iff_of_false nofun fun suits => different suits.1.symm
      · next same =>
        have size : entry.size = kind.size := (not_not.mp same).symm
        split
        · next agrees => exact iff_of_true rfl ⟨size, by tauto⟩
        · next contradicts =>
          refine iff_of_false nofun fun suits => contradicts ?_
          rcases suits.2 with untold | untold | same
          · exact Or.inr (Or.inl untold)
          · exact Or.inl untold
          · exact Or.inr (Or.inr same.symm)

namespace Request

variable {heard : Message}

/-- A payload that is tagged as what it is agrees with the schemas. -/
theorem checkedPayload_of_own [Payload α] {payload : α}
    (known : PayloadKind.of α ∈ PayloadKind.all)
    (kind : heard.messageType = Payload.messageType α)
    (tagged : heard.header.version = Payload.hash α)
    (sized : heard.header.dataBytes.toInt = Payload.size α)
    (bytes : heard.payload = Payload.encode payload) :
    checkedPayload α Schemas.core heard = .ok payload := by
  have agrees : Schemas.core.validate heard.header = .ok () := by
    refine (Schemas.validate_eq_ok_iff (.of α) kind tagged sized).mpr fun entry found => ?_
    rw [Schemas.core_get? _ known] at found
    exact Option.some.inj found ▸ SchemaEntry.suits_ofPayload _
  unfold checkedPayload
  rw [agrees]
  exact Message.decodePayload_of_bytes bytes

/-- A payload that agrees with the schemas can be read. -/
theorem checkedPayload_of_valid [Payload α] (known : PayloadKind.of α ∈ PayloadKind.all)
    (kind : heard.messageType = Payload.messageType α)
    (valid : Schemas.core.validate heard.header = .ok ())
    (framed : heard.header.payloadLength = heard.payload.length) :
    ∃ payload, checkedPayload α Schemas.core heard = .ok payload := by
  have entry : Schemas.core.get? heard.header.messageType =
      some (.ofPayload (PayloadKind.of α)) := by
    have same : heard.header.messageType = (PayloadKind.of α).messageType := kind
    rw [same]
    exact Schemas.core_get? _ known
  have size : heard.payload.length = Payload.size α := by
    have checked := valid
    unfold Schemas.validate at checked
    rw [entry] at checked
    dsimp only at checked
    split at checked
    · cases checked
    · next sized =>
      rw [Bool.or_eq_true, not_or, bne_iff_ne, ne_eq, not_not] at sized
      exact framed.symm.trans sized.2
  unfold checkedPayload Message.decodePayload
  rw [valid, Payload.decode, if_pos size]
  exact ⟨_, rfl⟩

/-- What is understood of a payload is understood if the message agrees with the schemas. -/
theorem bind_of_valid [Payload α] (known : PayloadKind.of α ∈ PayloadKind.all)
    (kind : heard.messageType = Payload.messageType α)
    (valid : Schemas.core.validate heard.header = .ok ())
    (framed : heard.header.payloadLength = heard.payload.length)
    {finish : α -> Except ProtocolError Request} {holds : Except ProtocolError Request -> Prop}
    (each : ∀ payload, holds (finish payload)) :
    holds (checkedPayload α Schemas.core heard >>= finish) := by
  rcases checkedPayload_of_valid known kind valid framed with ⟨payload, checked⟩
  rw [checked]
  exact each payload

/-- Whether a message was understood, or has an empty name. -/
def IsUnderstood (answer : Except ProtocolError Request) : Prop :=
  (∃ request, answer = .ok request) ∨ answer = .error (.invalidName "empty name")

theorem isUnderstood_ok (request : Request) : IsUnderstood (.ok request) :=
  Or.inl ⟨request, rfl⟩

/-- A framed message that agrees with the schemas has a payload of the right size. -/
theorem isUnderstood_of_valid (valid : Schemas.core.validate heard.header = .ok ())
    (framed : heard.header.payloadLength = heard.payload.length) :
    IsUnderstood (classify Schemas.core heard) := by
  have read := fun {α : Type} [Payload α] (known : PayloadKind.of α ∈ PayloadKind.all)
      (kind : heard.messageType = Payload.messageType α) (request : α -> Request) =>
    bind_of_valid known kind valid framed fun payload => isUnderstood_ok (request payload)
  unfold classify
  dsimp only
  split
  · next kind =>
    split
    · exact isUnderstood_ok _
    · exact read (α := Connect) (by simp [PayloadKind.all]) kind _
  split
  · exact isUnderstood_ok _
  split
  · next kind => exact read (α := Subscribe) (by simp [PayloadKind.all]) kind _
  split
  · next kind => exact read (α := Unsubscribe) (by simp [PayloadKind.all]) kind _
  split
  · next kind => exact read (α := PauseSubscription) (by simp [PayloadKind.all]) kind _
  split
  · next kind => exact read (α := ResumeSubscription) (by simp [PayloadKind.all]) kind _
  split
  · next kind => exact read (α := ModuleReady) (by simp [PayloadKind.all]) kind _
  split
  · next kind =>
    refine bind_of_valid (α := ClientSetName) (by simp [PayloadKind.all]) kind valid framed
      fun payload => ?_
    split
    · exact Or.inr rfl
    · exact isUnderstood_ok _
  · exact isUnderstood_ok _

end Request

/-- The payload of a module that presents itself, with its name in a field. -/
def Connect.ofFlags (logger daemon unique : Bool) (pid : Int32)
    (name : Text.Field Limit.nameWidth) : Connect where
  loggerStatus := if logger then 1 else 0
  daemonStatus := if daemon then 1 else 0
  allowMultiple := if unique then 0 else 1
  reserved := 0
  pid
  name

namespace Request

theorem ofConnect_of_flags {logger daemon unique : Bool} {pid : Int32}
    {field : Text.Field Limit.nameWidth} {name : String} {requestedId : ModuleId}
    (reads : field.text = name) :
    ofConnect requestedId (.ofFlags logger daemon unique pid field) =
      ⟨requestedId, logger, daemon, unique, pid, if name.isEmpty then none else some name⟩ := by
  have named : (Connect.ofFlags logger daemon unique pid field).name? =
      if name.isEmpty then none else some name := by
    unfold Connect.name? Connect.ofFlags
    rw [reads]
  unfold ofConnect
  rw [named]
  cases logger <;> cases daemon <;> cases unique <;> rfl

variable {heard : Message}

/-- Nothing is wrong with a goodbye. -/
theorem classify_disconnect (schemas : Schemas) (kind : heard.messageType = MessageType.disconnect) :
    classify schemas heard = .ok .disconnect := by
  unfold classify
  rw [kind]
  rfl

end Request

/-! ## Reading what was sent -/

namespace Frame.Reader

variable {format : Format} {limit : Nat} {receiveTime : UInt64} {message heard : Message}
  {bytes rest : Bytes}

/-- A message is read from its frame, with the timecode that was written if it had none. -/
theorem take_sent (length : message.header.dataBytes.toInt = message.payload.length)
    (within : message.payload.length ≤ limit) (present : Timecode) (later : Bytes) :
    take receiveTime (start format limit) (message.encode format present ++ later) =
      .message { message.atTime receiveTime with
        timecode := format.timed present message.timecode } later := by
  let sent : Message := { message with timecode := format.timed present message.timecode }
  have placed : sent.timecode.isSome = format.hasTimecode :=
    format.isSome_timed present message.timecode
  have framed : sent.IsFramed format limit := ⟨length, within, fun has => placed.trans has⟩
  have same : sent.encode format present = message.encode format present :=
    congrArg (· ++ message.payload)
      (format.encodeHead_timed present message.header message.timecode)
  rw [← same, take_framed framed present later, Message.received_eq placed]
  rfl

/-- A message that was read has as much payload as its header says. -/
theorem framed_of_taken (taken : take receiveTime (start format limit) bytes = .message heard rest) :
    heard.header.payloadLength = heard.payload.length := by
  rcases framed_or_halts format limit {} bytes with
    ⟨sent, later, rfl, framed, placed⟩ | ⟨error, unread, halts⟩
  · rw [take_framed framed] at taken
    cases taken
    exact framed.payloadLength_eq
  · have refuses := take_halts halts receiveTime
    rw [taken] at refuses
    cases refuses

end Frame.Reader

/-! ## Asking -/

namespace Client

/-- What a client asks of the manager for its module. -/
inductive Ask where
  | connect (introduction : Introduction)
  | disconnect
  | subscribe (messageType : MessageType)
  | unsubscribe (messageType : MessageType)
  | pause (messageType : MessageType)
  | resume (messageType : MessageType)
  | announceReady
  | rename (name : String)
deriving DecidableEq, Repr

namespace Ask

/-- The message that asks for it. -/
def message? (client : Client) : Ask -> Except Text.TooLong Message
  | .connect introduction => do
      let { isLogger, isDaemon, isUnique, name } := introduction
      let payload ← Connect.ofFlags? isLogger isDaemon isUnique client.pid name
      return Message.ofPayload client.clock payload
  | .disconnect => .ok (Message.signal client.clock MessageType.disconnect)
  | .subscribe messageType => .ok (Message.ofPayload client.clock (Subscribe.mk messageType))
  | .unsubscribe messageType => .ok (Message.ofPayload client.clock (Unsubscribe.mk messageType))
  | .pause messageType => .ok (Message.ofPayload client.clock (PauseSubscription.mk messageType))
  | .resume messageType => .ok (Message.ofPayload client.clock (ResumeSubscription.mk messageType))
  | .announceReady => .ok (Message.ofPayload client.clock (ModuleReady.mk client.pid))
  | .rename name => do
      let name ← Text.Field.ofText? Limit.nameWidth name
      return Message.ofPayload client.clock (ClientSetName.mk name)

/-- What the manager is to understand. -/
def request (client : Client) : Ask -> Request
  | .connect introduction =>
      .connect {
        requestedId := client.moduleId
        logger := introduction.isLogger
        daemon := introduction.isDaemon
        unique := introduction.isUnique
        pid := client.pid
        name := if introduction.name.isEmpty then none else some introduction.name }
  | .disconnect => .disconnect
  | .subscribe messageType => .subscribe messageType
  | .unsubscribe messageType => .unsubscribe messageType
  | .pause messageType => .pause messageType
  | .resume messageType => .resume messageType
  | .announceReady => .moduleReady client.pid
  | .rename name => .setName name

/-- A name can be told to the manager if it stands in its field as it is, and it can be a new
name if it is one. -/
def IsValid : Ask -> Prop
  | .connect introduction => Text.Field.Holds Limit.nameWidth introduction.name
  | .rename name => Text.Field.Holds Limit.nameWidth name ∧ name.isEmpty = false
  | _ => True

/-- Whether a client that makes its request posts this message. -/
def IsPosted (client : Client) (message : Message) : Ask -> Prop
  | .connect introduction => ∀ (caller : Client) (rest : List Step),
      caller.present introduction = client ->
        caller.introduce introduction rest = client.post message 0 0 rest
  | .disconnect => Posts .disconnect
  | .subscribe messageType => Posts (.subscribe [messageType])
  | .unsubscribe messageType => Posts (.unsubscribe [messageType])
  | .pause messageType => Posts (.pause [messageType])
  | .resume messageType => Posts (.resume [messageType])
  | .announceReady => Posts .announceReady
  | .rename name => Posts (.rename name)
where
  Posts (call : Call) : Prop :=
    client.isConnected = true -> ∃ rest, ∀ now, client.begin now call = client.post message 0 0 rest

end Ask

variable {client : Client} {message : Message} {request : Request}

/-- Whoever reads the frame of a message, whatever follows it, understands it as a request. -/
def Recovers (client : Client) (message : Message) (request : Request) : Prop :=
  ∀ (module : ModuleId) (host : HostId) (frame : Bytes),
    client.frame message module host = .ok frame ->
      ∀ (receiveTime : UInt64) (limit : Nat) (later : Bytes), message.payload.length ≤ limit ->
        ∃ heard, Frame.Reader.take receiveTime (.start client.settings.format limit)
            (frame ++ later) = .message heard later ∧
          Request.classify Schemas.core heard = .ok request

theorem eq_of_frame {module : ModuleId} {host : HostId} {frame : Bytes}
    (framed : client.frame message module host = .ok frame) :
    frame = (client.stamp message module host).encode client.settings.format
      client.clock.timecode := by
  unfold Client.frame at framed
  repeat' split at framed
  all_goals cases framed
  rfl

/-- What is still known of a message when it is heard. -/
structure IsHeard (client : Client) (message heard : Message) : Prop where
  messageType : heard.messageType = message.messageType
  version : heard.header.version = message.header.version
  dataBytes : heard.header.dataBytes = message.header.dataBytes
  source : heard.header.sourceModule = client.moduleId
  payload : heard.payload = message.payload

theorem recovers (length : message.header.dataBytes.toInt = message.payload.length)
    (understood : ∀ heard, IsHeard client message heard ->
      Request.classify Schemas.core heard = .ok request) : Recovers client message request := by
  intro module host frame framed receiveTime limit later within
  have sent : (client.stamp message module host).header.dataBytes.toInt =
      (client.stamp message module host).payload.length := length
  rw [eq_of_frame framed]
  exact ⟨_, Frame.Reader.take_sent sent within _ later, understood _ ⟨rfl, rfl, rfl, rfl, rfl⟩⟩

/-- A payload that a client can send is understood as a request if its record is. -/
theorem recovers_ofPayload [Payload α] {payload : α} (known : PayloadKind.of α ∈ PayloadKind.all)
    (small : Payload.size α ≤ Limit.clientPayload)
    (understood : ∀ heard : Message, heard.messageType = Payload.messageType α ->
      heard.header.sourceModule = client.moduleId -> heard.payload.length = Payload.size α ->
        Request.checkedPayload α Schemas.core heard = .ok payload ->
          Request.classify Schemas.core heard = .ok request) :
    let message := Message.ofPayload client.clock payload
    message.payload.length ≤ Limit.clientPayload ∧ Recovers client message request := by
  intro message
  have bytes : message.payload.length = Payload.size α := Payload.length_encode payload
  have length : message.header.dataBytes.toInt = Payload.size α := by
    show (Int32.ofNat (Payload.encode payload).length).toInt = _
    rw [Payload.length_encode]
    exact Int32.toInt_ofNat_of_lt (Nat.lt_of_le_of_lt small (by decide))
  refine ⟨bytes ▸ small, recovers (by rw [length, bytes]) fun heard here => ?_⟩
  refine understood heard here.messageType here.source (here.payload ▸ bytes) ?_
  exact Request.checkedPayload_of_own known here.messageType here.version
    ((congrArg Int32.toInt here.dataBytes).trans length) here.payload

/-- For most payloads it is enough to know what is made of them. -/
theorem recovers_ofReading [Payload α] {payload : α} (known : PayloadKind.of α ∈ PayloadKind.all)
    (small : Payload.size α ≤ Limit.clientPayload)
    {finish : α -> Except ProtocolError Request} (reads : Request.ReadsAs finish)
    (means : finish payload = .ok request) :
    let message := Message.ofPayload client.clock payload
    message.payload.length ≤ Limit.clientPayload ∧ Recovers client message request := by
  refine recovers_ofPayload known small fun heard kind _ _ checked => ?_
  rw [reads Schemas.core heard kind, checked]
  exact means

/-- What is not too large for a client can be written to the manager. -/
theorem exists_frame (connected : client.isConnected = true)
    (small : message.payload.length ≤ Limit.clientPayload) :
    ∃ frame, client.frame message 0 0 = .ok frame := by
  have module : isModuleAddress 0 = true := by decide
  have host : isHostAddress 0 = true := by decide
  unfold Client.frame
  rw [connected, module, host]
  exact ⟨_, if_neg (Nat.not_lt.mpr small)⟩

namespace Ask

/-- A request about one type is posted first of all. -/
theorem posts_of_changeStanding [Payload α] {call : Call} {messageType : MessageType}
    {make : MessageType -> α} {standing : Standing}
    (asks : client.steps call = client.changeStanding [messageType] make standing) :
    IsPosted.Posts client (Message.ofPayload client.clock (make messageType)) call := by
  intro connected
  refine ⟨[.mark messageType standing, client.confirmation .progress], fun now => ?_⟩
  unfold begin
  rw [asks, changeStanding, if_pos connected]
  rfl

theorem exists_recovered (client : Client) {ask : Ask} (valid : ask.IsValid) :
    ∃ message, ask.message? client = .ok message ∧ ask.IsPosted client message ∧
      message.payload.length ≤ Limit.clientPayload ∧
        Recovers client message (ask.request client) := by
  cases ask with
  | connect introduction =>
      rcases valid.text_ofText? with ⟨name, fits, reads⟩
      have made : Connect.ofFlags? introduction.isLogger introduction.isDaemon
          introduction.isUnique client.pid introduction.name =
            .ok (.ofFlags introduction.isLogger introduction.isDaemon introduction.isUnique
              client.pid name) := by
        unfold Connect.ofFlags?
        rw [fits]
        rfl
      refine ⟨_, by unfold message?; dsimp only; rw [made]; rfl, ?_,
        recovers_ofPayload (by simp [PayloadKind.all]) (by decide) ?_⟩
      · rintro caller rest rfl
        unfold introduce
        dsimp only
        rw [made]
      · intro heard kind source sized checked
        have connects : heard.messageType = MessageType.connect := kind
        have long : ¬ heard.payload.length = Request.legacyConnectSize := by
          rw [sized]
          decide
        unfold Request.classify
        dsimp only
        rw [if_pos connects, if_neg long, checked, source]
        exact congrArg (Except.ok ∘ Request.connect) (Request.ofConnect_of_flags reads)
  | disconnect =>
      refine ⟨_, rfl, ?_, Nat.zero_le _, recovers rfl fun heard here => ?_⟩
      · intro connected
        refine ⟨[.hangUp], fun now => ?_⟩
        unfold begin steps
        simp only [connected, if_true]
        rfl
      · exact Request.classify_disconnect _ here.messageType
  | subscribe messageType =>
      exact ⟨_, rfl, posts_of_changeStanding rfl,
        recovers_ofReading (by simp [PayloadKind.all]) (by decide) Request.readsAs_subscribe rfl⟩
  | unsubscribe messageType =>
      exact ⟨_, rfl, posts_of_changeStanding rfl,
        recovers_ofReading (by simp [PayloadKind.all]) (by decide) Request.readsAs_unsubscribe rfl⟩
  | pause messageType =>
      exact ⟨_, rfl, posts_of_changeStanding rfl,
        recovers_ofReading (by simp [PayloadKind.all]) (by decide) Request.readsAs_pause rfl⟩
  | resume messageType =>
      exact ⟨_, rfl, posts_of_changeStanding rfl,
        recovers_ofReading (by simp [PayloadKind.all]) (by decide) Request.readsAs_resume rfl⟩
  | announceReady =>
      exact ⟨_, rfl, fun _ => ⟨[], fun now => rfl⟩,
        recovers_ofReading (by simp [PayloadKind.all]) (by decide) Request.readsAs_moduleReady rfl⟩
  | rename name =>
      rcases valid with ⟨holds, nonempty⟩
      rcases holds.text_ofText? with ⟨field, fits, reads⟩
      refine ⟨_, by unfold message?; dsimp only; rw [fits]; rfl,
        fun _ => ⟨[client.confirmation .progress], fun now => ?_⟩,
        recovers_ofReading (by simp [PayloadKind.all]) (by decide) Request.readsAs_setName ?_⟩
      · unfold begin steps
        dsimp only
        rw [nonempty, fits]
        rfl
      · dsimp only
        rw [reads, nonempty]
        rfl

/-- The manager understands what a client has asked for.  The client has a message for every
request that it can make, posts this message when it is called, and can write its frame;
whoever reads the frame with the schemas of the bus understands the same request.  And of any
message that is cut out of a stream: if it agrees with the schemas, it is understood or has an
empty name; if it is understood as a request, it has one of the eight types; and a goodbye is
understood whatever is in it. -/
theorem recovered :
    (∀ (client : Client) (ask : Ask), ask.IsValid ->
      ∃ message, ask.message? client = .ok message ∧ ask.IsPosted client message ∧
        (client.isConnected = true -> ∃ frame, client.frame message 0 0 = .ok frame) ∧
        Recovers client message (ask.request client)) ∧
      ∀ (receiveTime : UInt64) (format : Format) (limit : Nat) (bytes rest : Bytes)
        (heard : Message),
        Frame.Reader.take receiveTime (.start format limit) bytes = .message heard rest ->
          (Schemas.core.validate heard.header = .ok () ->
            (∃ request, Request.classify Schemas.core heard = .ok request) ∨
              Request.classify Schemas.core heard = .error (.invalidName "empty name")) ∧
          (∀ request, Request.classify Schemas.core heard = .ok request -> request ≠ .other ->
            Request.isControl heard.messageType = true) ∧
          (heard.messageType = MessageType.disconnect ->
            Request.classify Schemas.core heard = .ok .disconnect) := by
  constructor
  · intro client ask valid
    rcases exists_recovered client valid with ⟨message, made, posted, small, recovers⟩
    exact ⟨message, made, posted, fun connected => exists_frame connected small, recovers⟩
  · intro receiveTime format limit bytes rest heard taken
    refine ⟨fun valid => ?_, fun request understood asks => ?_, ?_⟩
    · exact Request.isUnderstood_of_valid valid (Frame.Reader.framed_of_taken taken)
    · refine Bool.eq_true_of_not_eq_false fun application => asks ?_
      have other := (Request.classify_eq_other_iff Schemas.core heard).mpr application
      exact Except.ok.inj (understood.symm.trans other)
    · exact Request.classify_disconnect Schemas.core

/-- A logger with a number of its own and a name that asks to be let in, and a goodbye with a
payload that nobody has asked for. -/
theorem recovered_of_logger :
    let client : Client :=
      { settings := { moduleId := 7, format := .timecode }, pid := 1, clock := {}, moduleId := 7
        line := some { server := ⟨.v4 [127, 0, 0, 1], 7111, 0⟩ } }
    let asked := Ask.connect { isLogger := true, name := "café" }
    let goodbye := Message.new {} MessageType.disconnect [1, 2, 3]
    asked.IsValid ∧ client.isConnected = true ∧
      (∃ message frame, asked.message? client = .ok message ∧
        client.frame message 0 0 = .ok frame ∧ message.payload.length = 44 ∧
        ∃ heard, Frame.Reader.take 0 (.start .timecode 44) (frame ++ [1]) = .message heard [1] ∧
          Request.classify Schemas.core heard = .ok (.connect
            { requestedId := 7, logger := true, daemon := false, unique := true, pid := 1
              name := some "café" })) ∧
      ∃ heard, Frame.Reader.take 0 (.start .standard 3) (goodbye.encode .standard {} ++ [1]) =
          .message heard [1] ∧
        Request.classify Schemas.core heard = .ok .disconnect := by
  intro client asked goodbye
  have valid : asked.IsValid := ⟨by decide +kernel, by decide⟩
  have connected : client.isConnected = true := rfl
  rcases recovered with ⟨asking, hearing⟩
  rcases asking client asked valid with ⟨message, made, _, framed, recovers⟩
  rcases framed connected with ⟨frame, framed⟩
  have size : message.payload.length = 44 := by
    cases made
    rfl
  rcases recovers 0 0 frame framed 0 44 [1] (Nat.le_of_eq size) with ⟨heard, taken, understood⟩
  refine ⟨valid, connected, ⟨message, frame, made, framed, size, heard, taken, understood⟩, ?_⟩
  have arrives : ∃ heard, Frame.Reader.take 0 (.start .standard 3)
      (goodbye.encode .standard {} ++ [1]) = .message heard [1] ∧
        heard.messageType = MessageType.disconnect :=
    ⟨_, Frame.Reader.take_sent rfl (Nat.le_refl 3) {} [1], rfl⟩
  rcases arrives with ⟨last, taken, isGoodbye⟩
  exact ⟨last, taken, (hearing 0 .standard 3 _ [1] last taken).2.2 isGoodbye⟩

end Ask

end Client

end MessageBus
