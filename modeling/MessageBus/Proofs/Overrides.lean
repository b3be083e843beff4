import MessageBus.Proofs.Invariant
import MessageBus.Proofs.Recovery

namespace MessageBus

open Wire

/-!
# What a configuration leaves of the protocol

Whoever sets up a manager may change two things that its protocol needs.  The limit for payloads
holds for requests as for everything else, and below the size of a request the request is not
read.  And what a configuration says about a message type takes the place of what is known about
it, also of a type that the bus has defined itself.  Validation looks at neither, for both are for
the operator to decide.

Nothing else in a configuration can keep a module from asking.  A request that it makes with a
payload is read exactly if the payload is within the limit, and understood exactly if the last
schema of the configuration for its type, should there be one, suits the payload
(`Config.serves_protocol`).  For the other types a configuration may list what it likes.
-/

/-! ## Looking up what was put in -/

namespace Schemas

/-- An entry is found under its own type, and changes nothing for the others. -/
theorem get?_insert (schemas : Schemas) (entry : SchemaEntry) (id : MessageType) :
    (schemas.insert entry).get? id = if entry.id == id then some entry else schemas.get? id := by
  show (insertEntry entry schemas.entries).find? (·.id == id) = _
  unfold get?
  -- Nothing is asked of the order: the place of an entry is in front of all others of its type.
  induction schemas.entries with
  | nil => exact List.find?_singleton ..
  | cons first rest ih =>
      unfold insertEntry
      cases own : entry.id == id with
      | true =>
          rw [own, if_pos rfl] at ih
          rw [if_pos rfl]
          split
          · exact List.find?_cons_of_pos own
          · split
            · exact List.find?_cons_of_pos own
            · next different =>
              have other : ¬ (first.id == id) = true := fun same =>
                different ((beq_iff_eq.mp own).trans (beq_iff_eq.mp same).symm)
              exact Eq.trans (List.find?_cons_of_neg other) ih
      | false =>
          have other : ¬ (entry.id == id) = true := Bool.eq_false_iff.mp own
          rw [own, if_neg Bool.false_ne_true] at ih
          rw [if_neg Bool.false_ne_true]
          split
          · exact List.find?_cons_of_neg other
          · split
            · next same =>
              rw [List.find?_cons, List.find?_cons, ← same, own]
            · rw [List.find?_cons, List.find?_cons, ih]

/-- Of several entries for a type the last one is found. -/
theorem get?_insertAll (schemas : Schemas) (entries : List SchemaEntry) (id : MessageType) :
    (schemas.insertAll entries).get? id =
      (entries.reverse.find? (·.id == id)).or (schemas.get? id) := by
  induction entries generalizing schemas with
  | nil => rfl
  | cons entry rest ih =>
      have later : schemas.insertAll (entry :: rest) = (schemas.insert entry).insertAll rest := rfl
      rw [later, ih, get?_insert, List.reverse_cons, List.find?_append, Option.or_assoc,
        List.find?_singleton]
      split <;> rfl

end Schemas

namespace Config

variable {config : Config} {kind : PayloadKind}

/-- What the configuration says about a type in the end. -/
def schema? (config : Config) (id : MessageType) : Option SchemaSettings :=
  config.schemas.reverse.find? (·.id == id)

/-- What the configuration says about the type of a payload suits the payload. -/
def Suits (config : Config) (kind : PayloadKind) : Prop :=
  ∀ schema ∈ config.schema? kind.messageType, schema.entry.Suits kind

instance (config : Config) (kind : PayloadKind) : Decidable (config.Suits kind) :=
  inferInstanceAs (Decidable (∀ schema ∈ config.schema? kind.messageType, schema.entry.Suits kind))

/-- What the configuration says goes before what the bus knows. -/
theorem get?_knownSchemas (config : Config) (id : MessageType) :
    config.knownSchemas.get? id =
      ((config.schema? id).map SchemaSettings.entry).or (Schemas.core.get? id) := by
  unfold knownSchemas schema?
  rw [Schemas.get?_insertAll, ← List.map_reverse, List.find?_map]
  rfl

theorem suits_iff (known : kind ∈ PayloadKind.all) :
    (∀ entry ∈ config.knownSchemas.get? kind.messageType, entry.Suits kind) ↔
      config.Suits kind := by
  rw [get?_knownSchemas, Schemas.core_get? kind known]
  unfold Suits
  cases config.schema? kind.messageType with
  | none => simp [SchemaEntry.suits_ofPayload]
  | some schema => simp

end Config

/-! ## Requests that carry a payload -/

/-- What a module asks of the manager with a payload of the bus. -/
inductive Petition where
  | connect (payload : Connect)
  | subscribe (payload : Subscribe)
  | unsubscribe (payload : Unsubscribe)
  | pause (payload : PauseSubscription)
  | resume (payload : ResumeSubscription)
  | moduleReady (payload : ModuleReady)
  | setName (payload : ClientSetName)

namespace Message

/-- A message is one around this payload, whoever has sent it to whom and when. -/
structure Carries [Payload α] (message : Message) (payload : α) : Prop where
  kind : message.messageType = Payload.messageType α
  tagged : message.header.version = Payload.hash α
  sized : message.header.dataBytes.toInt = Payload.size α
  bytes : message.payload = Payload.encode payload

variable [Payload α] {payload : α} {message heard : Message}

theorem carries_ofPayload (small : Payload.size α < 2 ^ 31) (clock : ClockReading) (payload : α) :
    (ofPayload clock payload).Carries payload where
  kind := rfl
  tagged := rfl
  sized := by
    show (Int32.ofNat (Payload.encode payload).length).toInt = _
    rw [Payload.length_encode]
    exact Int32.toInt_ofNat_of_lt small
  bytes := rfl

namespace Carries

theorem length_payload (carries : message.Carries payload) :
    message.payload.length = Payload.size α := by
  rw [carries.bytes, Payload.length_encode]

/-- It is understood as what is made of its payload, if it agrees with the schemas. -/
theorem classify_eq_ok_iff (carries : heard.Carries payload) {schemas : Schemas}
    {finish : α -> Except ProtocolError Request} {request : Request}
    (reads : Request.classify schemas heard =
      Request.checkedPayload α schemas heard >>= finish)
    (means : finish payload = .ok request) (answer : Request) :
    Request.classify schemas heard = .ok answer ↔
      answer = request ∧
        ∀ entry ∈ schemas.get? (PayloadKind.of α).messageType, entry.Suits (.of α) := by
  have agrees : schemas.validate heard.header = .ok () ↔ _ :=
    Schemas.validate_eq_ok_iff (.of α) carries.kind carries.tagged carries.sized
  rw [reads, ← agrees]
  unfold Request.checkedPayload
  cases schemas.validate heard.header with
  | error error => exact iff_of_false nofun fun both => nomatch both.2
  | ok =>
      rw [decodePayload_of_bytes carries.bytes]
      show finish payload = .ok answer ↔ _
      rw [means, Except.ok.injEq, eq_comm]
      exact (and_iff_left rfl).symm

end Carries

end Message

namespace Petition

/-- The kind of payload that it comes in. -/
def kind : Petition -> PayloadKind
  | .connect _ => .of Connect
  | .subscribe _ => .of Subscribe
  | .unsubscribe _ => .of Unsubscribe
  | .pause _ => .of PauseSubscription
  | .resume _ => .of ResumeSubscription
  | .moduleReady _ => .of ModuleReady
  | .setName _ => .of ClientSetName

instance (petition : Petition) : Payload petition.kind.carrier :=
  petition.kind.payload

def payload : (petition : Petition) -> petition.kind.carrier
  | .connect payload => payload
  | .subscribe payload => payload
  | .unsubscribe payload => payload
  | .pause payload => payload
  | .resume payload => payload
  | .moduleReady payload => payload
  | .setName payload => payload

/-- The message that asks for it. -/
def message (clock : ClockReading) (petition : Petition) : Message :=
  .ofPayload clock petition.payload

/-- What the manager is to understand, from a module that gives itself this number. -/
def request (source : ModuleId) : Petition -> Request
  | .connect payload => .connect (Request.ofConnect source payload)
  | .subscribe payload => .subscribe payload.messageType
  | .unsubscribe payload => .unsubscribe payload.messageType
  | .pause payload => .pause payload.messageType
  | .resume payload => .resume payload.messageType
  | .moduleReady payload => .moduleReady payload.pid
  | .setName payload => .setName payload.name.text

/-- A new name has to be one. -/
def IsValid : Petition -> Prop
  | .setName payload => payload.name.text.isEmpty = false
  | .connect _ | .subscribe _ | .unsubscribe _ | .pause _ | .resume _ | .moduleReady _ => True

theorem kind_mem_all (petition : Petition) : petition.kind ∈ PayloadKind.all := by
  cases petition <;> simp [kind, PayloadKind.all]

theorem size_small (petition : Petition) : petition.kind.size < 2 ^ 31 := by
  have small : ∀ kind ∈ PayloadKind.all, kind.size < 2 ^ 31 := by
    simp only [PayloadKind.all, List.forall_mem_cons]
    decide
  exact small _ petition.kind_mem_all

/-- A CONNECT with a payload is not one of the older form. -/
theorem classify_connect {schemas : Schemas} {heard : Message} {payload : Connect}
    (carries : heard.Carries payload) :
    Request.classify schemas heard = Request.checkedPayload Connect schemas heard >>=
      fun payload => .ok (.connect (Request.ofConnect heard.header.sourceModule payload)) := by
  have connects : heard.messageType = MessageType.connect := carries.kind
  have long : ¬ heard.payload.length = Request.legacyConnectSize := by
    rw [carries.length_payload]
    decide
  unfold Request.classify
  dsimp only
  rw [if_pos connects, if_neg long]
  rfl

/-- It is understood as what it is, if it agrees with the schemas. -/
theorem classify_eq_ok_iff {petition : Petition} (valid : petition.IsValid) {heard : Message}
    (carries : heard.Carries petition.payload) (schemas : Schemas) (answer : Request) :
    Request.classify schemas heard = .ok answer ↔
      answer = petition.request heard.header.sourceModule ∧
        ∀ entry ∈ schemas.get? petition.kind.messageType, entry.Suits petition.kind := by
  cases petition with
  | connect payload => exact carries.classify_eq_ok_iff (classify_connect carries) rfl answer
  | subscribe payload =>
      exact carries.classify_eq_ok_iff (Request.readsAs_subscribe _ _ carries.kind) rfl answer
  | unsubscribe payload =>
      exact carries.classify_eq_ok_iff (Request.readsAs_unsubscribe _ _ carries.kind) rfl answer
  | pause payload =>
      exact carries.classify_eq_ok_iff (Request.readsAs_pause _ _ carries.kind) rfl answer
  | resume payload =>
      exact carries.classify_eq_ok_iff (Request.readsAs_resume _ _ carries.kind) rfl answer
  | moduleReady payload =>
      exact carries.classify_eq_ok_iff (Request.readsAs_moduleReady _ _ carries.kind) rfl answer
  | setName payload =>
      have named : ¬ payload.name.text.isEmpty = true := Bool.eq_false_iff.mp valid
      exact carries.classify_eq_ok_iff (Request.readsAs_setName _ _ carries.kind) (if_neg named)
        answer

end Petition

/-! ## Within the limit and beyond it -/

/-- The payload of a message that is too long is not read. -/
theorem Frame.Reader.take_encode_of_tooLarge {format : Format} {limit : Nat} {receiveTime : UInt64}
    {message : Message} (tooLong : limit < message.header.payloadLength) (present : Timecode)
    (later : Bytes) :
    take receiveTime (start format limit) (message.encode format present ++ later) =
      .refused (.payloadTooLarge message.messageType message.header.payloadLength limit)
        (message.payload ++ later) := by
  have decoded := Wire.readHead_encodeHead format present message.header message.timecode
  unfold Message.encode
  rw [List.append_assoc, take_of_tooLarge decoded tooLong]
  rfl

/-- Whatever a configuration says, a request of a module is read if its payload is within the
limit, and turned down as too large otherwise.  If it was read, it is understood as what it is, if
the configuration says nothing about its type or something that suits it, and otherwise it is not
understood at all.  Nothing else in a configuration has a say in it. -/
theorem Config.serves_protocol (config : Config) {petition : Petition} (proper : petition.IsValid)
    (sent : ClockReading) (source destination : ModuleId) (sourceHost destinationHost : HostId)
    (present : Timecode) (receiveTime : UInt64) (later : Bytes) :
    let message := ((petition.message sent).fromSource source sourceHost).addressed
      destination destinationHost
    let limit := config.transport.maxPayloadBytes
    let taken := Frame.Reader.take receiveTime (.start config.format limit)
      (message.encode config.format present ++ later)
    (petition.kind.size ≤ limit -> ∃ heard, taken = .message heard later ∧
      ∀ answer, Request.classify config.knownSchemas heard = .ok answer ↔
        answer = petition.request source ∧ config.Suits petition.kind) ∧
    (limit < petition.kind.size ->
      taken = .refused (.payloadTooLarge petition.kind.messageType petition.kind.size limit)
        (message.payload ++ later)) := by
  intro message limit taken
  have made := Message.carries_ofPayload petition.size_small sent petition.payload
  have carries : message.Carries petition.payload :=
    ⟨made.kind, made.tagged, made.sized, made.bytes⟩
  have length : message.payload.length = petition.kind.size := carries.length_payload
  have sized : message.header.dataBytes.toInt = petition.kind.size := carries.sized
  constructor
  · intro within
    have whole : message.header.dataBytes.toInt = message.payload.length := by rw [length, sized]
    refine ⟨_, Frame.Reader.take_sent whole (length ▸ within) present later, fun answer => ?_⟩
    rw [← Config.suits_iff petition.kind_mem_all]
    exact Petition.classify_eq_ok_iff proper
      ⟨carries.kind, carries.tagged, carries.sized, carries.bytes⟩ config.knownSchemas answer
  · intro beyond
    have counted : message.header.payloadLength = petition.kind.size := by
      unfold Header.payloadLength
      rw [sized]
      exact Int.toNat_natCast _
    rw [← counted] at beyond ⊢
    exact Frame.Reader.take_encode_of_tooLarge beyond present later

namespace Petition

/-- The request of a module of no particular kind. -/
def plain : Petition :=
  .connect (.ofFlags false false true 1 (.ofBytes Limit.nameWidth [0x61]))

end Petition

/-- A valid configuration can keep everybody out: with a limit that is one byte short, and with
other ideas of what a CONNECT is. -/
theorem Config.keeps_out :
    let narrow : Config := { transport := { maxPayloadBytes := 43 } }
    let strange : Config :=
      { schemas := [{ id := MessageType.connect, name := "LOGIN", size := 45 }] }
    let arriving (config : Config) := Frame.Reader.take 0
      (.start config.format config.transport.maxPayloadBytes)
      ((Petition.plain.message {}).encode config.format {})
    (narrow.validate = .ok () ∧
      ∃ rest, arriving narrow = .refused (.payloadTooLarge MessageType.connect 44 43) rest) ∧
      strange.validate = .ok () ∧
      ∃ heard, arriving strange = .message heard [] ∧
        Request.classify strange.knownSchemas heard =
          .error (.sizeMismatch MessageType.connect 45 44) :=
  ⟨⟨rfl, _, rfl⟩, rfl, _, rfl, rfl⟩

/-- A limit that is one byte short for a CONNECT is none for a SUBSCRIBE, and to say of a
SUBSCRIBE what it is, without its hash, is no obstacle. -/
theorem Config.serves_protocol_of_narrow :
    let config : Config :=
      { transport := { timecode := true, maxPayloadBytes := 43 }
        schemas := [{ id := MessageType.subscribe, name := "SUBSCRIBE", size := 8 },
          { id := 5000, name := "SAMPLE", size := 16 },
          { id := MessageType.subscribe, name := "SUBSCRIBE", size := 4 }] }
    let asked := ((Petition.plain.message {}).fromSource 7 0).addressed 0 0
    let wanted := (((Petition.subscribe ⟨5000⟩).message {}).fromSource 7 0).addressed 0 0
    let arriving (message : Message) := Frame.Reader.take 0
      (.start config.format config.transport.maxPayloadBytes)
      (message.encode config.format {} ++ [1])
    config.validate = .ok () ∧
      arriving asked =
        .refused (.payloadTooLarge MessageType.connect 44 43) (asked.payload ++ [1]) ∧
      ∃ heard, arriving wanted = .message heard [1] ∧
        Request.classify config.knownSchemas heard = .ok (.subscribe 5000) := by
  intro config asked wanted arriving
  have plain : Petition.plain.IsValid := trivial
  have subscribing : (Petition.subscribe ⟨5000⟩).IsValid := trivial
  refine ⟨rfl, (Config.serves_protocol config plain {} 7 0 0 0 {} 0 [1]).2 (by decide), ?_⟩
  rcases (Config.serves_protocol config subscribing {} 7 0 0 0 {} 0 [1]).1 (by decide) with
    ⟨heard, taken, understood⟩
  have suits : config.Suits (.of Subscribe) := by decide
  exact ⟨heard, taken, (understood _).mpr ⟨rfl, suits⟩⟩

end MessageBus
