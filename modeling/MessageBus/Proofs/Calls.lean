import MessageBus.Client.Call
import MessageBus.Proofs.Framing
import MessageBus.Proofs.Waiting
import MessageBus.Proofs.Wishes

namespace MessageBus

open Wire

/-!
# Calls that make requests

To change its subscriptions or its name a client calls the manager with a row of
requests, each followed by a wait for the answer.  If the request is about a
subscription, the client takes note of it in between.  The call can be anywhere in
this row, and it can end before the row is done, if something cannot be sent or is
not answered.  What it has noted by then is exactly what it has sent, because the note
follows upon the sending without a pause.

`Client.Underway` says where such a call can be.  Going on from there, it either has
just sent a frame, and notes the wish that the manager will read from it, or it notes
nothing.
-/

/-- Whether a request is one that is answered with an acknowledgement, if it can be met. -/
def Request.isAnswered : Request -> Bool
  | .subscribe _ | .unsubscribe _ | .pause _ | .resume _ | .setName _ => true
  | .connect _ | .disconnect | .moduleReady _ | .other => false

/-- Whoever gets a message out of a stream that begins with a frame has read just the
frame, and whoever understands the message gets a request to answer, with a wish or with
none. -/
structure Frame.Tells (format : Format) (wish? : Option Wish) (frame : Bytes) : Prop where
  nonempty : frame ≠ []
  understood : ∀ {receiveTime : UInt64} {limit : Nat} {later rest : Bytes} {heard : Message},
    Frame.Reader.take receiveTime (.start format limit) (frame ++ later) = .message heard rest ->
      rest = later ∧ ∀ (schemas : Schemas) (request : Request),
        Request.classify schemas heard = .ok request ->
          request.isAnswered = true ∧ request.wish? = wish?

/-- Whoever sends a message to the manager tells it of a wish, or of none. -/
def Message.Bears (message : Message) (wish? : Option Wish) : Prop :=
  ∀ (client : Client) (format : Format) (present : Timecode),
    Frame.Tells format wish? ((client.stamp message 0 0).encode format present)

/-- A payload that is read as a request bears the wish that the request makes. -/
theorem Message.bears_ofPayload [Payload α] (clock : ClockReading) (payload : α)
    {wish? : Option Wish}
    (sized : (Int32.ofNat (Payload.size α)).toInt.toNat = Payload.size α)
    {finish : α -> Except ProtocolError Request} (reads : Request.ReadsAs finish)
    (means : ∀ request, finish payload = .ok request ->
      request.isAnswered = true ∧ request.wish? = wish?) :
    (Message.ofPayload clock payload).Bears wish? := by
  intro client format present
  have length : (client.stamp (Message.ofPayload clock payload) 0 0).header.payloadLength =
      (client.stamp (Message.ofPayload clock payload) 0 0).payload.length := by
    show (Int32.ofNat (Payload.encode payload).length).toInt.toNat =
      (Payload.encode payload).length
    rw [Payload.length_encode]
    exact sized
  refine ⟨Message.encode_ne_nil _ _ _, fun {receiveTime limit later rest heard} taken => ?_⟩
  rcases Frame.Reader.take_encode later length taken with ⟨header, bytes, left⟩
  refine ⟨left, fun schemas request classified => means request ?_⟩
  have kind : heard.messageType = Payload.messageType α := congrArg Header.messageType header
  have decoded : heard.decodePayload α = .ok payload := Message.decodePayload_of_bytes bytes
  rw [reads schemas heard kind] at classified
  unfold Request.checkedPayload at classified
  cases agrees : schemas.validate heard.header with
  | error error =>
      rw [agrees] at classified
      cases classified
  | ok valid =>
      rw [agrees, decoded] at classified
      exact classified

theorem Subscribe.bears (clock : ClockReading) (messageType : MessageType) :
    (Message.ofPayload clock (Subscribe.mk messageType)).Bears (some ⟨messageType, true⟩) :=
  Message.bears_ofPayload clock _ (by decide) Request.readsAs_subscribe fun _ built => by
    cases built
    exact ⟨rfl, rfl⟩

theorem Unsubscribe.bears (clock : ClockReading) (messageType : MessageType) :
    (Message.ofPayload clock (Unsubscribe.mk messageType)).Bears (some ⟨messageType, false⟩) :=
  Message.bears_ofPayload clock _ (by decide) Request.readsAs_unsubscribe fun _ built => by
    cases built
    exact ⟨rfl, rfl⟩

theorem PauseSubscription.bears (clock : ClockReading) (messageType : MessageType) :
    (Message.ofPayload clock (PauseSubscription.mk messageType)).Bears
      (some ⟨messageType, false⟩) :=
  Message.bears_ofPayload clock _ (by decide) Request.readsAs_pause fun _ built => by
    cases built
    exact ⟨rfl, rfl⟩

theorem ResumeSubscription.bears (clock : ClockReading) (messageType : MessageType) :
    (Message.ofPayload clock (ResumeSubscription.mk messageType)).Bears
      (some ⟨messageType, true⟩) :=
  Message.bears_ofPayload clock _ (by decide) Request.readsAs_resume fun _ built => by
    cases built
    exact ⟨rfl, rfl⟩

/-- A new name is no wish about a type. -/
theorem ClientSetName.bears (clock : ClockReading) (name : Text.Field Limit.nameWidth) :
    (Message.ofPayload clock (ClientSetName.mk name)).Bears none :=
  Message.bears_ofPayload clock _ (by decide) Request.readsAs_setName fun request built => by
    dsimp only at built
    split at built
    · cases built
    · cases built
      exact ⟨rfl, rfl⟩

namespace Client

variable {client after : Client} {messageType other : MessageType} {standing : Standing}

/-! ## What a client keeps -/

/-- A client wants the same messages as before and speaks the same way. -/
structure Unmoved (client after : Client) : Prop where
  subscribed : after.subscribed = client.subscribed
  isLogger : after.isLogger = client.isLogger
  settings : after.settings = client.settings

namespace Unmoved

theorem refl (client : Client) : Unmoved client client :=
  ⟨rfl, rfl, rfl⟩

theorem trans {first second third : Client} (early : Unmoved first second)
    (late : Unmoved second third) : Unmoved first third where
  subscribed := late.subscribed.trans early.subscribed
  isLogger := late.isLogger.trans early.isLogger
  settings := late.settings.trans early.settings

theorem of_bare (same : after.bare = client.bare) : Unmoved client after where
  subscribed := (congrArg Client.subscribed same :)
  isLogger := (congrArg Client.isLogger same :)
  settings := (congrArg Client.settings same :)

theorem findAcknowledgement (client : Client) (held : List Message) :
    Unmoved client (client.findAcknowledgement held).2.2 :=
  of_bare (looked_findAcknowledgement client held).bare

end Unmoved

theorem Unmoved.putBack (client : Client) (held : List Message) :
    Unmoved client (client.putBack held) :=
  ⟨rfl, rfl, rfl⟩

/-- A client has taken note of a wish, and of nothing else. -/
structure Noted (wish : Wish) (client after : Client) : Prop where
  subscribed : ∀ messageType, messageType ∈ after.subscribed ↔
    if messageType = wish.messageType then wish.isWanted = true
    else messageType ∈ client.subscribed
  isLogger : after.isLogger = client.isLogger
  settings : after.settings = client.settings

theorem mem_subscribed_mark : other ∈ (client.mark messageType standing).subscribed ↔
    if other = messageType then standing = .subscribed else other ∈ client.subscribed := by
  have without : other ∈ client.subscribed.filter (· ≠ messageType) ↔
      if other = messageType then False else other ∈ client.subscribed := by
    rw [List.mem_filter]
    split <;> simp_all
  cases standing with
  | subscribed =>
      refine Ascending.mem_insert.trans ?_
      split <;> simp_all
  | paused => exact without.trans (by split <;> simp)
  | unknown => exact without.trans (by split <;> simp)

theorem noted_mark {wish : Wish} (agrees : standing = .subscribed ↔ wish.isWanted = true) :
    Noted wish client (client.mark wish.messageType standing) where
  subscribed messageType := by
    rw [mem_subscribed_mark, agrees]
  isLogger := by cases standing <;> rfl
  settings := by cases standing <;> rfl

/-- A client has taken note of a wish if there is one, and of nothing else. -/
def Heeds : Option Wish -> Client -> Client -> Prop
  | none => Unmoved
  | some wish => Noted wish

theorem Heeds.unmoved {wish? : Option Wish} {before between : Client}
    (early : Unmoved client before) (heeds : Heeds wish? before between)
    (late : Unmoved between after) : Heeds wish? client after := by
  cases wish? with
  | none => exact (early.trans heeds).trans late
  | some wish =>
      exact {
        subscribed := fun messageType => by
          rw [late.subscribed, heeds.subscribed, early.subscribed]
        isLogger := late.isLogger.trans (heeds.isLogger.trans early.isLogger)
        settings := late.settings.trans (heeds.settings.trans early.settings) }

theorem Heeds.isLogger {wish? : Option Wish} (heeds : Heeds wish? client after) :
    after.isLogger = client.isLogger := by
  cases wish? with
  | none => exact Unmoved.isLogger heeds
  | some wish => exact Noted.isLogger heeds

theorem Heeds.settings {wish? : Option Wish} (heeds : Heeds wish? client after) :
    after.settings = client.settings := by
  cases wish? with
  | none => exact Unmoved.settings heeds
  | some wish => exact Noted.settings heeds

/-! ## Where a call can be -/

/-- The notes that a client takes of a request that it has sent. -/
inductive Notes : Option Wish -> List Step -> Prop where
  | nothing : Notes none []
  | wish {wish : Wish} {standing : Standing}
      (agrees : standing = .subscribed ↔ wish.isWanted = true) :
      Notes (some wish) [.mark wish.messageType standing]

theorem perform_notes {wish? : Option Wish} {notes : List Step} (noted : Notes wish? notes)
    (now : Milliseconds) (rest : List Step) (client : Client) :
    ∃ after, perform now (notes ++ rest) client = perform now rest after ∧
      Heeds wish? client after ∧ after.inLine = client.inLine := by
  cases noted with
  | nothing => exact ⟨client, rfl, .refl client, rfl⟩
  | @wish wish standing agrees =>
      refine ⟨client.mark wish.messageType standing, rfl, noted_mark agrees, ?_⟩
      cases standing <;> rfl

/-- Requests that are still to be made. -/
inductive Plan : List Step -> Prop where
  | done : Plan []
  | asking {message : Message} {wish? : Option Wish} {notes rest : List Step}
      {limit : Milliseconds} (bears : message.Bears wish?) (noted : Notes wish? notes)
      (later : Plan rest) :
      Plan (.send message 0 0 :: (notes ++ .acknowledged .progress limit :: rest))

theorem Notes.stays {wish? : Option Wish} {notes rest : List Step} (noted : Notes wish? notes)
    (limit : Milliseconds) (stays : Step.hangUp ∉ rest) :
    Step.hangUp ∉ notes ++ .acknowledged .progress limit :: rest := by
  cases noted <;> simpa using stays

theorem Plan.stays {steps : List Step} (plan : Plan steps) : Step.hangUp ∉ steps := by
  induction plan with
  | done => exact List.not_mem_nil
  | @asking _ _ _ _ limit bears noted later ih => simpa using noted.stays limit ih

theorem plan_changeStanding [Payload α] {payload : MessageType -> α} {isWanted : Bool}
    {types : List MessageType} {steps : List Step}
    (bears : ∀ clock messageType,
      (Message.ofPayload clock (payload messageType)).Bears (some ⟨messageType, isWanted⟩))
    (agrees : standing = .subscribed ↔ isWanted = true)
    (begun : client.changeStanding types payload standing = .ok steps) : Plan steps := by
  unfold changeStanding at begun
  split at begun
  · cases begun
    induction types with
    | nil => exact .done
    | cons messageType rest ih => exact .asking (bears client.clock messageType) (.wish agrees) ih
  · cases begun

theorem plan_rename {name : String} {steps : List Step}
    (begun : client.steps (.rename name) = .ok steps) : Plan steps := by
  unfold Client.steps at begun
  dsimp only at begun
  split at begun
  · cases begun
  · split at begun
    · cases begun
    · cases begun
      exact .asking (ClientSetName.bears client.clock _) .nothing .done

/-- Whether a call is a row of requests. -/
def Call.isRequest : Call -> Bool
  | .subscribe _ | .unsubscribe _ | .pause _ | .resume _ | .unsubscribeAll | .rename _ => true
  | .connect _ _ | .disconnect | .announceReady | .send _ _ _ | .read _
  | .awaitAcknowledgement _ | .discard _ => false

theorem plan_steps {call : Call} {steps : List Step} (asks : call.isRequest = true)
    (begun : client.steps call = .ok steps) : Plan steps := by
  cases call with
  | subscribe types => exact plan_changeStanding Subscribe.bears (by simp) begun
  | unsubscribe types => exact plan_changeStanding Unsubscribe.bears (by simp) begun
  | pause types => exact plan_changeStanding PauseSubscription.bears (by simp) begun
  | resume types => exact plan_changeStanding ResumeSubscription.bears (by simp) begun
  | unsubscribeAll => exact plan_changeStanding Unsubscribe.bears (by simp) begun
  | rename name => exact plan_rename begun
  | connect | disconnect | announceReady | send | read | awaitAcknowledgement | discard =>
      cases asks

def Progress.isFinished : Progress -> Bool
  | .finished _ => true
  | .waiting _ _ => false

/-- A row of requests is at its end, or about to send a frame and to take note of what
is in it. -/
inductive Poised (format : Format) : Progress -> Prop where
  | finished (result : Except ClientError Reply) : Poised format (.finished result)
  | sending {frame : Bytes} {wish? : Option Wish} {notes rest : List Step} {limit : Milliseconds}
      (tells : Frame.Tells format wish? frame) (noted : Notes wish? notes) (later : Plan rest) :
      Poised format (.waiting (.room frame) (notes ++ .acknowledged .progress limit :: rest))

/-- Where a row of requests can be: poised, or waiting for an answer. -/
inductive Underway (format : Format) : Progress -> Prop where
  | poised {progress : Progress} (poised : Poised format progress) : Underway format progress
  | awaiting {limit deadline : Milliseconds} {held : List Message} {rest : List Step}
      (others : ∀ message ∈ held, message.isAnswer = false) (later : Plan rest) :
      Underway format (.waiting (.acknowledgement .progress limit deadline held) rest)

theorem Underway.of_isFinished {format : Format} {progress : Progress}
    (idle : progress.isFinished = true) : Underway format progress := by
  cases progress with
  | finished result => exact .poised (.finished result)
  | waiting need rest => cases idle

theorem fail_eq (client : Client) (error : ClientError) {rest : List Step}
    (stays : Step.hangUp ∉ rest) : client.fail error rest = (.finished (.error error), client) := by
  unfold Client.fail
  rw [if_neg fun hangsUp => stays (List.contains_iff_mem.mp hangsUp)]

/-- To make requests, a client has to send the first one, and there it stops. -/
theorem poised_perform (now : Milliseconds) {steps : List Step} (plan : Plan steps)
    (client : Client) :
    ∃ progress, perform now steps client = (progress, client) ∧
      Poised client.settings.format progress := by
  cases plan with
  | done => exact ⟨_, rfl, .finished _⟩
  | @asking message wish? notes rest limit bears noted later =>
      have stays := noted.stays limit later.stays
      unfold perform post
      cases framed : client.frame message 0 0 with
      | error error =>
          exact ⟨_, fail_eq client error stays, .finished _⟩
      | ok frame =>
          refine ⟨_, rfl, .sending ?_ noted later⟩
          unfold Client.frame at framed
          split at framed
          · cases framed
          · split at framed
            · cases framed
            · split at framed
              · cases framed
              · split at framed
                · cases framed
                · cases framed
                  exact bears client _ _

/-- A row of requests begins without taking note of anything. -/
theorem poised_begin (now : Milliseconds) (client : Client) {call : Call}
    (asks : call.isRequest = true) :
    ∃ progress, begin now client call = (progress, client) ∧
      Poised client.settings.format progress := by
  unfold begin
  cases begun : client.steps call with
  | error error => exact ⟨_, fail_eq client error List.not_mem_nil, .finished _⟩
  | ok steps => exact poised_perform now (plan_steps asks begun) client

/-- What a call does that looks for its answer, and goes on if it finds one. -/
def resume (now : Milliseconds) (limit deadline : Milliseconds) (held : List Message)
    (rest : List Step) (client : Client) : Progress × Client :=
  match client.seekAcknowledgement .progress limit deadline held rest with
  | (some progress, client) => (progress, client)
  | (none, client) => perform now rest client

/-- What becomes of a call that looks for its answer: it goes on without the first
acknowledgement in line, or there is none and it waits, or it fails. -/
inductive Resumed (format : Format) (client : Client) : Progress × Client -> Prop where
  | answered {progress : Progress} {after : Client} (poised : Poised format progress)
      (unmoved : Unmoved client after) (taken : client.answersIn = after.answersIn + 1) :
      Resumed format client (progress, after)
  | unanswered {limit deadline : Milliseconds} {held : List Message} {rest : List Step}
      {after : Client} (others : ∀ message ∈ held, message.isAnswer = false) (later : Plan rest)
      (unmoved : Unmoved client after) (before : client.answersIn = 0)
      (still : after.answersIn = 0) :
      Resumed format client (.waiting (.acknowledgement .progress limit deadline held) rest, after)
  | failed {error : ClientError} {after : Client} (unmoved : Unmoved client after) :
      Resumed format client (.finished (.error error), after)

theorem Resumed.underway {format : Format} {result : Progress × Client}
    (resumed : Resumed format client result) : Underway format result.1 := by
  cases resumed with
  | answered poised unmoved taken => exact .poised poised
  | unanswered others later unmoved before still => exact .awaiting others later
  | failed unmoved => exact .poised (.finished _)

theorem Resumed.unmoved {format : Format} {result : Progress × Client}
    (resumed : Resumed format client result) : Unmoved client result.2 := by
  cases resumed with
  | answered poised unmoved taken => exact unmoved
  | unanswered others later unmoved before still => exact unmoved
  | failed unmoved => exact unmoved

theorem resumed_resume (now limit deadline : Milliseconds) {held : List Message}
    {rest : List Step} (others : ∀ message ∈ held, message.isAnswer = false) (later : Plan rest)
    (client : Client) :
    Resumed client.settings.format client (resume now limit deadline held rest client) := by
  have moved := Unmoved.findAcknowledgement client held
  have searched := searched client held
  unfold resume seekAcknowledgement
  generalize client.findAcknowledgement held = result at moved searched
  cases searched with
  | @found message passed after isAnswer rest line =>
      have back : Unmoved client (after.putBack (held ++ passed)) := moved.trans (.putBack _ _)
      rcases poised_perform now later (after.putBack (held ++ passed)) with
        ⟨progress, performed, poised⟩
      dsimp only
      rw [performed]
      rw [back.settings] at poised
      have all := List.forall_mem_append.mpr ⟨others, rest⟩
      refine .answered poised back ?_
      rw [answersIn_putBack all, answersIn_of_found isAnswer rest line]
  | @nothing passed after rest line empty =>
      exact .unanswered (List.forall_mem_append.mpr ⟨others, rest⟩) later moved (answersIn_of_others rest line)
        (answersIn_of_empty empty)
  | @failed error passed after rest =>
      dsimp only
      rw [fail_eq _ error later.stays]
      exact .failed (moved.trans (.putBack _ _))

/-- The bytes that are handed over when a call goes on, which are a frame if its need was
to send one. -/
def handedOver : Need -> Signal -> Bytes
  | .room frame, .written => frame
  | _, _ => []

def Need.isAnswer : Need -> Bool
  | .acknowledgement _ _ _ _ => true
  | .server _ | .room _ | .message _ | .time _ => false

/-- What becomes of a row of requests that is given a signal: nothing happens, or it
fails; or a frame is handed over and noted, and the answer is looked for; or the answer
is looked for again. -/
inductive Proceeded (format : Format) (client : Client) (need : Need) (rest : List Step)
    (signal : Signal) : Progress × Client -> Prop where
  | waits (silent : handedOver need signal = []) :
      Proceeded format client need rest signal (.waiting need rest, client)
  | failed {error : ClientError} {after : Client} (silent : handedOver need signal = [])
      (unmoved : Unmoved client after) :
      Proceeded format client need rest signal (.finished (.error error), after)
  | sent {wish? : Option Wish} {between : Client} {result : Progress × Client}
      (isRoom : need.isAnswer = false)
      (tells : Frame.Tells format wish? (handedOver need signal))
      (heeds : Heeds wish? client between) (sameLine : between.inLine = client.inLine)
      (resumed : Resumed format between result) :
      Proceeded format client need rest signal result
  | resumed {result : Progress × Client} (isAnswer : need.isAnswer = true)
      (silent : handedOver need signal = []) (resumed : Resumed format client result) :
      Proceeded format client need rest signal result

theorem proceeded_proceed {need : Need} {rest : List Step}
    (underway : Underway client.settings.format (.waiting need rest)) (now : Milliseconds)
    (signal : Signal) :
    Proceeded client.settings.format client need rest signal
      (client.proceed now need rest signal) := by
  cases underway with
  | poised poised =>
    cases poised with
    | @sending frame wish? notes rest limit tells noted later =>
      cases signal with
      | written =>
          rcases perform_notes noted now (.acknowledged .progress limit :: rest) client.advance with
            ⟨between, performed, heeds, sameLine⟩
          have result : client.proceed now (.room frame)
              (notes ++ .acknowledged .progress limit :: rest) .written =
                resume now limit (now + limit) [] rest between := performed
          have settings := heeds.settings
          have advanced : Unmoved client client.advance := ⟨rfl, rfl, rfl⟩
          have resumed := resumed_resume now limit (now + limit)
            (fun _ absent => absurd absent List.not_mem_nil) later between
          rw [settings] at resumed
          rw [result]
          exact .sent rfl tells (.unmoved advanced heeds (.refl between)) sameLine resumed
      | broken cause =>
          have failed := fail_eq client.letGo (.connectionLost cause)
            (noted.stays limit later.stays)
          have result : client.proceed now (.room frame)
            (notes ++ .acknowledged .progress limit :: rest) (.broken cause) = _ := failed
          rw [result]
          exact .failed rfl ⟨rfl, rfl, rfl⟩
      | answered | unanswered | unusable | arrived | inTime | expired => exact .waits rfl
  | @awaiting limit deadline held rest others later =>
      cases signal with
      | arrived => exact .resumed rfl rfl (resumed_resume now limit deadline others later client)
      | expired =>
          have failed := fail_eq (client.putBack held) (.acknowledgementTimeout limit) later.stays
          have result : client.proceed now (.acknowledgement .progress limit deadline held) rest
            .expired = _ := failed
          rw [result]
          exact .failed rfl (.putBack client held)
      | answered | unanswered | unusable | written | broken | inTime => exact .waits rfl

/-- A row of requests that goes on stays one.  It takes note of a wish if and only if a
frame that tells of the wish is handed over. -/
theorem underway_proceed {need : Need} {rest : List Step}
    (underway : Underway client.settings.format (.waiting need rest)) (now : Milliseconds)
    (signal : Signal) :
    Underway client.settings.format (client.proceed now need rest signal).1 ∧
      (handedOver need signal = [] ∧ Unmoved client (client.proceed now need rest signal).2 ∨
        ∃ wish?, Frame.Tells client.settings.format wish? (handedOver need signal) ∧
          Heeds wish? client (client.proceed now need rest signal).2) := by
  have proceeded := proceeded_proceed underway now signal
  generalize client.proceed now need rest signal = result at proceeded
  cases proceeded with
  | waits silent => exact ⟨underway, Or.inl ⟨silent, .refl client⟩⟩
  | failed silent unmoved => exact ⟨.poised (.finished _), Or.inl ⟨silent, unmoved⟩⟩
  | @sent wish? between result isRoom tells heeds sameLine resumed =>
      exact ⟨resumed.underway,
        Or.inr ⟨wish?, tells, .unmoved (.refl client) heeds resumed.unmoved⟩⟩
  | resumed isAnswer silent resumed =>
      exact ⟨resumed.underway, Or.inl ⟨silent, resumed.unmoved⟩⟩

end Client

end MessageBus
