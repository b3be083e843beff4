import MessageBus.Proofs.Reconnection
import MessageBus.Proofs.Recovery
import MessageBus.Proofs.Session

namespace MessageBus

open Wire

/-!
# The frames that a client writes

A client numbers its frames from zero on, over all of its connections.  A frame is made when
there is something to send, with the number that is next, and then it waits for room on the
stream; meanwhile things can arrive, and the call can be given up for another one.  The
number is used up only when the frame has gone out.  So a frame that was refused, given up or
broken off leaves no gap, and the frame after it has the same number.

A career is what a client does in the course of time, with a record of the frames that have
gone out (`Client.Career`).  What is said about these frames is said about their bytes: the
header is the one that a reader finds at their beginning.  Everything follows from one
invariant: a frame that waits for room is the one that the client would make now of the same
message (`Client.Offers`).
-/

/-- A message as it is made to be sent: around a payload of any kind, or with a payload of the
bus. -/
inductive Message.Made : Message -> Prop where
  | plain (clock : ClockReading) (messageType : MessageType) (payload : Bytes) :
      Made (.new clock messageType payload)
  | typed {α : Type} [Payload α] (clock : ClockReading) (payload : α) :
      Made (.ofPayload clock payload)

theorem Message.Made.dataBytes {message : Message} (made : message.Made) :
    message.header.dataBytes = Int32.ofNat message.payload.length := by
  cases made <;> rfl

/-! ## What a frame says -/

/-- The header at the beginning of a frame. -/
def Frame.header (format : Format) (frame : Bytes) : Header :=
  (format.decodeHead (frame.take format.size)).1

/-- What stands behind the head of a frame. -/
def Frame.body (format : Format) (frame : Bytes) : Bytes :=
  frame.drop format.size

theorem Frame.header_encode (message : Message) (format : Format) (present : Timecode) :
    header format (message.encode format present) = message.header := by
  unfold header Message.encode
  rw [List.take_left' (Format.length_encodeHead ..), Format.header_decodeHead]

theorem Frame.body_encode (message : Message) (format : Format) (present : Timecode) :
    body format (message.encode format present) = message.payload := by
  unfold body Message.encode
  rw [List.drop_left' (Format.length_encodeHead ..)]

namespace Client

variable {client after : Client} {call : Call} {steps rest : List Step} {frame : Bytes}

/-! ## Frames that wait -/

/-- A message can be sent if there is a line, if the addresses are in their bounds, and if the
payload is small enough. -/
theorem exists_frame_iff {message : Message} {module : ModuleId} {host : HostId} :
    (∃ frame, client.frame message module host = .ok frame) ↔
      client.isConnected = true ∧ isModuleAddress module = true ∧ isHostAddress host = true ∧
        message.payload.length ≤ Limit.clientPayload := by
  unfold Client.frame
  repeat' split
  all_goals simp_all

theorem frame_deliver (client : Client) (arrivals : List Arrival) (message : Message)
    (module : ModuleId) (host : HostId) :
    (client.deliver arrivals).frame message module host = client.frame message module host := by
  have same : (client.deliver arrivals).isConnected = client.isConnected := by
    rw [isConnected_eq, server?_deliver, ← isConnected_eq]
  unfold Client.frame
  rw [same]
  rfl

/-- Wherever in a call a message is refused, the call ends, and the client is left as it is. -/
theorem perform_of_refused {message : Message} {module : ModuleId} {host : HostId}
    {error : ClientError} (refused : client.frame message module host = .error error)
    (stays : Step.hangUp ∉ rest) (now : Milliseconds) :
    perform now (.send message module host :: rest) client =
      (.finished (.error error), client) := by
  unfold perform post
  rw [refused]
  exact fail_eq client error stays

/-- A frame is what the client would make now of some message.  As long as the client asks to be
let in it has the number that it has asked for, which is zero if it has asked for none. -/
structure Offers (call : Call) (client : Client) (frame : Bytes) : Prop where
  framed : ∃ message module host, message.Made ∧ client.frame message module host = .ok frame
  entering : call.dials = true -> client.moduleId = client.settings.moduleId

theorem Offers.deliver (offers : Offers call client frame) (arrivals : List Arrival) :
    Offers call (client.deliver arrivals) frame where
  framed := by
    rcases offers.framed with ⟨message, module, host, made, framed⟩
    exact ⟨message, module, host, made, (frame_deliver ..).trans framed⟩
  entering := offers.entering

/-- Whether a step sends nothing but what was made to be sent, and nothing at all if the call is
to connect, except that the client presents itself. -/
def Step.Suits (call : Call) : Step -> Prop
  | .send message _ _ => message.Made ∧ call.dials = false
  | .letGo | .dial _ | .present _ | .mark _ _ | .acknowledged _ _ | .read _ | .discard _
  | .hangUp => True

/-- Whether a client is given only messages that were made to be sent. -/
def Call.IsMade : Call -> Prop
  | .send message _ _ => message.Made
  | .connect _ _ | .disconnect | .subscribe _ | .unsubscribe _ | .pause _ | .resume _
  | .unsubscribeAll | .announceReady | .rename _ | .read _ | .awaitAcknowledgement _
  | .discard _ => True

theorem suits_changeStanding [Payload α] {types : List MessageType} {payload : MessageType -> α}
    {standing : Standing} (begun : client.changeStanding types payload standing = .ok steps)
    (silent : call.dials = false) : ∀ step ∈ steps, step.Suits call := by
  unfold changeStanding at begun
  split at begun
  · cases begun
    intro step here
    rcases List.mem_flatMap.mp here with ⟨messageType, _, here⟩
    simp only [List.mem_cons, List.not_mem_nil, or_false] at here
    rcases here with rfl | rfl | rfl
    · exact ⟨.typed _ _, silent⟩
    · trivial
    · trivial
  · cases begun

theorem suits_steps (made : call.IsMade) (begun : client.steps call = .ok steps) :
    ∀ step ∈ steps, step.Suits call := by
  have one : ∀ {step : Step}, step.Suits call -> ∀ other ∈ [step], other.Suits call :=
    fun suits => List.forall_mem_singleton.mpr suits
  cases call with
  | connect address introduction =>
      cases begun
      simp [Step.Suits, confirmation]
  | disconnect =>
      cases begun
      split
      · refine List.forall_mem_cons.mpr ⟨⟨.plain _ _ [], rfl⟩, one trivial⟩
      · exact one trivial
  | subscribe | unsubscribe | pause | resume | unsubscribeAll =>
      exact suits_changeStanding begun rfl
  | announceReady =>
      cases begun
      exact one ⟨.typed _ _, rfl⟩
  | rename name =>
      unfold Client.steps at begun
      dsimp only at begun
      split at begun
      · cases begun
      · split at begun
        · cases begun
        · cases begun
          exact List.forall_mem_cons.mpr ⟨⟨.typed _ _, rfl⟩, one trivial⟩
  | send message module host =>
      cases begun
      exact one ⟨made, rfl⟩
  | read | awaitAcknowledgement | discard =>
      cases begun
      exact one trivial

/-- Where a call is that waits: its steps suit it, and if it waits to send a frame then it is one
that the client would make now. -/
structure Attends (call : Call) (client : Client) (need : Need) (rest : List Step) : Prop where
  suits : ∀ step ∈ rest, step.Suits call
  offers : ∀ frame, need = .room frame -> Offers call client frame

theorem Halts.attends {need : Need} (halts : Halts steps client (.waiting need rest))
    (suits : ∀ step ∈ steps, step.Suits call) (numbered : client.IsNumbered) :
    Attends call client need rest := by
  have later : ∀ {step : Step}, step :: rest <:+ steps -> ∀ step ∈ rest, step.Suits call :=
    fun left step here => suits step (left.subset (List.mem_cons_of_mem _ here))
  cases halts with
  | dialling left => exact ⟨later left, nofun⟩
  | looking looks left =>
      refine ⟨fun step here => suits step (left.subset here), ?_⟩
      rintro frame rfl
      cases looks
  | @sending message module host frame _ left framed =>
      rcases suits _ (left.subset List.mem_cons_self) with ⟨made, silent⟩
      refine ⟨later left, ?_⟩
      rintro _ ⟨⟩
      refine ⟨⟨message, module, host, made, framed⟩, fun dials => ?_⟩
      cases silent.symm.trans dials
  | @presenting before introduction request frame _ left presented framed =>
      refine ⟨later left, ?_⟩
      rintro _ ⟨⟩
      refine ⟨⟨_, 0, 0, .typed _ request, framed⟩, fun _ => ?_⟩
      rcases numbered with chosen | asked
      · rw [presented] at chosen ⊢
        exact (if_pos chosen).trans chosen.symm
      · exact asked

/-- Whether a call does nothing but send something and wait for what becomes of it. -/
def Call.posts : Call -> Bool
  | .subscribe _ | .unsubscribe _ | .pause _ | .resume _ | .unsubscribeAll | .announceReady
  | .rename _ | .send _ _ _ => true
  | .connect _ _ | .disconnect | .read _ | .awaitAcknowledgement _ | .discard _ => false

/-- Such a call begins without changing anything. -/
theorem begin_of_posts (posts : call.posts = true) (now : Milliseconds) (client : Client) :
    (client.begin now call).2 = client := by
  have post : ∀ (message : Message) (module : ModuleId) (host : HostId),
      (client.post message module host []).2 = client := by
    intro message module host
    unfold Client.post
    split
    · exact congrArg Prod.snd (fail_eq client _ List.not_mem_nil)
    · rfl
  have requests : ∀ {call : Call}, call.isRequest = true -> (client.begin now call).2 = client := by
    intro call asks
    rcases poised_begin now client asks with ⟨progress, begun, _⟩
    exact congrArg Prod.snd begun
  cases call with
  | announceReady | send => exact post _ _ _
  | subscribe | unsubscribe | pause | resume | unsubscribeAll | rename => exact requests rfl
  | connect | disconnect | read | awaitAcknowledgement | discard => cases posts

/-- Without a line such a call fails. -/
theorem fails_of_apart (posts : call.posts = true) (apart : client.isConnected = false)
    (now : Milliseconds) : ∃ error, (client.begin now call).1 = .finished (.error error) := by
  cases call with
  | subscribe | unsubscribe | pause | resume | unsubscribeAll | announceReady | send =>
      exact ⟨_, congrArg Prod.fst (begin_of_apart apart rfl now)⟩
  | rename name =>
      unfold Client.begin Client.steps
      dsimp only
      split
      · next error wrong =>
        exact ⟨error, congrArg Prod.fst (fail_eq client error List.not_mem_nil)⟩
      · next steps begun =>
        split at begun
        · cases begun
        · split at begun
          · cases begun
          · cases begun
            have refused : ∀ message, client.frame message 0 0 = .error .notConnected := by
              intro message
              unfold Client.frame
              rw [apart]
              rfl
            have stays : Step.hangUp ∉ [client.confirmation .progress] := by simp [confirmation]
            exact ⟨_, congrArg Prod.fst (perform_of_refused (refused _) stays now)⟩
  | connect | disconnect | read | awaitAcknowledgement | discard => cases posts

/-- A message is sent as soon as there is room for its frame, or it is refused. -/
theorem begin_send (now : Milliseconds) (client : Client) (message : Message) (module : ModuleId)
    (host : HostId) :
    (∃ frame, client.frame message module host = .ok frame ∧
        (client.begin now (.send message module host)).1 = .waiting (.room frame) []) ∨
      ∃ error, client.frame message module host = .error error ∧
        (client.begin now (.send message module host)).1 = .finished (.error error) := by
  cases framed : client.frame message module host with
  | ok frame =>
      refine Or.inl ⟨frame, rfl, ?_⟩
      show (client.post message module host []).1 = _
      unfold Client.post
      rw [framed]
  | error error =>
      exact Or.inr ⟨error, rfl, congrArg Prod.fst (perform_of_refused framed List.not_mem_nil now)⟩

/-- A frame that is broken off takes the line with it, and nothing else is done. -/
theorem proceed_of_broken (now : Milliseconds) (client : Client) (frame : Bytes)
    (rest : List Step) (cause : ProtocolError) :
    ∃ after, client.proceed now (.room frame) rest (.broken cause) =
        (.finished (.error (.connectionLost cause)), after) ∧
      after.isConnected = false ∧ after.messageCount = client.messageCount := by
  show ∃ after, client.letGo.fail (.connectionLost cause) rest = _ ∧ _
  unfold Client.fail
  split
  · exact ⟨client.letGo.hangUp, rfl, rfl, rfl⟩
  · exact ⟨client.letGo, rfl, rfl, rfl⟩

/-! ## Careers -/

/-- A frame that has gone out, the client when it went out, and the call that sent it. -/
structure Posting where
  call : Call
  sender : Client
  frame : Bytes

namespace Posting

def header (posting : Posting) : Header :=
  Frame.header posting.sender.settings.format posting.frame

def body (posting : Posting) : Bytes :=
  Frame.body posting.sender.settings.format posting.frame

/-- A frame is as it should be in its place. -/
structure IsProper (index : Nat) (posting : Posting) : Prop where
  counted : posting.header.messageCount = Int32.ofNat index
  sized : posting.header.dataBytes.toInt = posting.body.length
  small : posting.body.length ≤ Limit.clientPayload
  module : posting.header.sourceModule = posting.sender.moduleId
  host : posting.header.sourceHost = posting.sender.settings.hostId
  /-- Who asks to be let in does it by the number that it asks for, or by zero. -/
  entering : posting.call.dials = true ->
    posting.header.sourceModule = posting.sender.settings.moduleId
  toModule : isModuleAddress posting.header.destinationModule = true
  toHost : isHostAddress posting.header.destinationHost = true

end Posting

theorem Offers.isProper {index : Nat} (offers : Offers call client frame)
    (counted : client.messageCount = Int32.ofNat index) :
    Posting.IsProper index { call, sender := client, frame } := by
  rcases offers.framed with ⟨message, module, host, made, framed⟩
  rcases exists_frame_iff.mp ⟨frame, framed⟩ with ⟨_, toModule, toHost, small⟩
  have header : Frame.header client.settings.format frame =
      (client.stamp message module host).header := by
    rw [eq_of_frame framed, Frame.header_encode]
  have body : Frame.body client.settings.format frame = message.payload := by
    rw [eq_of_frame framed, Frame.body_encode]
    rfl
  have source : (Frame.header client.settings.format frame).sourceModule = client.moduleId := by
    rw [header]
    rfl
  have size : message.header.dataBytes.toInt = message.payload.length := by
    rw [made.dataBytes]
    exact Int32.toInt_ofNat_of_lt (Nat.lt_of_le_of_lt small (by decide))
  exact
    { counted := by
        show (Frame.header client.settings.format frame).messageCount = _
        rw [header]
        exact counted
      sized := by
        show (Frame.header client.settings.format frame).dataBytes.toInt =
          (Frame.body client.settings.format frame).length
        rw [header, body]
        exact size
      small := by
        show (Frame.body client.settings.format frame).length ≤ _
        rw [body]
        exact small
      module := source
      host := by
        show (Frame.header client.settings.format frame).sourceHost = _
        rw [header]
        rfl
      entering := fun dials => source.trans (offers.entering dials)
      toModule := by
        show isModuleAddress (Frame.header client.settings.format frame).destinationModule = true
        rw [header]
        exact toModule
      toHost := by
        show isHostAddress (Frame.header client.settings.format frame).destinationHost = true
        rw [header]
        exact toHost }

/-- What a client does in the course of time, and the frames that it has written, the first
first. -/
structure Career where
  client : Client
  progress : Progress := .finished (.ok .done)
  /-- The last call that was made. -/
  call? : Option Call := none
  written : List Posting := []

namespace Career

/-- The frame that has gone out. -/
def posted (career : Career) (signal : Signal) : List Posting :=
  match career.call?, career.progress, signal with
  | some call, .waiting (.room frame) _, .written => [{ call, sender := career.client, frame }]
  | _, _, _ => []

/-- What happens to the client of a career.  A call that has not ended is given up when another
one is made. -/
def step (career : Career) : Session.Turn -> Career
  | .arrives arrivals => { career with client := career.client.deliver arrivals }
  | .begins now call =>
      let (progress, client) := career.client.begin now call
      { career with client, progress, call? := some call }
  | .goesOn now signal =>
      let (progress, client) := meet (career.progress, career.client) (.goesOn now signal)
      { career with client, progress, written := career.written ++ career.posted signal }

def run (career : Career) (turns : List Session.Turn) : Career :=
  turns.foldl step career

theorem step_goesOn_of_waiting {career : Career} {need : Need} {rest : List Step}
    (current : career.progress = .waiting need rest) (now : Milliseconds) (signal : Signal) :
    career.step (.goesOn now signal) =
      { career with
        client := (career.client.proceed now need rest signal).2
        progress := (career.client.proceed now need rest signal).1
        written := career.written ++ career.posted signal } := by
  unfold step
  dsimp only
  rw [current]
  rfl

theorem posted_of_written {career : Career} {call : Call} {frame : Bytes} {rest : List Step}
    (made : career.call? = some call) (current : career.progress = .waiting (.room frame) rest) :
    career.posted .written = [{ call, sender := career.client, frame }] := by
  unfold posted
  rw [made, current]

/-- A frame that is broken off has not gone out. -/
theorem posted_of_broken (career : Career) (cause : ProtocolError) :
    career.posted (.broken cause) = [] := by
  unfold posted
  split
  · next signal => cases signal
  · rfl

/-- Whether a turn gives the client only messages that were made to be sent. -/
def Permits : Session.Turn -> Prop
  | .begins _ call => call.IsMade
  | .arrives _ | .goesOn _ _ => True

/-- The careers of all clients. -/
inductive Reachable : Career -> Prop where
  | started {settings : ClientSettings} {pid : Int32} {clock : ClockReading} {client : Client}
      (started : start settings pid clock = .ok client) : Reachable { client }
  | step {career : Career} (reachable : Reachable career) {turn : Session.Turn}
      (permitted : Permits turn) : Reachable (career.step turn)

/-! ## What stays true -/

variable {career : Career} {written : List Posting}

/-- The frames that have gone out are as they should be, and the client has the next number. -/
structure Tallies (client : Client) (written : List Posting) : Prop where
  numbered : client.IsNumbered
  counted : client.messageCount = Int32.ofNat written.length
  proper : ∀ (index : Nat) (posting : Posting), written[index]? = some posting ->
    posting.IsProper index ∧ posting.sender.settings = client.settings

namespace Tallies

theorem deeds (tallies : Tallies client written) (deeds : Deeds client after) :
    Tallies after written where
  numbered := deeds.keeps.isNumbered tallies.numbered
  counted := deeds.messageCount.trans tallies.counted
  proper index posting here := by
    rcases tallies.proper index posting here with ⟨proper, settings⟩
    exact ⟨proper, settings.trans deeds.settings.symm⟩

theorem advance (tallies : Tallies client written) (offers : Offers call client frame) :
    Tallies client.advance (written ++ [{ call, sender := client, frame }]) where
  numbered := tallies.numbered
  counted := by
    show client.messageCount + 1 = _
    rw [tallies.counted, List.length_append, List.length_singleton, Int32.ofNat_add]
    rfl
  proper index posting here := by
    by_cases earlier : index < written.length
    · rw [List.getElem?_append_left earlier] at here
      exact tallies.proper index posting here
    · have last : index = written.length := by
        have within := (List.getElem?_eq_some_iff.mp here).1
        rw [List.length_append, List.length_singleton] at within
        omega
      subst last
      rw [List.getElem?_concat_length] at here
      cases here
      exact ⟨offers.isProper tallies.counted, rfl⟩

end Tallies

/-- The record of a career is as it should be, and so is the frame that waits. -/
structure Honest (career : Career) : Prop where
  tallies : Tallies career.client career.written
  attends : ∀ need rest, career.progress = .waiting need rest ->
    ∃ call, career.call? = some call ∧ Attends call career.client need rest

namespace Honest

/-- A call has done some of its steps, and has stopped. -/
theorem of_conducted {progress : Progress} (tallies : Tallies client written)
    (conducted : Conducted steps client (progress, after))
    (suits : ∀ step ∈ steps, step.Suits call) :
    Honest { client := after, progress, call? := some call, written } where
  tallies := tallies.deeds conducted.deeds
  attends need rest current := by
    have halts := conducted.halts
    dsimp only at current halts
    rw [current] at halts
    exact ⟨call, rfl, halts.attends suits (tallies.deeds conducted.deeds).numbered⟩

theorem arrives (honest : Honest career) (arrivals : List Arrival) :
    Honest (career.step (.arrives arrivals)) where
  tallies := ⟨honest.tallies.numbered, honest.tallies.counted, honest.tallies.proper⟩
  attends need rest current := by
    rcases honest.attends need rest current with ⟨call, made, attends⟩
    exact ⟨call, made, attends.suits, fun frame room => (attends.offers frame room).deliver arrivals⟩

theorem begins (honest : Honest career) (now : Milliseconds) (made : call.IsMade) :
    Honest (career.step (.begins now call)) := by
  unfold step
  rcases conducted_begin now career.client call with ⟨error, wrong⟩ | ⟨steps, begun, conducted⟩
  · dsimp only
    rw [wrong]
    exact ⟨honest.tallies, nofun⟩
  · exact of_conducted honest.tallies conducted (suits_steps made begun)

theorem goesOn (honest : Honest career) (now : Milliseconds) (signal : Signal) :
    Honest (career.step (.goesOn now signal)) := by
  rcases career with ⟨client, progress, call?, written⟩
  cases progress with
  | finished ended =>
      have silent : posted ⟨client, .finished ended, call?, written⟩ signal = [] := by
        unfold posted
        split
        · cases ‹Progress.finished ended = _›
        · rfl
      unfold step
      dsimp only [meet]
      rw [silent, List.append_nil]
      exact honest
  | waiting need rest =>
      rcases honest.attends need rest rfl with ⟨call, made, attends⟩
      dsimp only at made attends
      subst made
      by_cases sent : ∃ frame, need = .room frame ∧ signal = .written
      · rcases sent with ⟨frame, rfl, rfl⟩
        exact of_conducted (honest.tallies.advance (attends.offers frame rfl))
          (conducted_perform now rest client.advance) attends.suits
      · have silent : posted ⟨client, .waiting need rest, some call, written⟩ signal = [] := by
          unfold posted
          split
          · next frame _ _ current =>
            cases current
            exact absurd ⟨frame, rfl, rfl⟩ sent
          · rfl
        have tallies : Tallies (client.satisfy need signal) written := by
          unfold satisfy
          split
          · exact ⟨honest.tallies.numbered, honest.tallies.counted, honest.tallies.proper⟩
          · next frame => exact absurd ⟨frame, rfl, rfl⟩ sent
          · exact honest.tallies
        rw [step_goesOn_of_waiting rfl, silent, List.append_nil]
        rcases conducted_proceed now client need rest signal with ⟨waits, _⟩ | conducted
        · rw [waits]
          exact honest
        · exact of_conducted tallies conducted attends.suits

end Honest

theorem Reachable.honest (reachable : career.Reachable) : Honest career := by
  induction reachable with
  | started begun =>
      have numbered := (Lived.started begun).isNumbered
      unfold start at begun
      split at begun
      · cases begun
        refine ⟨⟨numbered, rfl, fun index posting here => ?_⟩, nofun⟩
        cases List.getElem?_nil.symm.trans here
      · cases begun
  | @step career reachable turn permitted ih =>
      cases turn with
      | arrives arrivals => exact ih.arrives arrivals
      | begins now call => exact ih.begins now permitted
      | goesOn now signal => exact ih.goesOn now signal

theorem Reachable.run (reachable : career.Reachable) {turns : List Session.Turn}
    (permitted : ∀ turn ∈ turns, Permits turn) : (career.run turns).Reachable := by
  induction turns generalizing career with
  | nil => exact reachable
  | cons turn rest ih =>
      rcases List.forall_mem_cons.mp permitted with ⟨first, later⟩
      exact ih (reachable.step first) later

/-! ## The discipline -/

/-- The frames that a client has written are numbered from zero on without a gap, over all of its
connections, and each is as it should be in its place.  A call to send something that is refused,
by the bounds or for lack of a line, changes nothing and writes nothing; a message is refused if
and only if one of the bounds or the line is missing.  If a frame is broken off then the line is
gone, the call has failed for that reason, and the number is still to be used. -/
theorem Reachable.disciplined (reachable : career.Reachable) :
    career.client.messageCount = Int32.ofNat career.written.length ∧
      (∀ (index : Nat) (posting : Posting), career.written[index]? = some posting ->
        posting.IsProper index ∧ posting.sender.settings = career.client.settings) ∧
      (∀ (now : Milliseconds) (call : Call), call.posts = true ->
        let tried := career.step (.begins now call)
        tried.client = career.client ∧ tried.written = career.written ∧
          (career.client.isConnected = false ->
            ∃ error, tried.progress = .finished (.error error))) ∧
      (∀ (now : Milliseconds) (message : Message) (module : ModuleId) (host : HostId),
        let tried := career.step (.begins now (.send message module host))
        if career.client.isConnected = true ∧ isModuleAddress module = true ∧
            isHostAddress host = true ∧ message.payload.length ≤ Limit.clientPayload
        then ∃ frame, tried.progress = .waiting (.room frame) []
        else ∃ error, tried.progress = .finished (.error error)) ∧
      (∀ (now : Milliseconds) (message : Message) (module : ModuleId) (host : HostId)
          (rest : List Step) (error : ClientError),
        career.client.frame message module host = .error error -> Step.hangUp ∉ rest ->
          perform now (.send message module host :: rest) career.client =
            (.finished (.error error), career.client)) ∧
      ∀ (now : Milliseconds) (frame : Bytes) (rest : List Step),
        career.progress = .waiting (.room frame) rest ->
          (∃ call, (career.step (.goesOn now .written)).written =
            career.written ++ [{ call, sender := career.client, frame }]) ∧
          ∀ cause : ProtocolError,
            let broken := career.step (.goesOn now (.broken cause))
            broken.progress = .finished (.error (.connectionLost cause)) ∧
              broken.client.isConnected = false ∧
              broken.client.messageCount = career.client.messageCount ∧
              broken.written = career.written := by
  have honest := reachable.honest
  have tallies := honest.tallies
  refine ⟨tallies.counted, tallies.proper, ?posts, ?sends, ?refused, ?waits⟩
  case posts =>
    intro now call posts tried
    exact ⟨begin_of_posts posts now career.client, rfl,
      fun apart => fails_of_apart posts apart now⟩
  case sends =>
    intro now message module host tried
    rcases begin_send now career.client message module host with
      ⟨frame, framed, waits⟩ | ⟨error, refused, failed⟩
    · rw [if_pos (exists_frame_iff.mp ⟨frame, framed⟩)]
      exact ⟨frame, waits⟩
    · rw [if_neg fun allowed => ?_]
      · exact ⟨error, failed⟩
      · rcases exists_frame_iff.mpr allowed with ⟨frame, framed⟩
        cases refused.symm.trans framed
  case refused =>
    intro now message module host rest error refused stays
    exact perform_of_refused refused stays now
  case waits =>
    intro now frame rest current
    refine ⟨?written, ?broken⟩
    case written =>
      rcases honest.attends _ rest current with ⟨call, made, _⟩
      rw [step_goesOn_of_waiting current, posted_of_written made current]
      exact ⟨call, rfl⟩
    case broken =>
      intro cause broken
      rcases proceed_of_broken now career.client frame rest cause with
        ⟨after, fails, apart, counted⟩
      unfold broken
      rw [step_goesOn_of_waiting current, posted_of_broken, List.append_nil, fails]
      exact ⟨rfl, apart, counted, rfl⟩

/-- A client that leaves its number to the manager. -/
def newcomer : Career where
  client := { settings := {}, pid := 1, clock := {}, moduleId := 0 }

/-- The client is let in by a number. -/
def entering (module : ModuleId) : List Session.Turn :=
  [.begins 0 (.connect "127.0.0.1:7111" {}), .goesOn 0 (.answered ⟨.v4 [127, 0, 0, 1], 7111, 0⟩),
    .goesOn 0 .written, .arrives [welcome module], .goesOn 0 .arrived]

theorem permits_entering (module : ModuleId) : ∀ turn ∈ entering module, Permits turn := by
  simp [entering, Permits, Call.IsMade]

theorem newcomer_reachable : newcomer.Reachable :=
  .started (show start {} 1 {} = .ok { settings := {}, pid := 1, clock := {}, moduleId := 0 } from rfl)

/-- The first report of the client is broken off, the second is refused, and the third goes out
on a new connection. -/
theorem disciplined_of_broken :
    let report : Call := .send (.new {} 5000 [1, 2, 3]) 7 0
    let entered := newcomer.run (entering 101)
    let waiting := entered.step (.begins 1 report)
    let broken := waiting.step (.goesOn 1 (.broken (.connectionLost "reset")))
    let refused := broken.step (.begins 1 report)
    let again := refused.run (entering 102 ++ [.begins 2 report, .goesOn 2 .written])
    again.written.map (fun posting => (posting.header.messageCount, posting.header.sourceModule)) =
        [(0, 0), (1, 0), (2, 102)] ∧
      (broken.client.isConnected = false ∧ broken.client.messageCount = 1 ∧
        broken.written.length = 1) ∧
      (refused.client = broken.client ∧ ∃ error, refused.progress = .finished (.error error)) ∧
      again.client.messageCount = 3 ∧
      ∀ (index : Nat) (posting : Posting), again.written[index]? = some posting ->
        posting.IsProper index ∧ posting.sender.settings = again.client.settings := by
  intro report entered waiting broken refused again
  have made : report.IsMade := .plain {} 5000 [1, 2, 3]
  have start : entered.Reachable := newcomer_reachable.run (permits_entering 101)
  have first : waiting.Reachable := start.step made
  have second : broken.Reachable := first.step trivial
  have third : refused.Reachable := second.step made
  have last : again.Reachable := third.run <| List.forall_mem_append.mpr
    ⟨permits_entering 102, List.forall_mem_cons.mpr ⟨made, List.forall_mem_singleton.mpr trivial⟩⟩
  rcases start.disciplined with ⟨_, _, _, sends, _⟩
  have sent := sends 1 (.new {} 5000 [1, 2, 3]) 7 0
  rcases (if_pos (by decide +kernel)).mp sent with ⟨frame, room⟩
  rcases first.disciplined with ⟨_, _, _, _, _, breaks⟩
  rcases (breaks 1 frame [] room).2 (.connectionLost "reset") with ⟨_, apart, still, same⟩
  rcases second.disciplined with ⟨_, _, tries, _⟩
  rcases tries 1 report rfl with ⟨unchanged, _, fails⟩
  have count : waiting.client.messageCount = 1 := by decide +kernel
  have length : waiting.written.length = 1 := by decide +kernel
  exact ⟨by decide +kernel, ⟨apart, still.trans count, same ▸ length⟩, ⟨unchanged, fails apart⟩,
    by decide +kernel, last.disciplined.2.1⟩

end Career

end Client

end MessageBus
