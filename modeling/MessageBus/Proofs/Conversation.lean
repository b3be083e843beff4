import MessageBus.Proofs.Answers
import MessageBus.Proofs.Calls

namespace MessageBus

open Wire History

/-!
# A client and its place at the manager

The manager and a client each keep an account of what the client wants to see, and
neither ever looks at the other's.  They agree as far as they draw the same
conclusions from the same requests.  The client notes a request when it sends it, and
the manager reads the requests in the order in which they were sent; so the last word
about a type is the same for both, as soon as nothing is on its way any more.

What the two conclude from the last words is not the same.  The client wants a type
if it was asked for last, or if everything was.  For the manager a request about a
single type lapses beside a request for everything, by the rule that nobody has both
(`Wishes.isLapsed`).  The two accounts therefore part when everything is given up
again: the client still has its single types, and the manager has none
(`Conversation.Reachable.agree_unless_lapsed`).
-/

namespace Broker

variable {broker : Broker} {handle : Handle} {message : Message} {wish : Wish}

theorem wish?_of_understood {request : Request}
    (registered : broker.modules.isRegistered handle = true)
    (understood : Request.classify broker.schemas message = .ok request) :
    broker.wish? handle (.event (.message handle message)) = request.wish? := by
  unfold wish?
  dsimp only
  rw [if_pos ⟨rfl, registered⟩, understood]

theorem isRegistered_rename {broker : Broker} {handle : Handle}
    (registered : broker.modules.isRegistered handle = true) (name : String) :
    (broker.rename handle name).modules.isRegistered handle = true := by
  unfold rename
  split
  · exact registered
  · split
    · exact registered
    · simp only [modules_publishClientInfo, modules_acknowledge]
      refine (ModuleTable.isRegistered_modify _ fun _ => ?_).trans registered
      exact ⟨rfl, rfl, rfl, rfl, rfl, rfl, rfl⟩

/-- Whoever makes a request that is to be answered keeps its place. -/
theorem isRegistered_receive {request : Request}
    (registered : broker.modules.isRegistered handle = true)
    (understood : Request.classify broker.schemas message = .ok request)
    (answered : request.isAnswered = true) :
    (broker.receive handle message).modules.isRegistered handle = true := by
  rcases ModuleTable.isRegistered_iff.mp registered with ⟨module, found, _⟩
  have present : broker.modules.contains handle = true :=
    ModuleTable.contains_iff.mpr ⟨module, found⟩
  unfold receive dispatch
  simp only [present, understood, registered, if_true]
  cases request with
  | subscribe | resume | unsubscribe | pause =>
      unfold serve
      simpa [subscribe, unsubscribe] using registered
  | setName name =>
      refine isRegistered_rename ?_ name
      exact registered
  | connect | disconnect | moduleReady | other => cases answered

end Broker

/-- What does not come from a module says nothing about what the module wants. -/
theorem Bus.wishes_step_of_foreign (behaviour : Behaviour σ) {bus : Bus σ} {handle : Handle}
    {move : Move σ} (foreign : move.isFrom handle = false) :
    wishes handle (bus.step behaviour move).history = wishes handle bus.history := by
  cases move with
  | occasion occasion =>
      have silent : bus.broker.wish? handle occasion = none := by
        cases occasion with
        | event event =>
            cases event with
            | message source message =>
                exact Broker.wish?_of_ne (Ne.symm (of_decide_eq_false foreign)) message
            | ended source cause => rfl
        | arrival peer => rfl
        | poll now => rfl
        | upkeep clock => rfl
      refine (wishes_met handle bus.history bus.broker occasion).trans ?_
      rw [silent]
      rfl
  | readers queues => rfl
  | deliver =>
      show wishes handle (bus.deliver behaviour).history = _
      cases next : bus.broker.outbox with
      | nil => rw [deliver_of_nil behaviour next]
      | cons pending outbox =>
          rw [deliver_of_cons behaviour next]
          exact wishes_delivered handle bus.history _

/-- A client, the handle under which the broker knows it, the call that the client makes
and the bytes that are on their way to the broker. -/
structure Conversation (σ : Type) where
  bus : Bus σ
  handle : Handle
  client : Client
  progress : Client.Progress
  wire : Bytes := []

/-- What can happen in a conversation. -/
inductive Turn (σ : Type) where
  /-- The broker and its surroundings deal with something else. -/
  | elsewhere (move : Move σ)
  /-- The broker reads the next frame. -/
  | hears (receiveTime : UInt64)
  | begins (now : Milliseconds) (call : Client.Call)
  | goesOn (now : Milliseconds) (signal : Client.Signal)
  /-- Something comes in at the client. -/
  | arrives (arrivals : List Arrival)

namespace Conversation

/-- The first message on the wire, and what is behind it. -/
def next? (conversation : Conversation σ) (receiveTime : UInt64) : Option (Message × Bytes) :=
  let config := conversation.bus.broker.config
  let reader := Frame.Reader.start config.format config.transport.maxPayloadBytes
  match reader.take receiveTime conversation.wire with
  | .message message rest => some (message, rest)
  | .hungry _ | .refused _ _ => none

theorem taken_of_next {conversation : Conversation σ} {receiveTime : UInt64} {message : Message}
    {rest : Bytes} (next : conversation.next? receiveTime = some (message, rest)) :
    let config := conversation.bus.broker.config
    Frame.Reader.take receiveTime (.start config.format config.transport.maxPayloadBytes)
      conversation.wire = .message message rest := by
  unfold next? at next
  dsimp only at next ⊢
  split at next
  · next taken =>
    cases next
    exact taken
  · cases next
  · cases next

/-- The broker reads the next message, if there is one. -/
def hear (behaviour : Behaviour σ) (conversation : Conversation σ) (receiveTime : UInt64) :
    Conversation σ :=
  match conversation.next? receiveTime with
  | none => conversation
  | some (message, wire) =>
      let occasion := .event (.message conversation.handle message)
      { conversation with bus := conversation.bus.step behaviour (.occasion occasion), wire }

/-- The client goes on with its call, if it waits. -/
def goOn (conversation : Conversation σ) (now : Milliseconds) (signal : Client.Signal) :
    Conversation σ :=
  match conversation.progress with
  | .finished _ => conversation
  | .waiting need rest =>
      let (progress, client) := conversation.client.proceed now need rest signal
      let wire := conversation.wire ++ Client.handedOver need signal
      { conversation with client, progress, wire }

def step (behaviour : Behaviour σ) (conversation : Conversation σ) : Turn σ -> Conversation σ
  | .elsewhere move => { conversation with bus := conversation.bus.step behaviour move }
  | .hears receiveTime => conversation.hear behaviour receiveTime
  | .begins now call =>
      let (progress, client) := conversation.client.begin now call
      { conversation with client, progress }
  | .goesOn now signal => conversation.goOn now signal
  | .arrives arrivals => { conversation with client := conversation.client.deliver arrivals }

/-- Whether the broker will acknowledge the next message, if there is one. -/
def isAcknowledged (conversation : Conversation σ) (receiveTime : UInt64) : Bool :=
  match conversation.next? receiveTime with
  | none => true
  | some (message, _) => conversation.bus.broker.acknowledges conversation.handle message

/-- What is granted about a conversation: the client makes one row of requests after the
other, the broker answers each of them with an acknowledgement, and nothing else makes
it lose its place. -/
def permits (behaviour : Behaviour σ) (conversation : Conversation σ) : Turn σ -> Bool
  | .elsewhere move =>
      !move.isFrom conversation.handle &&
        (conversation.bus.step behaviour move).broker.modules.isRegistered conversation.handle
  | .hears receiveTime => conversation.isAcknowledged receiveTime
  | .begins _ call => conversation.progress.isFinished && call.isRequest
  | .goesOn _ _ | .arrives _ => true

/-- Whether all of this is granted, one turn after the other. -/
def permitsAll (behaviour : Behaviour σ) (conversation : Conversation σ) : List (Turn σ) -> Bool
  | [] => true
  | turn :: rest =>
      conversation.permits behaviour turn &&
        (conversation.step behaviour turn).permitsAll behaviour rest

def run (behaviour : Behaviour σ) (conversation : Conversation σ) (turns : List (Turn σ)) :
    Conversation σ :=
  turns.foldl (step behaviour) conversation

/-- An ordinary module has been let in, and nothing has been said yet. -/
structure Opens (behaviour : Behaviour σ) (config : Config) (conversation : Conversation σ) :
    Prop where
  reachable : conversation.bus.Reachable behaviour config
  registered : conversation.bus.broker.modules.isRegistered conversation.handle = true
  silent : wishes conversation.handle conversation.bus.history = []
  ordinary : conversation.client.isLogger = false
  plain : conversation.client.subscribed = []
  format : conversation.client.settings.format = config.format
  idle : conversation.progress.isFinished = true
  clear : conversation.wire = []

/-- The states of all conversations. -/
inductive Reachable (behaviour : Behaviour σ) (config : Config) : Conversation σ -> Prop where
  | start {conversation : Conversation σ} (opens : conversation.Opens behaviour config) :
      Reachable behaviour config conversation
  | step {conversation : Conversation σ} (reachable : Reachable behaviour config conversation)
      {turn : Turn σ} (permitted : conversation.permits behaviour turn = true) :
      Reachable behaviour config (conversation.step behaviour turn)

/-! ## What is on its way -/

/-- A stream carries requests, the first one in front, each with a wish or with none. -/
inductive Carries (format : Format) : Bytes -> List (Option Wish) -> Prop where
  | nothing : Carries format [] []
  | frame {frame later : Bytes} {wish? : Option Wish} {wishes : List (Option Wish)}
      (tells : Frame.Tells format wish? frame) (carries : Carries format later wishes) :
      Carries format (frame ++ later) (wish? :: wishes)

namespace Carries

variable {format : Format} {frame wire : Bytes} {wish? : Option Wish}
  {wishes : List (Option Wish)}

theorem append (carries : Carries format wire wishes) (tells : Frame.Tells format wish? frame) :
    Carries format (wire ++ frame) (wishes ++ [wish?]) := by
  induction carries with
  | nothing => simpa using Carries.frame tells .nothing
  | frame first carries ih =>
      rw [List.append_assoc]
      exact .frame first ih

theorem eq_nil (carries : Carries format [] wishes) : wishes = [] := by
  generalize empty : ([] : Bytes) = wire at carries
  cases carries with
  | nothing => rfl
  | frame tells carries => exact absurd (List.append_eq_nil_iff.mp empty.symm).1 tells.nonempty

/-- Whoever reads a message from the stream gets the first request. -/
theorem take {receiveTime : UInt64} {limit : Nat} {heard : Message} {rest : Bytes}
    (carries : Carries format wire wishes)
    (taken : Frame.Reader.take receiveTime (.start format limit) wire = .message heard rest) :
    ∃ wish? later, wishes = wish? :: later ∧ Carries format rest later ∧
      ∀ (schemas : Schemas) (request : Request),
        Request.classify schemas heard = .ok request ->
          request.isAnswered = true ∧ request.wish? = wish? := by
  cases carries with
  | nothing => cases taken
  | frame tells carries =>
      rcases tells.understood taken with ⟨rfl, means⟩
      exact ⟨_, _, rfl, carries, means⟩

end Carries

/-! ## What stays true -/

variable {behaviour : Behaviour σ} {config : Config} {conversation : Conversation σ}

/-- With what is still on its way, the broker will have heard what the client has noted. -/
structure Faithful (behaviour : Behaviour σ) (config : Config) (unheard : List (Option Wish))
    (conversation : Conversation σ) : Prop where
  reachable : conversation.bus.Reachable behaviour config
  registered : conversation.bus.broker.modules.isRegistered conversation.handle = true
  ordinary : conversation.client.isLogger = false
  format : conversation.client.settings.format = config.format
  carries : Carries config.format conversation.wire unheard
  noted : ∀ messageType, messageType ∈ conversation.client.subscribed ↔
    Wishes.wants messageType ((unheard.filterMap id).reverse ++
      wishes conversation.handle conversation.bus.history) = true
  underway : Client.Underway config.format conversation.progress

namespace Faithful

variable {unheard : List (Option Wish)}

theorem opens (opens : conversation.Opens behaviour config) :
    Faithful behaviour config [] conversation where
  reachable := opens.reachable
  registered := opens.registered
  ordinary := opens.ordinary
  format := opens.format
  carries := opens.clear ▸ .nothing
  noted messageType := by
    rw [opens.plain, opens.silent]
    exact iff_of_false List.not_mem_nil Bool.false_ne_true
  underway := .of_isFinished opens.idle

theorem elsewhere (faithful : Faithful behaviour config unheard conversation) {move : Move σ}
    (foreign : move.isFrom conversation.handle = false)
    (registered : (conversation.bus.step behaviour move).broker.modules.isRegistered
      conversation.handle = true) :
    Faithful behaviour config unheard (conversation.step behaviour (.elsewhere move)) where
  reachable := faithful.reachable.step move
  registered := registered
  ordinary := faithful.ordinary
  format := faithful.format
  carries := faithful.carries
  noted messageType := by
    show _ ↔ Wishes.wants messageType ((unheard.filterMap id).reverse ++
      wishes conversation.handle (conversation.bus.step behaviour move).history) = true
    rw [Bus.wishes_step_of_foreign behaviour foreign]
    exact faithful.noted messageType
  underway := faithful.underway

theorem hears (faithful : Faithful behaviour config unheard conversation) {receiveTime : UInt64}
    (acknowledged : conversation.isAcknowledged receiveTime = true) :
    ∃ later, Faithful behaviour config later (conversation.hear behaviour receiveTime) := by
  unfold isAcknowledged at acknowledged
  unfold hear
  cases next : conversation.next? receiveTime with
  | none => exact ⟨unheard, faithful⟩
  | some both =>
      rcases both with ⟨message, rest⟩
      rw [next] at acknowledged
      have taken := taken_of_next next
      rw [faithful.reachable.sound.config_eq] at taken
      rcases faithful.carries.take taken with ⟨wish?, later, rfl, carries, means⟩
      rcases Broker.understood_of_acknowledges acknowledged with
        ⟨request, understood⟩
      rcases means _ request understood with ⟨answered, rfl⟩
      have asked := Broker.wish?_of_understood faithful.registered understood
      have stays := Broker.isRegistered_receive faithful.registered understood answered
      exact ⟨later, {
        reachable := faithful.reachable.step (.occasion (.event (.message _ message)))
        registered := stays
        ordinary := faithful.ordinary
        format := faithful.format
        carries
        noted := fun messageType => by
          show _ ↔ Wishes.wants messageType ((later.filterMap id).reverse ++
            wishes conversation.handle (conversation.bus.history ++ [_])) = true
          rw [wishes_met, asked]
          have noted := faithful.noted messageType
          generalize request.wish? = wish? at noted
          cases wish? <;> simpa using noted
        underway := faithful.underway }⟩

/-- A client that wants what it wanted before stays as faithful as it was. -/
theorem unmoved (faithful : Faithful behaviour config unheard conversation)
    {progress : Client.Progress} {client : Client}
    (moved : Client.Unmoved conversation.client client)
    (underway : Client.Underway config.format progress) :
    Faithful behaviour config unheard { conversation with client, progress } where
  reachable := faithful.reachable
  registered := faithful.registered
  ordinary := moved.isLogger.trans faithful.ordinary
  format := (congrArg ClientSettings.format moved.settings).trans faithful.format
  carries := faithful.carries
  noted messageType := by
    show messageType ∈ client.subscribed ↔ _
    rw [moved.subscribed]
    exact faithful.noted messageType
  underway := underway

theorem heeding (faithful : Faithful behaviour config unheard conversation)
    {wish? : Option Wish} {progress : Client.Progress} {client : Client} {frame : Bytes}
    (tells : Frame.Tells config.format wish? frame)
    (heeds : Client.Heeds wish? conversation.client client)
    (underway : Client.Underway config.format progress) :
    Faithful behaviour config (unheard ++ [wish?])
      { conversation with client, progress, wire := conversation.wire ++ frame } where
  reachable := faithful.reachable
  registered := faithful.registered
  ordinary := heeds.isLogger.trans faithful.ordinary
  format := (congrArg ClientSettings.format heeds.settings).trans faithful.format
  carries := faithful.carries.append tells
  noted messageType := by
    show messageType ∈ client.subscribed ↔ _
    rw [List.filterMap_append, List.reverse_append]
    cases wish? with
    | none =>
        rw [Client.Unmoved.subscribed heeds]
        exact faithful.noted messageType
    | some wish =>
        show _ ↔ Wishes.wants messageType (wish :: (_ ++ _)) = true
        rw [Client.Noted.subscribed heeds, faithful.noted]
        rcases wish with ⟨wished, isWanted⟩
        by_cases same : messageType = wished
        · subst same
          rw [if_pos rfl, Wishes.wants_cons_self]
        · rw [if_neg same, Wishes.wants_cons_of_ne same]
          exact Iff.rfl
  underway := underway

theorem goesOn (faithful : Faithful behaviour config unheard conversation) (now : Milliseconds)
    (signal : Client.Signal) :
    ∃ later, Faithful behaviour config later (conversation.goOn now signal) := by
  unfold goOn
  have underway := faithful.underway
  cases current : conversation.progress with
  | finished result => exact ⟨unheard, faithful⟩
  | waiting need rest =>
      rw [current, ← faithful.format] at underway
      rcases Client.underway_proceed underway now signal with ⟨still, silent | heeding⟩
      · rcases silent with ⟨nothing, moved⟩
        rw [faithful.format] at still
        refine ⟨unheard, ?_⟩
        dsimp only
        rw [nothing, List.append_nil]
        exact faithful.unmoved moved still
      · rcases heeding with ⟨wish?, tells, heeds⟩
        rw [faithful.format] at still tells
        exact ⟨unheard ++ [wish?], faithful.heeding tells heeds still⟩

theorem turn (faithful : Faithful behaviour config unheard conversation) {turn : Turn σ}
    (permitted : conversation.permits behaviour turn = true) :
    ∃ later, Faithful behaviour config later (conversation.step behaviour turn) := by
  cases turn with
  | elsewhere move =>
      rcases Bool.and_eq_true_iff.mp permitted with ⟨foreign, registered⟩
      exact ⟨unheard, faithful.elsewhere (Bool.not_eq_true' _ ▸ foreign) registered⟩
  | hears receiveTime => exact faithful.hears permitted
  | begins now call =>
      rcases Bool.and_eq_true_iff.mp permitted with ⟨idle, asks⟩
      rcases Client.poised_begin now conversation.client asks with ⟨progress, begun, poised⟩
      rw [faithful.format] at poised
      unfold step
      dsimp only
      rw [begun]
      exact ⟨unheard, faithful.unmoved (.refl _) (.poised poised)⟩
  | goesOn now signal => exact faithful.goesOn now signal
  | arrives arrivals =>
      have moved : Client.Unmoved conversation.client (conversation.client.deliver arrivals) :=
        ⟨rfl, rfl, rfl⟩
      exact ⟨unheard, faithful.unmoved moved faithful.underway⟩

end Faithful

theorem Reachable.faithful (reachable : conversation.Reachable behaviour config) :
    ∃ unheard, Faithful behaviour config unheard conversation := by
  induction reachable with
  | start opens => exact ⟨[], .opens opens⟩
  | step reachable permitted ih =>
      rcases ih with ⟨unheard, faithful⟩
      exact faithful.turn permitted

theorem Reachable.run (reachable : conversation.Reachable behaviour config)
    {turns : List (Turn σ)} (permitted : conversation.permitsAll behaviour turns = true) :
    (conversation.run behaviour turns).Reachable behaviour config := by
  induction turns generalizing conversation with
  | nil => exact reachable
  | cons turn rest ih =>
      rcases Bool.and_eq_true_iff.mp permitted with ⟨first, later⟩
      exact ih (reachable.step first) later

/-! ## A small conversation -/

/-- A module that has just been let in, and its client. -/
def opening : Conversation (Handle -> Nat) where
  bus := (Bus.vacant 20).run QueueRule.bounded.each (Bus.joining 1 0 false)
  handle := 1
  client :=
    { settings := {}
      pid := 1
      clock := {}
      moduleId := 100
      line := some { server := ⟨.v4 [127, 0, 0, 1], 7111, 0⟩ } }
  progress := .finished (.ok .done)

/-- A call about one type that goes well: the request is written and read, and what the
manager answers comes in. -/
def asking (call : Client.Call) : List (Turn σ) :=
  let answer := (Message.signal {} MessageType.acknowledge).addressed 100 0
  [.begins 0 call, .goesOn 0 .written, .hears 0, .elsewhere .deliver,
    .arrives [.message answer], .goesOn 0 .arrived]

theorem opening_reachable : opening.Reachable QueueRule.bounded.each {} :=
  .start
    { reachable := (Bus.vacant_reachable 20).run _
      registered := by decide +kernel
      silent := by decide +kernel
      ordinary := rfl
      plain := rfl
      format := rfl
      idle := rfl
      clear := rfl }

/-! ## What follows for the two accounts -/

/-- What the broker sends follows from what it has heard. -/
theorem Reachable.sends_iff (reachable : conversation.Reachable behaviour config)
    (messageType : MessageType) :
    conversation.bus.broker.subscriptions.wants conversation.handle messageType = true ↔
      (wishes conversation.handle conversation.bus.history).wants MessageType.everything = true ∨
        (wishes conversation.handle conversation.bus.history).wants messageType = true ∧
          (wishes conversation.handle conversation.bus.history).isLapsed messageType = false := by
  rcases reachable.faithful with ⟨unheard, faithful⟩
  exact faithful.reachable.wants_iff faithful.registered messageType

/-- What the client accepts follows from the same, once everything has been heard. -/
theorem Reachable.accepts_iff (reachable : conversation.Reachable behaviour config)
    (quiet : conversation.wire = []) (messageType : MessageType) :
    conversation.client.accepts messageType = true ↔
      (wishes conversation.handle conversation.bus.history).wants messageType = true ∨
        (wishes conversation.handle conversation.bus.history).wants MessageType.everything =
          true := by
  rcases reachable.faithful with ⟨unheard, faithful⟩
  have heard : unheard = [] := Carries.eq_nil (quiet ▸ faithful.carries)
  have noted := faithful.noted
  rw [heard, List.filterMap_nil, List.reverse_nil, List.nil_append] at noted
  unfold Client.accepts
  rw [faithful.ordinary]
  simp [noted]

/-- Once everything has been heard, the broker sends the client a type if and only if
the client wants to see it, unless the request for the single type has lapsed. -/
theorem Reachable.agree_unless_lapsed (reachable : conversation.Reachable behaviour config)
    (quiet : conversation.wire = []) (messageType : MessageType) :
    conversation.bus.broker.subscriptions.wants conversation.handle messageType = true ↔
      conversation.client.accepts messageType = true ∧
        (conversation.client.accepts MessageType.everything = true ∨
          (wishes conversation.handle conversation.bus.history).isLapsed messageType = false) := by
  rw [reachable.sends_iff, reachable.accepts_iff quiet, reachable.accepts_iff quiet, or_self]
  tauto

/-- After a single type was asked for, both know that it is wanted, and no other. -/
theorem agree_after_single :
    let asked := opening.run QueueRule.bounded.each (asking (.subscribe [5]))
    asked.wire = [] ∧ asked.client.accepts 5 = true ∧ asked.client.accepts 6 = false ∧
      ∀ messageType, asked.bus.broker.subscriptions.wants asked.handle messageType = true ↔
        asked.client.accepts messageType = true ∧
          (asked.client.accepts MessageType.everything = true ∨
            (wishes asked.handle asked.bus.history).isLapsed messageType = false) := by
  intro asked
  have reached : asked.Reachable QueueRule.bounded.each {} :=
    opening_reachable.run (by decide +kernel)
  have quiet : asked.wire = [] := by decide +kernel
  exact ⟨quiet, by decide +kernel, by decide +kernel, reached.agree_unless_lapsed quiet⟩

/-- A single type is asked for, then everything, and then everything is given up: the
client still waits for the type, and the broker does not send it any more. -/
theorem not_agree_after_everything :
    let single := opening.run QueueRule.bounded.each (asking (.subscribe [5]))
    let every := single.run QueueRule.bounded.each (asking (.subscribe [MessageType.everything]))
    let given := every.run QueueRule.bounded.each (asking (.unsubscribe [MessageType.everything]))
    given.Reachable QueueRule.bounded.each {} ∧ given.wire = [] ∧
      given.progress.isFinished = true ∧ given.client.accepts 5 = true ∧
      given.bus.broker.subscriptions.wants given.handle 5 = false := by
  intro single every given
  have first : single.Reachable QueueRule.bounded.each {} :=
    opening_reachable.run (by decide +kernel)
  have second : every.Reachable QueueRule.bounded.each {} := first.run (by decide +kernel)
  have third : given.Reachable QueueRule.bounded.each {} := second.run (by decide +kernel)
  exact ⟨third, by decide +kernel, by decide +kernel, by decide +kernel, by decide +kernel⟩

/-- A client that has never spoken of everything agrees with the broker. -/
theorem Reachable.agree_of_singles (reachable : conversation.Reachable behaviour config)
    (quiet : conversation.wire = [])
    (singles : ∀ wish ∈ wishes conversation.handle conversation.bus.history,
      wish.messageType ≠ MessageType.everything) (messageType : MessageType) :
    conversation.bus.broker.subscriptions.wants conversation.handle messageType =
      conversation.client.accepts messageType := by
  rw [Bool.eq_iff_iff, reachable.sends_iff, reachable.accepts_iff quiet,
    Wishes.isLapsed_of_singles singles, and_iff_left rfl, or_comm]

end Conversation

end MessageBus
