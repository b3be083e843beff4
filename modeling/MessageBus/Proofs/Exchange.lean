import MessageBus.Proofs.Conversation

namespace MessageBus

open Wire History

/-!
# What an acknowledgement proves

A call that makes a request is successful when an acknowledgement has come.  It takes
the first one in line, for which module it may be and whatever it may be an answer
to.  So its success shows that the request was granted only if no other acknowledgement
can be there in place of the right one.

Three things can bring a wrong one.  A logger sees the answers to everybody else.  A
message that only looks like an answer can be passed on to whoever subscribed to
it.  And the answer to a call that was given up can come during the next one.  The
theorems here are about an exchange of which all three are excluded: the module is no
logger, nothing of the kind is passed on, and the calls end with the first one that
fails.  Then a call is successful only if the broker has granted each of its requests
(`Exchange.Reachable.granted_of_success`).  If the first exclusion is left out, this is
not so (`Exchange.not_granted_of_logger`).

The account that decides it is `Exchange.outstanding`, the number of acknowledgements
that the client may still see.  It is zero between the calls.  A request adds one to it
if the broker grants the request, and nothing else adds anything.
-/

/-- A header without what is filled in on the way: its running number, and when it was
received. -/
def Wire.Header.unstamped (header : Header) : Header :=
  { header with messageCount := 0, receiveTime := 0 }

/-- The message that arrives, if it is one. -/
def Arrival.message? : Arrival -> Option Message
  | .message heard => some heard
  | .failure _ => none

/-- Acknowledgements come in only as messages. -/
theorem Arrival.countP_isAnswer (arrivals : List Arrival) :
    arrivals.countP Arrival.isAnswer =
      ((arrivals.filterMap Arrival.message?).map (·.header.unstamped)).countP
        (·.messageType = MessageType.acknowledge) := by
  induction arrivals with
  | nil => rfl
  | cons arrival rest ih =>
      cases arrival with
      | message heard =>
          have found : (message heard).message? = some heard := rfl
          rw [List.countP_cons, ih, List.filterMap_cons_some found, List.map_cons,
            List.countP_cons]
          rfl
      | failure error =>
          have nothing : (failure error).message? = none := rfl
          rw [List.countP_cons_of_neg Bool.false_ne_true, ih, List.filterMap_cons_none nothing]

namespace Client

/-- Whether a call waits for an answer. -/
def Progress.awaitsAnswer : Progress -> Bool
  | .waiting need _ => need.isAnswer
  | .finished _ => false

def Progress.hasSucceeded : Progress -> Bool
  | .finished (.ok _) => true
  | .finished (.error _) | .waiting _ _ => false

def Progress.hasFailed : Progress -> Bool
  | .finished (.error _) => true
  | .finished (.ok _) | .waiting _ _ => false

theorem Progress.isFinished_of_hasSucceeded {progress : Progress}
    (succeeded : progress.hasSucceeded = true) : progress.isFinished = true := by
  cases progress with
  | finished result => rfl
  | waiting need rest => cases succeeded

theorem Progress.hasFailed_of_hasSucceeded {progress : Progress}
    (succeeded : progress.hasSucceeded = true) : progress.hasFailed = false := by
  cases progress with
  | finished result =>
      cases result with
      | ok reply => rfl
      | error error => cases succeeded
  | waiting need rest => rfl

theorem Progress.awaitsAnswer_of_isFinished {progress : Progress}
    (finished : progress.isFinished = true) : progress.awaitsAnswer = false := by
  cases progress with
  | finished result => rfl
  | waiting need rest => cases finished

theorem Poised.awaitsAnswer_eq {format : Format} {progress : Progress}
    (poised : Poised format progress) : progress.awaitsAnswer = false := by
  cases poised <;> rfl

/-- The acknowledgements that arrive stand in line, if there is a line. -/
theorem answersIn_deliver_le (client : Client) (arrivals : List Arrival) :
    (client.deliver arrivals).answersIn ≤
      client.answersIn + arrivals.countP Arrival.isAnswer := by
  unfold answersIn inLine deliver
  rw [List.countP_append, List.countP_append]
  cases client.line with
  | none => exact Nat.le_add_right _ _
  | some line =>
      show _ + (line.inbox ++ arrivals).countP _ ≤ _
      rw [List.countP_append, Nat.add_assoc]
      exact Nat.le_refl _

end Client

namespace Broker

variable {broker : Broker} {handle : Handle} {message : Message}

/-- What is answered if it is understood is not passed on. -/
theorem accepted?_of_isAnswered
    (means : ∀ request, Request.classify broker.schemas message = .ok request ->
      request.isAnswered = true) : broker.accepted? handle message = none := by
  refine accepted?_of_control fun application => ?_
  cases means .other ((Request.classify_eq_other_iff _ _).mpr application)

end Broker

/-- A conversation, and an account of what has come of it. -/
structure Exchange (σ : Type) extends Conversation σ where
  /-- How many of the frames that were put into its queue the client has got. -/
  seen : Nat := 0
  /-- The frames that the client has sent. -/
  sent : List Bytes := []
  /-- Those of them that the broker has granted. -/
  granted : List Bytes := []

namespace Exchange

/-- The frame that the broker reads next, if it grants it. -/
def grants (exchange : Exchange σ) (receiveTime : UInt64) : List Bytes :=
  match exchange.next? receiveTime with
  | none => []
  | some (message, rest) =>
      if exchange.bus.broker.acknowledges exchange.handle message then
        [exchange.wire.take (exchange.wire.length - rest.length)]
      else []

/-- The frame that the client hands over when it goes on, if there is one. -/
def sends (exchange : Exchange σ) (signal : Client.Signal) : List Bytes :=
  match exchange.progress with
  | .finished _ => []
  | .waiting need _ =>
      let frame := Client.handedOver need signal
      if frame = [] then [] else [frame]

def step (behaviour : Behaviour σ) (exchange : Exchange σ) (turn : Turn σ) : Exchange σ :=
  let conversation := exchange.toConversation.step behaviour turn
  match turn with
  | .elsewhere _ | .begins _ _ => { exchange with toConversation := conversation }
  | .hears receiveTime =>
      { exchange with
        toConversation := conversation
        granted := exchange.granted ++ exchange.grants receiveTime }
  | .goesOn _ signal =>
      { exchange with
        toConversation := conversation
        sent := exchange.sent ++ exchange.sends signal }
  | .arrives arrivals =>
      { exchange with
        toConversation := conversation
        seen := exchange.seen + (arrivals.filterMap Arrival.message?).length }

/-- Whether the messages that arrive are the next ones in the queue. -/
def isNext (exchange : Exchange σ) (arrivals : List Arrival) : Bool :=
  (arrivals.filterMap Arrival.message?).map (·.header.unstamped) <+:
    ((received exchange.handle exchange.bus.history).drop exchange.seen).map (·.header.unstamped)

/-- What is taken for granted about an exchange: the client makes one row of requests
after the other as long as they succeed, it gets what was put into its queue, and
nothing that looks like an acknowledgement is passed on. -/
def allows (behaviour : Behaviour σ) (exchange : Exchange σ) : Turn σ -> Bool
  | .elsewhere move =>
      !move.isFrom exchange.handle && IsGenuine (exchange.bus.step behaviour move).history
  | .begins _ call => exchange.progress.hasSucceeded && call.isRequest
  | .arrives arrivals => exchange.isNext arrivals
  | .hears _ | .goesOn _ _ => true

/-- Whether all of this holds, one turn after the other. -/
def allowsAll (behaviour : Behaviour σ) (exchange : Exchange σ) : List (Turn σ) -> Bool
  | [] => true
  | turn :: rest =>
      exchange.allows behaviour turn && (exchange.step behaviour turn).allowsAll behaviour rest

def run (behaviour : Behaviour σ) (exchange : Exchange σ) (turns : List (Turn σ)) : Exchange σ :=
  turns.foldl (step behaviour) exchange

/-- The number of acknowledgements that the client may still see. -/
def outstanding (exchange : Exchange σ) : Nat :=
  exchange.bus.due exchange.handle exchange.seen + exchange.client.answersIn

/-- An ordinary module has been let in and has seen the answer to that. -/
structure Opens (behaviour : Behaviour σ) (config : Config) (exchange : Exchange σ) : Prop where
  reachable : exchange.bus.Reachable behaviour config
  ordinary : exchange.bus.broker.modules.IsOrdinary exchange.handle
  genuine : IsGenuine exchange.bus.history
  format : exchange.client.settings.format = config.format
  idle : exchange.progress.isFinished = true
  clear : exchange.wire = []
  quiet : exchange.outstanding = 0
  even : exchange.granted = exchange.sent

/-- The states of all exchanges. -/
inductive Reachable (behaviour : Behaviour σ) (config : Config) : Exchange σ -> Prop where
  | start {exchange : Exchange σ} (opens : exchange.Opens behaviour config) :
      Reachable behaviour config exchange
  | step {exchange : Exchange σ} (reachable : Reachable behaviour config exchange)
      {turn : Turn σ} (allowed : exchange.allows behaviour turn = true) :
      Reachable behaviour config (exchange.step behaviour turn)

/-! ## What a turn does -/

variable {exchange : Exchange σ} {receiveTime : UInt64} {message : Message} {rest : Bytes}

theorem step_hears_of_none (behaviour : Behaviour σ) (next : exchange.next? receiveTime = none) :
    exchange.step behaviour (.hears receiveTime) = exchange := by
  unfold step Conversation.step Conversation.hear grants
  dsimp only
  rw [next]
  simp

theorem step_hears_of_some (behaviour : Behaviour σ)
    (next : exchange.next? receiveTime = some (message, rest)) :
    exchange.step behaviour (.hears receiveTime) =
      { exchange with
        bus := exchange.bus.step behaviour (.occasion (.event (.message exchange.handle message)))
        wire := rest
        granted := exchange.granted ++
          if exchange.bus.broker.acknowledges exchange.handle message then
            [exchange.wire.take (exchange.wire.length - rest.length)]
          else [] } := by
  unfold step Conversation.step Conversation.hear grants
  dsimp only
  rw [next]

theorem step_goesOn_of_finished (behaviour : Behaviour σ) {now : Milliseconds}
    {signal : Client.Signal} {result : Except ClientError Client.Reply}
    (current : exchange.progress = .finished result) :
    exchange.step behaviour (.goesOn now signal) = exchange := by
  unfold step Conversation.step Conversation.goOn sends
  dsimp only
  rw [current]
  simp

theorem step_goesOn_of_waiting (behaviour : Behaviour σ) {now : Milliseconds}
    {signal : Client.Signal} {need : Client.Need} {steps : List Client.Step}
    (current : exchange.progress = .waiting need steps) :
    exchange.step behaviour (.goesOn now signal) =
      let frame := Client.handedOver need signal
      { exchange with
        progress := (exchange.client.proceed now need steps signal).1
        client := (exchange.client.proceed now need steps signal).2
        wire := exchange.wire ++ frame
        sent := exchange.sent ++ if frame = [] then [] else [frame] } := by
  unfold step Conversation.step Conversation.goOn sends
  dsimp only
  rw [current]

/-- What arrives is not due any more. -/
theorem due_of_isNext {arrivals : List Arrival} (next : exchange.isNext arrivals = true) :
    exchange.bus.due exchange.handle exchange.seen = arrivals.countP Arrival.isAnswer +
      exchange.bus.due exchange.handle
        (exchange.seen + (arrivals.filterMap Arrival.message?).length) := by
  let heard := (arrivals.filterMap Arrival.message?).map (·.header.unstamped)
  let unread := (received exchange.handle exchange.bus.history).drop exchange.seen
  have looks : ∀ frames : List Pending,
      frames.countP (·.header.messageType = MessageType.acknowledge) =
        (frames.map (·.header.unstamped)).countP (·.messageType = MessageType.acknowledge) := by
    intro frames
    rw [List.countP_map]
    rfl
  have first : heard <+: unread.map (·.header.unstamped) := of_decide_eq_true next
  have taken : (unread.take heard.length).map (·.header.unstamped) = heard := by
    rw [List.map_take]
    exact (List.prefix_iff_eq_take.mp first).symm
  have length : heard.length = (arrivals.filterMap Arrival.message?).length :=
    List.length_map _
  show unread.countP _ + _ = _ + (List.countP _ _ + _)
  rw [← List.drop_drop, ← length, Arrival.countP_isAnswer, ← Nat.add_assoc]
  conv_lhs => rw [← List.take_append_drop heard.length unread, List.countP_append, looks, taken]

/-! ## Where a request can be -/

/-- The request that is waited for has not been granted, and there is no acknowledgement;
or it has been granted, and there is at most one. -/
inductive Pends (format : Format) (exchange : Exchange σ) : Prop where
  | asked {wish? : Option Wish} {frame : Bytes}
      (way : exchange.wire = frame ∨ exchange.wire = [])
      (tells : Frame.Tells format wish? frame) (quiet : exchange.outstanding = 0)
      (last : exchange.sent = exchange.granted ++ [frame])
  | answered (clear : exchange.wire = []) (once : exchange.outstanding ≤ 1)
      (even : exchange.granted = exchange.sent)

/-- Either nothing is on its way, or a request is waited for. -/
inductive Phase (format : Format) (exchange : Exchange σ) : Prop where
  | settled (rests : exchange.progress.awaitsAnswer = false) (clear : exchange.wire = [])
      (quiet : exchange.outstanding = 0) (even : exchange.granted = exchange.sent)
  | pending (awaits : exchange.progress.awaitsAnswer = true) (pends : exchange.Pends format)

section

variable {format : Format} {exchange after : Exchange σ}

theorem Phase.settled_of_rests (phase : exchange.Phase format)
    (rests : exchange.progress.awaitsAnswer = false) :
    exchange.wire = [] ∧ exchange.outstanding = 0 ∧ exchange.granted = exchange.sent := by
  cases phase with
  | settled _ clear quiet even => exact ⟨clear, quiet, even⟩
  | pending awaits => exact absurd (rests.symm.trans awaits) Bool.false_ne_true

theorem Phase.pends_of_awaits (phase : exchange.Phase format)
    (awaits : exchange.progress.awaitsAnswer = true) : exchange.Pends format := by
  cases phase with
  | settled rests => exact absurd (rests.symm.trans awaits) Bool.false_ne_true
  | pending _ pends => exact pends

/-- What is on the wire is the request that is waited for. -/
theorem Phase.asked_of_full (phase : exchange.Phase format) (full : exchange.wire ≠ []) :
    exchange.progress.awaitsAnswer = true ∧ exchange.outstanding = 0 ∧
      exchange.sent = exchange.granted ++ [exchange.wire] ∧
        ∃ wish?, Frame.Tells format wish? exchange.wire := by
  cases phase with
  | settled rests clear quiet even => exact absurd clear full
  | pending awaits pends =>
      cases pends with
      | @asked wish? frame way tells quiet last =>
          obtain rfl := way.resolve_right full
          exact ⟨awaits, quiet, last, wish?, tells⟩
      | answered clear once even => exact absurd clear full

/-- Nothing about a phase changes if acknowledgements get lost. -/
theorem Phase.of_le (phase : exchange.Phase format) (progress : after.progress = exchange.progress)
    (wire : after.wire = exchange.wire) (sent : after.sent = exchange.sent)
    (granted : after.granted = exchange.granted)
    (fewer : after.outstanding ≤ exchange.outstanding) : after.Phase format := by
  cases phase with
  | settled rests clear quiet even =>
      exact .settled (progress ▸ rests) (wire ▸ clear) (Nat.le_zero.mp (quiet ▸ fewer))
        (granted.trans (even.trans sent.symm))
  | pending awaits pends =>
      refine .pending (progress ▸ awaits) ?_
      cases pends with
      | asked way tells quiet last =>
          exact .asked (wire ▸ way) tells (Nat.le_zero.mp (quiet ▸ fewer))
            (by rw [sent, last, granted])
      | answered clear once even =>
          exact .answered (wire ▸ clear) (fewer.trans once) (granted.trans (even.trans sent.symm))

/-- Once the broker has read the request, it is granted or it is not. -/
theorem Pends.of_heard {wish? : Option Wish} (quiet : exchange.outstanding = 0)
    (last : exchange.sent = exchange.granted ++ [exchange.wire])
    (tells : Frame.Tells format wish? exchange.wire) {bus : Bus σ} {isGranted : Bool}
    (due : bus.due exchange.handle exchange.seen =
      exchange.bus.due exchange.handle exchange.seen + isGranted.toNat) :
    Pends format { exchange with
      bus
      wire := []
      granted := exchange.granted ++ if isGranted then [exchange.wire] else [] } := by
  unfold outstanding at quiet
  cases isGranted with
  | true =>
      refine .answered rfl ?_ last.symm
      show bus.due exchange.handle exchange.seen + exchange.client.answersIn ≤ 1
      rw [due, Bool.toNat_true]
      omega
  | false =>
      refine .asked (Or.inr rfl) tells ?_ ?_
      · show bus.due exchange.handle exchange.seen + exchange.client.answersIn = 0
        rw [due]
        exact quiet
      · show exchange.sent = (exchange.granted ++ []) ++ [exchange.wire]
        rw [last, List.append_nil]

/-- A call that finds an acknowledgement has found that of its request. -/
theorem Pends.resume (pends : exchange.Pends format) {progress : Client.Progress}
    {client : Client} (resumed : Client.Resumed format exchange.client (progress, client)) :
    progress.hasFailed = true ∨ Phase format { exchange with progress, client } := by
  cases resumed with
  | failed unmoved => exact Or.inl rfl
  | answered poised unmoved taken =>
      cases pends with
      | asked way tells quiet last =>
          have none : exchange.client.answersIn = 0 := (Nat.add_eq_zero_iff.mp quiet).2
          rw [taken] at none
          cases none
      | answered clear once even =>
          refine Or.inr (.settled poised.awaitsAnswer_eq clear ?_ even)
          have both : exchange.bus.due exchange.handle exchange.seen +
              exchange.client.answersIn ≤ 1 := once
          show exchange.bus.due exchange.handle exchange.seen + client.answersIn = 0
          omega
  | unanswered others later unmoved before still =>
      have same : exchange.outstanding = exchange.bus.due exchange.handle exchange.seen := by
        unfold outstanding
        rw [before, Nat.add_zero]
      refine Or.inr (.pending rfl ?_)
      cases pends with
      | asked way tells quiet last =>
          refine .asked way tells ?_ last
          show _ + client.answersIn = 0
          rw [still, Nat.add_zero, ← same]
          exact quiet
      | answered clear once even =>
          refine .answered clear ?_ even
          show _ + client.answersIn ≤ 1
          rw [still, Nat.add_zero, ← same]
          exact once

/-- The client goes on and fails, or finds the answer to its request, or waits for the
answer to the one that it has sent. -/
theorem Phase.proceed (phase : exchange.Phase format) {need : Client.Need}
    {steps : List Client.Step} {signal : Client.Signal} {result : Client.Progress × Client}
    (current : exchange.progress = .waiting need steps)
    (proceeded : Client.Proceeded format exchange.client need steps signal result) :
    let frame := Client.handedOver need signal
    result.1.hasFailed = true ∨ Phase format { exchange with
      progress := result.1
      client := result.2
      wire := exchange.wire ++ frame
      sent := exchange.sent ++ if frame = [] then [] else [frame] } := by
  dsimp only
  cases proceeded with
  | waits silent =>
      rw [silent, if_pos rfl, List.append_nil, List.append_nil, ← current]
      exact Or.inr phase
  | failed silent unmoved => exact Or.inl rfl
  | @sent wish? between result isRoom tells heeds sameLine resumed =>
      rcases phase.settled_of_rests (current ▸ isRoom) with ⟨clear, quiet, even⟩
      rw [if_neg tells.nonempty, clear, List.nil_append]
      have asked : Pends format { exchange with
          client := between
          wire := Client.handedOver need signal
          sent := exchange.sent ++ [Client.handedOver need signal] } := by
        refine .asked (Or.inl rfl) tells ?_ (by rw [even])
        have answers : between.answersIn = exchange.client.answersIn := by
          unfold Client.answersIn
          rw [sameLine]
        show _ + between.answersIn = 0
        rw [answers]
        exact quiet
      exact asked.resume resumed
  | resumed isAnswer silent resumed =>
      rw [silent, if_pos rfl, List.append_nil, List.append_nil]
      exact (phase.pends_of_awaits (current ▸ isAnswer)).resume resumed

end

variable {behaviour : Behaviour σ} {config : Config} {exchange : Exchange σ}

/-- Every acknowledgement that the client can see is accounted for. -/
structure Balanced (behaviour : Behaviour σ) (config : Config) (exchange : Exchange σ) :
    Prop where
  reachable : exchange.bus.Reachable behaviour config
  ordinary : exchange.bus.broker.modules.IsOrdinary exchange.handle
  genuine : IsGenuine exchange.bus.history
  format : exchange.client.settings.format = config.format
  underway : Client.Underway config.format exchange.progress
  phase : exchange.Phase config.format

namespace Balanced

theorem opens (opens : exchange.Opens behaviour config) : Balanced behaviour config exchange where
  reachable := opens.reachable
  ordinary := opens.ordinary
  genuine := opens.genuine
  format := opens.format
  underway := .of_isFinished opens.idle
  phase := .settled (Client.Progress.awaitsAnswer_of_isFinished opens.idle) opens.clear
    opens.quiet opens.even

theorem elsewhere (balanced : Balanced behaviour config exchange) {move : Move σ}
    (foreign : move.isFrom exchange.handle = false)
    (genuine : IsGenuine (exchange.bus.step behaviour move).history) :
    Balanced behaviour config (exchange.step behaviour (.elsewhere move)) where
  reachable := balanced.reachable.step move
  ordinary := balanced.ordinary.of_succeeds
    (Bus.succeeds_step behaviour balanced.reachable.sound move)
  genuine := genuine
  format := balanced.format
  underway := balanced.underway
  phase := by
    have fewer := Bus.due_step_le balanced.reachable balanced.genuine balanced.ordinary foreign
      exchange.seen
    exact balanced.phase.of_le rfl rfl rfl rfl (Nat.add_le_add_right fewer _)

/-- The broker reads the request that is on the wire, and grants it or does not. -/
theorem hears (balanced : Balanced behaviour config exchange) (receiveTime : UInt64) :
    Balanced behaviour config (exchange.step behaviour (.hears receiveTime)) := by
  cases next : exchange.next? receiveTime with
  | none =>
      rw [step_hears_of_none behaviour next]
      exact balanced
  | some both =>
      rcases both with ⟨message, rest⟩
      have taken := Conversation.taken_of_next next
      rw [balanced.reachable.sound.config_eq] at taken
      have full : exchange.wire ≠ [] := by
        intro empty
        rw [empty] at taken
        cases taken
      rcases balanced.phase.asked_of_full full with ⟨awaits, quiet, last, wish?, tells⟩
      rw [← List.append_nil exchange.wire] at taken
      rcases tells.understood taken with ⟨rfl, means⟩
      have unpassed : exchange.bus.broker.accepted? exchange.handle message = none :=
        Broker.accepted?_of_isAnswered fun request understood => (means _ request understood).1
      let move : Move σ := .occasion (.event (.message exchange.handle message))
      have due : (exchange.bus.step behaviour move).due exchange.handle exchange.seen =
          exchange.bus.due exchange.handle exchange.seen +
            (exchange.bus.broker.acknowledges exchange.handle message).toNat :=
        Bus.due_receive message exchange.handle exchange.seen
      have passed : passedOn (exchange.bus.step behaviour move).history =
          passedOn exchange.bus.history ++
            (exchange.bus.broker.accepted? exchange.handle message).toList :=
        passedOn_met ..
      rw [unpassed, Option.toList_none, List.append_nil] at passed
      rw [step_hears_of_some behaviour next, List.length_nil, Nat.sub_zero, List.take_length]
      exact {
        reachable := balanced.reachable.step move
        ordinary := balanced.ordinary.of_succeeds
          (Bus.succeeds_step behaviour balanced.reachable.sound move)
        genuine := fun pending here => balanced.genuine pending (passed ▸ here)
        format := balanced.format
        underway := balanced.underway
        phase := .pending awaits (.of_heard quiet last tells due) }

theorem begins (balanced : Balanced behaviour config exchange) (now : Milliseconds)
    {call : Client.Call} (succeeded : exchange.progress.hasSucceeded = true)
    (asks : call.isRequest = true) :
    Balanced behaviour config (exchange.step behaviour (.begins now call)) := by
  rcases Client.poised_begin now exchange.client asks with ⟨progress, begun, poised⟩
  rw [balanced.format] at poised
  have started : exchange.step behaviour (.begins now call) = { exchange with progress } := by
    unfold step Conversation.step
    dsimp only
    rw [begun]
  have rests := Client.Progress.awaitsAnswer_of_isFinished
    (Client.Progress.isFinished_of_hasSucceeded succeeded)
  rcases balanced.phase.settled_of_rests rests with ⟨clear, quiet, even⟩
  rw [started]
  exact {
    reachable := balanced.reachable
    ordinary := balanced.ordinary
    genuine := balanced.genuine
    format := balanced.format
    underway := .poised poised
    phase := .settled poised.awaitsAnswer_eq clear quiet even }

theorem arrives (balanced : Balanced behaviour config exchange) {arrivals : List Arrival}
    (next : exchange.isNext arrivals = true) :
    Balanced behaviour config (exchange.step behaviour (.arrives arrivals)) where
  reachable := balanced.reachable
  ordinary := balanced.ordinary
  genuine := balanced.genuine
  format := balanced.format
  underway := balanced.underway
  phase := by
    refine balanced.phase.of_le rfl rfl rfl rfl ?_
    have due := due_of_isNext next
    have inLine := exchange.client.answersIn_deliver_le arrivals
    show exchange.bus.due exchange.handle
        (exchange.seen + (arrivals.filterMap Arrival.message?).length) +
          (exchange.client.deliver arrivals).answersIn ≤
      exchange.bus.due exchange.handle exchange.seen + exchange.client.answersIn
    omega

theorem goesOn (balanced : Balanced behaviour config exchange) (now : Milliseconds)
    (signal : Client.Signal) :
    (exchange.step behaviour (.goesOn now signal)).progress.hasFailed = true ∨
      Balanced behaviour config (exchange.step behaviour (.goesOn now signal)) := by
  cases current : exchange.progress with
  | finished result =>
      rw [step_goesOn_of_finished behaviour current]
      exact Or.inr balanced
  | waiting need rest =>
      have underway := balanced.underway
      rw [current, ← balanced.format] at underway
      rcases Client.underway_proceed underway now signal with ⟨still, kept⟩
      have format : (exchange.client.proceed now need rest signal).2.settings.format =
          config.format := by
        rw [← balanced.format]
        rcases kept with ⟨_, unmoved⟩ | ⟨_, _, heeds⟩
        · exact congrArg ClientSettings.format unmoved.settings
        · exact congrArg ClientSettings.format heeds.settings
      have proceeded := Client.proceeded_proceed underway now signal
      rw [balanced.format] at proceeded still
      rw [step_goesOn_of_waiting behaviour current]
      refine (balanced.phase.proceed current proceeded).imp_right fun phase => ?_
      exact {
        reachable := balanced.reachable
        ordinary := balanced.ordinary
        genuine := balanced.genuine
        format
        underway := still
        phase }

theorem turn (balanced : Balanced behaviour config exchange) {turn : Turn σ}
    (allowed : exchange.allows behaviour turn = true) :
    (exchange.step behaviour turn).progress.hasFailed = true ∨
      Balanced behaviour config (exchange.step behaviour turn) := by
  cases turn with
  | elsewhere move =>
      rcases Bool.and_eq_true_iff.mp allowed with ⟨foreign, genuine⟩
      exact Or.inr (balanced.elsewhere (Bool.not_eq_true' _ ▸ foreign) (of_decide_eq_true genuine))
  | hears receiveTime => exact Or.inr (balanced.hears receiveTime)
  | begins now call =>
      rcases Bool.and_eq_true_iff.mp allowed with ⟨succeeded, asks⟩
      exact Or.inr (balanced.begins now succeeded asks)
  | goesOn now signal => exact balanced.goesOn now signal
  | arrives arrivals => exact Or.inr (balanced.arrives allowed)

end Balanced

/-- After a call that has failed nothing else is done. -/
theorem hasFailed_step (failed : exchange.progress.hasFailed = true) {turn : Turn σ}
    (allowed : exchange.allows behaviour turn = true) :
    (exchange.step behaviour turn).progress.hasFailed = true := by
  cases turn with
  | elsewhere move => exact failed
  | hears receiveTime =>
      cases next : exchange.next? receiveTime with
      | none =>
          rw [step_hears_of_none behaviour next]
          exact failed
      | some both =>
          rw [step_hears_of_some behaviour next]
          exact failed
  | begins now call =>
      have succeeded := (Bool.and_eq_true_iff.mp allowed).1
      rw [Client.Progress.hasFailed_of_hasSucceeded succeeded] at failed
      cases failed
  | goesOn now signal =>
      cases current : exchange.progress with
      | finished result =>
          rw [step_goesOn_of_finished behaviour current]
          exact failed
      | waiting need rest =>
          rw [current] at failed
          cases failed
  | arrives arrivals => exact failed

theorem Reachable.balanced (reachable : exchange.Reachable behaviour config) :
    exchange.progress.hasFailed = true ∨ Balanced behaviour config exchange := by
  induction reachable with
  | start opens => exact Or.inr (.opens opens)
  | step reachable allowed ih =>
      rcases ih with failed | balanced
      · exact Or.inl (hasFailed_step failed allowed)
      · exact balanced.turn allowed

theorem Reachable.run (reachable : exchange.Reachable behaviour config) {turns : List (Turn σ)}
    (allowed : exchange.allowsAll behaviour turns = true) :
    (exchange.run behaviour turns).Reachable behaviour config := by
  induction turns generalizing exchange with
  | nil => exact reachable
  | cons turn rest ih =>
      rcases Bool.and_eq_true_iff.mp allowed with ⟨first, later⟩
      exact ih (reachable.step first) later

/-! ## What a success shows -/

/-- When a call has been successful, the broker has granted all that the module has asked
for, and whatever looks like an acknowledgement in its queue is addressed to it. -/
theorem Reachable.granted_of_success (reachable : exchange.Reachable behaviour config)
    (succeeded : exchange.progress.hasSucceeded = true) :
    exchange.granted = exchange.sent ∧ exchange.wire = [] ∧
      ∀ module, exchange.bus.broker.modules.get? exchange.handle = some module ->
        ∀ pending ∈ received exchange.handle exchange.bus.history,
          pending.header.messageType = MessageType.acknowledge ->
            pending.header.destinationModule = module.id := by
  rcases reachable.balanced with failed | balanced
  · rw [Client.Progress.hasFailed_of_hasSucceeded succeeded] at failed
    cases failed
  · have rests := Client.Progress.awaitsAnswer_of_isFinished
      (Client.Progress.isFinished_of_hasSucceeded succeeded)
    rcases balanced.phase.settled_of_rests rests with ⟨clear, _, even⟩
    exact ⟨even, clear, fun module found pending here looks =>
      balanced.reachable.own_of_received balanced.genuine balanced.ordinary found here looks⟩

/-- The small conversation, after the module has seen that it was let in. -/
def greeted : Exchange (Handle -> Nat) where
  toConversation :=
    { Conversation.opening with
      bus := Conversation.opening.bus.run QueueRule.bounded.each [.deliver, .deliver] }
  seen := 1

theorem greeted_reachable : greeted.Reachable QueueRule.bounded.each {} :=
  .start
    { reachable := ((Bus.vacant_reachable 20).run _).run _
      ordinary := by decide +kernel
      genuine := by decide +kernel
      format := rfl
      idle := rfl
      clear := rfl
      quiet := by decide +kernel
      even := rfl }

theorem granted_after_single :
    let asked := greeted.run QueueRule.bounded.each (Conversation.asking (.subscribe [5]))
    asked.sent.length = 1 ∧ asked.progress.hasSucceeded = true ∧
      asked.granted = asked.sent ∧ asked.wire = [] ∧
      ∀ module, asked.bus.broker.modules.get? asked.handle = some module ->
        ∀ pending ∈ received asked.handle asked.bus.history,
          pending.header.messageType = MessageType.acknowledge ->
            pending.header.destinationModule = module.id := by
  intro asked
  have reached : asked.Reachable QueueRule.bounded.each {} :=
    greeted_reachable.run (by decide +kernel)
  have succeeded : asked.progress.hasSucceeded = true := by decide +kernel
  exact ⟨by decide +kernel, succeeded, reached.granted_of_success succeeded⟩

/-- A logger, and a module that has the name "b".  Of what the logger was sent, it has not
read that the other module was let in. -/
def overhearing : Exchange (Handle -> Nat) where
  bus :=
    (Bus.vacant 20).run QueueRule.bounded.each
      (Bus.joining 1 0 true ++
        [.deliver, .deliver,
          .occasion (.arrival ⟨.v4 [127, 0, 0, 1], 7111, 0⟩),
          .occasion (.event (.message 2
            { header := { messageType := MessageType.connect, dataBytes := 44 }
              timecode := none
              payload := List.replicate 12 0 ++ 98 :: List.replicate 31 0 })),
          .deliver, .deliver])
  handle := 1
  client := { Conversation.opening.client with isLogger := true }
  progress := .finished (.ok .done)
  seen := 2

/-- The logger asks for the name of the other module.  It is refused, and takes the other
one's acknowledgement for its own. -/
theorem not_granted_of_logger :
    let theirs := (Message.signal {} MessageType.acknowledge).addressed 101 0
    let turns : List (Turn (Handle -> Nat)) :=
      [.begins 0 (.rename "b"), .goesOn 0 .written, .hears 0, .arrives [.message theirs],
        .goesOn 0 .arrived]
    let renamed := overhearing.run QueueRule.bounded.each turns
    overhearing.bus.Reachable QueueRule.bounded.each {} ∧
      overhearing.bus.broker.modules.HasLogger overhearing.handle ∧
      overhearing.client.moduleId = 100 ∧
      overhearing.allowsAll QueueRule.bounded.each turns = true ∧
      renamed.progress.hasSucceeded = true ∧ renamed.sent.length = 1 ∧
      renamed.wire = [] ∧ renamed.granted = [] := by
  intro theirs turns renamed
  refine ⟨(Bus.vacant_reachable 20).run _, ?logger, rfl, ?allowed, ?success, ?sent, ?heard,
    ?refused⟩
  case logger => exact ⟨_, rfl, by decide +kernel, by decide +kernel⟩
  case allowed => decide +kernel
  case success => decide +kernel
  case sent => decide +kernel
  case heard => decide +kernel
  case refused => decide +kernel

end Exchange

end MessageBus
