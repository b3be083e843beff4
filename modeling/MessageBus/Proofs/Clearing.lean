import MessageBus.Proofs.Exchange
import MessageBus.Proofs.Reconnection

namespace MessageBus

open Wire History

/-!
# Giving everything up

To give up all its subscriptions a client gives up the types that it has noted, one after
the other, the paused ones too.  It does not ask the manager what there is to give up, and
the accounts of the two need not be the same: beside a subscription to everything the manager
has no single types, while the client still has them, and as long as everything is wanted
the manager does not even heed what is given up.

It works all the same.  The manager has nothing for a client of which the last word about each
type was that it is not wanted, whatever the order in which the words were said.  And the
client has noted every type about which its last word was another one, because it takes note of
a word as soon as it is out.  So when the client has nothing left in its notes and all that it
has said has been heard, the manager has nothing left either
(`Conversation.Ongoing.cleared`).

That the notes are without contradiction, no type being both subscribed to and paused, is true
of a client at any time, whatever it does (`Client.Lived.isUnambiguous`).
-/

namespace Client

variable {client after : Client} {steps rest : List Step} {messageType other : MessageType}

/-! ## Notes without contradiction -/

/-- No type is both subscribed to and paused. -/
def IsUnambiguous (client : Client) : Prop :=
  ∀ messageType ∈ client.subscribed, messageType ∉ client.paused

/-- A client has the same notes. -/
structure SameNotes (client after : Client) : Prop where
  subscribed : after.subscribed = client.subscribed
  paused : after.paused = client.paused

theorem SameNotes.of_bare (same : after.bare = client.bare) : SameNotes client after where
  subscribed := (congrArg Client.subscribed same :)
  paused := (congrArg Client.paused same :)

theorem SameNotes.isUnambiguous (same : SameNotes client after)
    (unambiguous : client.IsUnambiguous) : after.IsUnambiguous := by
  unfold IsUnambiguous
  rw [same.subscribed, same.paused]
  exact unambiguous

theorem mem_paused_mark {standing : Standing} :
    other ∈ (client.mark messageType standing).paused ↔
      if other = messageType then standing = .paused else other ∈ client.paused := by
  have without : other ∈ client.paused.filter (· ≠ messageType) ↔
      if other = messageType then False else other ∈ client.paused := by
    rw [List.mem_filter]
    split <;> simp_all
  cases standing with
  | paused =>
      refine Ascending.mem_insert.trans ?_
      split <;> simp_all
  | subscribed => exact without.trans (by split <;> simp)
  | unknown => exact without.trans (by split <;> simp)

theorem isUnambiguous_mark (unambiguous : client.IsUnambiguous) (messageType : MessageType)
    (standing : Standing) : (client.mark messageType standing).IsUnambiguous := by
  intro other subscribed paused
  rw [mem_subscribed_mark] at subscribed
  rw [mem_paused_mark] at paused
  split at subscribed
  · next same =>
    rw [if_pos same] at paused
    cases subscribed.symm.trans paused
  · next different =>
    rw [if_neg different] at paused
    exact unambiguous other subscribed paused

theorem Deed.isUnambiguous (deed : Deed client after) (unambiguous : client.IsUnambiguous) :
    after.IsUnambiguous := by
  cases deed with
  | looks looked messageCount => exact (SameNotes.of_bare looked.bare).isUnambiguous unambiguous
  | marks messageType standing => exact isUnambiguous_mark unambiguous messageType standing
  | putsBack | letsGo | forgets | presents => exact unambiguous
  | enrolls | hangsUp => exact fun _ absent => absurd absent List.not_mem_nil

theorem Deeds.isUnambiguous (deeds : Deeds client after) (unambiguous : client.IsUnambiguous) :
    after.IsUnambiguous :=
  deeds.preserve Deed.isUnambiguous unambiguous

theorem isUnambiguous_begin (unambiguous : client.IsUnambiguous) (now : Milliseconds)
    (call : Call) : (client.begin now call).2.IsUnambiguous := by
  rcases conducted_begin now client call with ⟨error, wrong⟩ | ⟨steps, begun, conducted⟩
  · rw [wrong]
    exact unambiguous
  · exact conducted.deeds.isUnambiguous unambiguous

theorem isUnambiguous_proceed (unambiguous : client.IsUnambiguous) (now : Milliseconds)
    (need : Need) (rest : List Step) (signal : Signal) :
    (client.proceed now need rest signal).2.IsUnambiguous := by
  rcases conducted_proceed now client need rest signal with ⟨waits, _⟩ | conducted
  · rw [waits]
    exact unambiguous
  · refine conducted.deeds.isUnambiguous ?_
    unfold satisfy
    split <;> exact unambiguous

theorem isUnambiguous_foldl {state : Progress × Client} (unambiguous : state.2.IsUnambiguous)
    (happenings : List Happening) : (happenings.foldl meet state).2.IsUnambiguous := by
  induction happenings generalizing state with
  | nil => exact unambiguous
  | cons happening rest ih =>
      rcases state with ⟨progress, client⟩
      refine ih ?_
      cases happening with
      | arrives arrivals => cases progress <;> exact unambiguous
      | goesOn now signal =>
          cases progress with
          | finished ended => exact unambiguous
          | waiting need rest => exact isUnambiguous_proceed unambiguous now need rest signal

/-- At any time in the life of a client its notes are without contradiction. -/
theorem Lived.isUnambiguous (lived : Lived client) : client.IsUnambiguous := by
  induction lived with
  | started started =>
      unfold start at started
      split at started
      · cases started
        exact fun _ absent => absurd absent List.not_mem_nil
      · cases started
  | called lived now call happenings ih =>
      exact isUnambiguous_foldl (isUnambiguous_begin ih now call) happenings

/-! ## What is still to be given up -/

/-- Whether a client has noted that a type is subscribed to or paused. -/
def Stands (client : Client) (messageType : MessageType) : Prop :=
  messageType ∈ client.subscribed ∨ messageType ∈ client.paused

theorem SameNotes.stands_iff (same : SameNotes client after) :
    after.Stands messageType ↔ client.Stands messageType := by
  unfold Stands
  rw [same.subscribed, same.paused]

theorem stands_mark_unknown : (client.mark messageType .unknown).Stands other ↔
    other ≠ messageType ∧ client.Stands other := by
  unfold Stands
  rw [mem_subscribed_mark, mem_paused_mark]
  split <;> simp_all

/-- Whether a step only helps to give something up. -/
def Step.givesUp : Step -> Bool
  | .send _ _ _ | .mark _ .unknown | .acknowledged .progress _ => true
  | .mark _ .subscribed | .mark _ .paused | .acknowledged .enrollment _
  | .acknowledged .answer _ | .letGo | .dial _ | .present _ | .read _ | .discard _ | .hangUp =>
      false

/-- With these steps a client gives up all that it has noted. -/
structure Clears (client : Client) (steps : List Step) : Prop where
  givesUp : ∀ step ∈ steps, step.givesUp = true
  due : ∀ messageType, client.Stands messageType -> .mark messageType .unknown ∈ steps

/-- A call gives up all that its client has noted, and when it has succeeded nothing is noted any
more. -/
inductive Clearing : Progress × Client -> Prop where
  | emptied {reply : Reply} {client : Client} (nothing : ∀ messageType, ¬client.Stands messageType) :
      Clearing (.finished (.ok reply), client)
  | failed {error : ClientError} {client : Client} : Clearing (.finished (.error error), client)
  | sending {frame : Bytes} {rest : List Step} {client : Client} (clears : client.Clears rest) :
      Clearing (.waiting (.room frame) rest, client)
  | awaiting {limit deadline : Milliseconds} {held : List Message} {rest : List Step}
      {client : Client} (clears : client.Clears rest) :
      Clearing (.waiting (.acknowledgement .progress limit deadline held) rest, client)

namespace Clears

theorem same (clears : client.Clears steps) (same : SameNotes client after) :
    after.Clears steps :=
  ⟨clears.givesUp, fun messageType stands => clears.due messageType (same.stands_iff.mp stands)⟩

/-- A step that takes note of nothing is not needed. -/
theorem tail {step : Step} (clears : client.Clears (step :: rest))
    (silent : ∀ messageType, step ≠ .mark messageType .unknown) : client.Clears rest where
  givesUp := (List.forall_mem_cons.mp clears.givesUp).2
  due messageType stands :=
    (List.mem_cons.mp (clears.due messageType stands)).resolve_left (silent messageType).symm

theorem mark (clears : client.Clears (.mark messageType .unknown :: rest)) :
    (client.mark messageType .unknown).Clears rest where
  givesUp := (List.forall_mem_cons.mp clears.givesUp).2
  due other stands := by
    rcases stands_mark_unknown.mp stands with ⟨different, stood⟩
    rcases List.mem_cons.mp (clears.due other stood) with same | later
    · exact absurd (Step.mark.inj same).1 different
    · exact later

theorem stays (clears : client.Clears steps) : Step.hangUp ∉ steps := by
  intro hangsUp
  cases clears.givesUp _ hangsUp

end Clears

theorem clearing_fail (client : Client) (error : ClientError) (rest : List Step) :
    Clearing (client.fail error rest) := by
  unfold Client.fail
  split <;> exact .failed

theorem clearing_seek (clears : client.Clears rest) (now limit deadline : Milliseconds)
    (held : List Message)
    (later : ∀ client : Client, client.Clears rest -> Clearing (perform now rest client)) :
    Clearing
      (match client.seekAcknowledgement .progress limit deadline held rest with
        | (some progress, client) => (progress, client)
        | (none, client) => perform now rest client) := by
  have same := SameNotes.of_bare (looked_findAcknowledgement client held).bare
  unfold seekAcknowledgement
  generalize client.findAcknowledgement held = result at same
  rcases result with ⟨search, passed, after⟩
  have still : after.Clears rest := clears.same same
  cases search with
  | found message => exact later (after.putBack passed) (still.same ⟨rfl, rfl⟩)
  | failed error => exact clearing_fail (after.putBack passed) error rest
  | nothing => exact .awaiting still

theorem clearing_perform (now : Milliseconds) (clears : client.Clears steps) :
    Clearing (perform now steps client) := by
  induction steps generalizing client with
  | nil =>
      exact .emptied fun messageType stands =>
        absurd (clears.due messageType stands) List.not_mem_nil
  | cons step rest ih =>
      cases step with
      | send message module host =>
          have later : client.Clears rest := clears.tail fun _ => Step.noConfusion
          unfold perform post
          split
          · exact clearing_fail client _ rest
          · exact .sending later
      | mark messageType standing =>
          cases standing with
          | unknown => exact ih clears.mark
          | subscribed | paused => cases clears.givesUp _ List.mem_cons_self
      | acknowledged purpose limit =>
          cases purpose with
          | progress =>
              have later : client.Clears rest := clears.tail fun _ => Step.noConfusion
              exact clearing_seek later now limit _ [] fun _ => ih
          | enrollment | answer => cases clears.givesUp _ List.mem_cons_self
      | letGo | dial | present | read | discard | hangUp =>
          cases clears.givesUp _ List.mem_cons_self

theorem clearing_proceed {need : Need} (clearing : Clearing (.waiting need rest, client))
    (now : Milliseconds) (signal : Signal) : Clearing (client.proceed now need rest signal) := by
  cases clearing with
  | sending clears =>
      cases signal with
      | written => exact clearing_perform now (clears.same ⟨rfl, rfl⟩)
      | broken cause => exact clearing_fail client.letGo _ rest
      | answered | unanswered | unusable | arrived | inTime | expired => exact .sending clears
  | @awaiting limit deadline held _ _ clears =>
      cases signal with
      | arrived =>
          exact clearing_seek clears now limit deadline held fun _ => clearing_perform now
      | expired => exact clearing_fail _ _ rest
      | answered | unanswered | unusable | written | broken | inTime => exact .awaiting clears

/-- A call to give everything up does so. -/
theorem clearing_begin (now : Milliseconds) (client : Client) :
    Clearing (client.begin now .unsubscribeAll) := by
  unfold Client.begin
  cases begun : client.steps .unsubscribeAll with
  | error error => exact clearing_fail client error []
  | ok steps =>
      unfold Client.steps changeStanding at begun
      dsimp only at begun
      split at begun
      · cases begun
        refine clearing_perform now ⟨?givesUp, ?due⟩
        case givesUp =>
          intro step here
          rcases List.mem_flatMap.mp here with ⟨messageType, _, here⟩
          simp only [List.mem_cons, List.not_mem_nil, or_false] at here
          rcases here with rfl | rfl | rfl <;> rfl
        case due =>
          intro messageType stands
          refine List.mem_flatMap.mpr ⟨messageType, Ascending.mem_union.mpr stands, ?_⟩
          exact List.mem_cons_of_mem _ List.mem_cons_self
      · cases begun

end Client

/-! ## Giving everything up in a conversation -/

/-- Whether a turn makes a new call. -/
def Turn.isCall : Turn σ -> Bool
  | .begins _ _ => true
  | .elsewhere _ | .hears _ | .goesOn _ _ | .arrives _ => false

namespace Conversation

variable {behaviour : Behaviour σ} {config : Config} {conversation : Conversation σ}

/-- A module has been let in, be it a logger or not, and nothing has been said yet. -/
structure Begins (behaviour : Behaviour σ) (config : Config) (conversation : Conversation σ) :
    Prop where
  reachable : conversation.bus.Reachable behaviour config
  registered : conversation.bus.broker.modules.isRegistered conversation.handle = true
  silent : wishes conversation.handle conversation.bus.history = []
  subscribed : conversation.client.subscribed = []
  paused : conversation.client.paused = []
  format : conversation.client.settings.format = config.format
  idle : conversation.progress.isFinished = true
  clear : conversation.wire = []

/-- The states of all conversations, those of loggers too. -/
inductive Ongoing (behaviour : Behaviour σ) (config : Config) : Conversation σ -> Prop where
  | start {conversation : Conversation σ} (begins : conversation.Begins behaviour config) :
      Ongoing behaviour config conversation
  | step {conversation : Conversation σ} (ongoing : Ongoing behaviour config conversation)
      {turn : Turn σ} (permitted : conversation.permits behaviour turn = true) :
      Ongoing behaviour config (conversation.step behaviour turn)

/-- The same conversation as if the client were no logger.  What a client has noted and what it
says does not depend on it. -/
def unlogged (conversation : Conversation σ) : Conversation σ :=
  { conversation with client := { conversation.client with isLogger := false } }

theorem unlogged_hear (conversation : Conversation σ) (receiveTime : UInt64) :
    (conversation.hear behaviour receiveTime).unlogged =
      conversation.unlogged.hear behaviour receiveTime := by
  have same : conversation.unlogged.next? receiveTime = conversation.next? receiveTime := rfl
  unfold hear
  rw [same]
  split <;> rfl

theorem step_goesOn_of_finished {result : Except ClientError Client.Reply}
    (current : conversation.progress = .finished result) (now : Milliseconds)
    (signal : Client.Signal) :
    conversation.step behaviour (.goesOn now signal) = conversation := by
  unfold step goOn
  rw [current]

theorem step_goesOn_of_waiting {need : Client.Need} {rest : List Client.Step}
    (current : conversation.progress = .waiting need rest) (now : Milliseconds)
    (signal : Client.Signal) :
    conversation.step behaviour (.goesOn now signal) =
      { conversation with
        client := (conversation.client.proceed now need rest signal).2
        progress := (conversation.client.proceed now need rest signal).1
        wire := conversation.wire ++ Client.handedOver need signal } := by
  unfold step goOn
  rw [current]

theorem faithful_goesOn {unheard : List (Option Wish)}
    (faithful : Faithful behaviour config unheard conversation.unlogged) (now : Milliseconds)
    (signal : Client.Signal) :
    ∃ later, Faithful behaviour config later
      (conversation.step behaviour (.goesOn now signal)).unlogged := by
  cases current : conversation.progress with
  | finished result =>
      rw [step_goesOn_of_finished current]
      exact ⟨unheard, faithful⟩
  | waiting need rest =>
      have format : conversation.client.settings.format = config.format := faithful.format
      have underway : Client.Underway config.format conversation.progress := faithful.underway
      rw [current, ← format] at underway
      rw [step_goesOn_of_waiting current]
      rcases Client.underway_proceed underway now signal with ⟨still, silent | heeding⟩
      · rcases silent with ⟨nothing, moved⟩
        rw [format] at still
        rw [nothing, List.append_nil]
        exact ⟨unheard, faithful.unmoved ⟨moved.subscribed, rfl, moved.settings⟩ still⟩
      · rcases heeding with ⟨wish?, tells, heeds⟩
        rw [format] at still tells
        refine ⟨unheard ++ [wish?], faithful.heeding tells ?_ still⟩
        cases wish? with
        | none => exact ⟨heeds.subscribed, rfl, heeds.settings⟩
        | some wish => exact ⟨heeds.subscribed, rfl, heeds.settings⟩

/-- With what is still on its way, the broker will have heard what the client has noted, be it a
logger or not. -/
theorem Ongoing.faithful (ongoing : conversation.Ongoing behaviour config) :
    ∃ unheard, Faithful behaviour config unheard conversation.unlogged := by
  induction ongoing with
  | start begins =>
      exact ⟨[], .opens
        { reachable := begins.reachable
          registered := begins.registered
          silent := begins.silent
          ordinary := rfl
          plain := begins.subscribed
          format := begins.format
          idle := begins.idle
          clear := begins.clear }⟩
  | @step conversation ongoing turn permitted ih =>
      rcases ih with ⟨unheard, faithful⟩
      cases turn with
      | elsewhere move =>
          rcases Bool.and_eq_true_iff.mp permitted with ⟨foreign, registered⟩
          exact ⟨unheard, faithful.elsewhere (Bool.not_eq_true' _ ▸ foreign) registered⟩
      | hears receiveTime =>
          rcases faithful.hears permitted with ⟨later, still⟩
          exact ⟨later, unlogged_hear conversation receiveTime ▸ still⟩
      | begins now call =>
          rcases Bool.and_eq_true_iff.mp permitted with ⟨idle, asks⟩
          rcases Client.poised_begin now conversation.client asks with ⟨progress, begun, poised⟩
          have format : conversation.client.settings.format = config.format := faithful.format
          rw [format] at poised
          unfold Conversation.step
          dsimp only
          rw [begun]
          exact ⟨unheard, faithful.unmoved (.refl _) (.poised poised)⟩
      | goesOn now signal => exact faithful_goesOn faithful now signal
      | arrives arrivals => exact ⟨unheard, faithful.unmoved ⟨rfl, rfl, rfl⟩ faithful.underway⟩

theorem Ongoing.run (ongoing : conversation.Ongoing behaviour config) {turns : List (Turn σ)}
    (permitted : conversation.permitsAll behaviour turns = true) :
    (conversation.run behaviour turns).Ongoing behaviour config := by
  induction turns generalizing conversation with
  | nil => exact ongoing
  | cons turn rest ih =>
      rcases Bool.and_eq_true_iff.mp permitted with ⟨first, later⟩
      exact ih (ongoing.step first) later

/-- The client of a conversation has notes without contradiction. -/
theorem Ongoing.isUnambiguous (ongoing : conversation.Ongoing behaviour config) :
    conversation.client.IsUnambiguous := by
  induction ongoing with
  | @start conversation begins =>
      intro messageType here
      rw [begins.subscribed] at here
      cases here
  | @step conversation ongoing turn permitted ih =>
      cases turn with
      | elsewhere move => exact ih
      | hears receiveTime =>
          unfold Conversation.step hear
          dsimp only
          split <;> exact ih
      | begins now call => exact Client.isUnambiguous_begin ih now call
      | goesOn now signal =>
          cases current : conversation.progress with
          | finished result =>
              rw [step_goesOn_of_finished current]
              exact ih
          | waiting need rest =>
              rw [step_goesOn_of_waiting current]
              exact Client.isUnambiguous_proceed ih now need rest signal
      | arrives arrivals => exact ih

/-- A call that gives everything up is not kept from it by what else happens. -/
theorem clearing_step (clearing : Client.Clearing (conversation.progress, conversation.client))
    {turn : Turn σ} (other : turn.isCall = false) :
    Client.Clearing ((conversation.step behaviour turn).progress,
      (conversation.step behaviour turn).client) := by
  cases turn with
  | elsewhere move => exact clearing
  | hears receiveTime =>
      unfold step hear
      dsimp only
      split <;> exact clearing
  | begins now call => cases other
  | goesOn now signal =>
      cases current : conversation.progress with
      | finished result =>
          rw [step_goesOn_of_finished current, current]
          exact current ▸ clearing
      | waiting need rest =>
          rw [step_goesOn_of_waiting current]
          exact Client.clearing_proceed (current ▸ clearing) now signal
  | arrives arrivals =>
      show Client.Clearing (conversation.progress, conversation.client.deliver arrivals)
      generalize conversation.progress = progress at clearing
      cases clearing with
      | emptied nothing => exact .emptied nothing
      | failed => exact .failed
      | sending clears => exact .sending (clears.same ⟨rfl, rfl⟩)
      | awaiting clears => exact .awaiting (clears.same ⟨rfl, rfl⟩)

theorem clearing_run (clearing : Client.Clearing (conversation.progress, conversation.client))
    {turns : List (Turn σ)} (others : ∀ turn ∈ turns, turn.isCall = false) :
    Client.Clearing ((conversation.run behaviour turns).progress,
      (conversation.run behaviour turns).client) := by
  induction turns generalizing conversation with
  | nil => exact clearing
  | cons turn rest ih =>
      rcases List.forall_mem_cons.mp others with ⟨first, later⟩
      exact ih (clearing_step clearing first) later

/-- Once all that the client has said has been heard, the broker has nothing for a client that
has noted nothing. -/
theorem Ongoing.wants_nothing (ongoing : conversation.Ongoing behaviour config)
    (quiet : conversation.wire = []) (nothing : conversation.client.subscribed = [])
    (messageType : MessageType) :
    conversation.bus.broker.subscriptions.wants conversation.handle messageType = false := by
  rcases ongoing.faithful with ⟨unheard, faithful⟩
  have carries : Carries config.format [] unheard := quiet ▸ faithful.carries
  have noted := faithful.noted
  rw [carries.eq_nil, List.filterMap_nil, List.reverse_nil, List.nil_append] at noted
  have unwanted : ∀ wanted,
      ¬(wishes conversation.handle conversation.bus.history).wants wanted = true := by
    intro wanted wants
    have here : wanted ∈ conversation.client.subscribed := (noted wanted).mpr wants
    rw [nothing] at here
    cases here
  refine Bool.eq_false_iff.mpr fun wants => ?_
  rcases (faithful.reachable.wants_iff faithful.registered messageType).mp wants with
    everything | ⟨single, _⟩
  · exact unwanted _ everything
  · exact unwanted _ single

/-- The client has noted nothing, and the broker has no subscription for it, neither to everything
nor to a single type. -/
structure IsCleared (conversation : Conversation σ) : Prop where
  subscribed : conversation.client.subscribed = []
  paused : conversation.client.paused = []
  everything :
    conversation.bus.broker.subscriptions.wantsEverything conversation.handle = false
  types : conversation.bus.broker.subscriptions.typesOf conversation.handle = []
  subscribers : ∀ messageType,
    conversation.handle ∉ conversation.bus.broker.subscriptions.subscribers messageType

/-- At any time the client's notes are without contradiction.  When a call to give everything up
has succeeded and all that the client has said has been heard, nothing is left, neither in its
notes nor at the broker. -/
theorem Ongoing.cleared (ongoing : conversation.Ongoing behaviour config) :
    conversation.client.IsUnambiguous ∧
      ∀ (now : Milliseconds) (turns : List (Turn σ)),
        (∀ turn ∈ turns, turn.isCall = false) ->
        conversation.permitsAll behaviour (.begins now .unsubscribeAll :: turns) = true ->
        let after := conversation.run behaviour (.begins now .unsubscribeAll :: turns)
        after.progress.hasSucceeded = true -> after.wire = [] -> after.IsCleared := by
  refine ⟨ongoing.isUnambiguous, ?_⟩
  intro now turns others permitted after succeeded quiet
  have reached : after.Ongoing behaviour config := ongoing.run permitted
  let begun := conversation.step behaviour (.begins now .unsubscribeAll)
  have clears : Client.Clearing (begun.progress, begun.client) :=
    Client.clearing_begin now conversation.client
  have clearing : Client.Clearing (after.progress, after.client) := clearing_run clears others
  have nothing : ∀ messageType, ¬after.client.Stands messageType := by
    generalize after.progress = progress at succeeded clearing
    cases clearing with
    | emptied nothing => exact nothing
    | failed | sending | awaiting => cases succeeded
  have subscribed : after.client.subscribed = [] :=
    List.eq_nil_iff_forall_not_mem.mpr fun messageType here => nothing messageType (Or.inl here)
  have paused : after.client.paused = [] :=
    List.eq_nil_iff_forall_not_mem.mpr fun messageType here => nothing messageType (Or.inr here)
  have unwanted := reached.wants_nothing quiet subscribed
  rcases reached.faithful with ⟨_, faithful⟩
  have consistent : after.bus.broker.subscriptions.Consistent :=
    faithful.reachable.sound.subscriptions
  have apart := fun messageType =>
    not_or.mp (mt (consistent.wants_iff).mpr (Bool.eq_false_iff.mp (unwanted messageType)))
  have uncovered := (apart MessageType.everything).2
  refine ⟨subscribed, paused, Bool.eq_false_iff.mpr uncovered, ?types, ?subscribers⟩
  case types => exact List.eq_nil_iff_forall_not_mem.mpr fun messageType => (apart messageType).1
  case subscribers =>
    intro messageType here
    rcases List.mem_append.mp here with single | everything
    · exact (apart messageType).1 ((consistent.agree _ messageType).mp single)
    · exact uncovered (Subscriptions.wantsEverything_iff.mpr everything)

/-- A logger that has just been let in, and its client. -/
def listening : Conversation (Handle -> Nat) :=
  { opening with
    bus := (Bus.vacant 20).run QueueRule.bounded.each (Bus.joining 1 0 true)
    client := { opening.client with isLogger := true } }

/-- What remains of a call when it has begun, if each of so many requests goes well. -/
def granting (requests : Nat) : List (Turn σ) :=
  (List.replicate requests (asking .unsubscribeAll).tail).flatten

/-- The logger subscribes to a type and then to everything, pauses another type, and gives
everything up. -/
theorem cleared_of_everything :
    let single := listening.run QueueRule.bounded.each (asking (.subscribe [5]))
    let every := single.run QueueRule.bounded.each (asking (.subscribe [MessageType.everything]))
    let paused := every.run QueueRule.bounded.each (asking (.pause [6]))
    let given := paused.run QueueRule.bounded.each (.begins 0 .unsubscribeAll :: granting 3)
    paused.client.subscribed = [5, MessageType.everything] ∧ paused.client.paused = [6] ∧
      paused.client.IsUnambiguous ∧
      paused.bus.broker.subscriptions.wantsEverything paused.handle = true ∧
      given.progress.hasSucceeded = true ∧ given.wire = [] ∧ given.IsCleared := by
  intro single every paused given
  have start : listening.Ongoing QueueRule.bounded.each {} :=
    .start
      { reachable := (Bus.vacant_reachable 20).run _
        registered := by decide +kernel
        silent := by decide +kernel
        subscribed := rfl
        paused := rfl
        format := rfl
        idle := rfl
        clear := rfl }
  have first : single.Ongoing QueueRule.bounded.each {} := start.run (by decide +kernel)
  have second : every.Ongoing QueueRule.bounded.each {} := first.run (by decide +kernel)
  have third : paused.Ongoing QueueRule.bounded.each {} := second.run (by decide +kernel)
  have succeeded : given.progress.hasSucceeded = true := by decide +kernel
  have quiet : given.wire = [] := by decide +kernel
  have permitted : paused.permitsAll QueueRule.bounded.each
      (.begins 0 .unsubscribeAll :: granting 3) = true := by decide +kernel
  rcases third.cleared with ⟨unambiguous, clears⟩
  have cleared : ∀ last, paused.run QueueRule.bounded.each
      (.begins 0 .unsubscribeAll :: granting 3) = last ->
        last.progress.hasSucceeded = true -> last.wire = [] -> last.IsCleared := by
    rintro last rfl
    exact clears 0 (granting 3) (by decide +kernel) permitted
  exact ⟨by decide +kernel, by decide +kernel, unambiguous, by decide +kernel, succeeded, quiet,
    cleared given rfl succeeded quiet⟩

end Conversation

end MessageBus
