import MessageBus.Proofs.Routing

namespace MessageBus

open Wire

/-!
# What a logger sees

A logger gets everything: every frame that leaves the outbox, whoever wrote it
and for whomever it is, once and in the order in which the frames leave.  The
broker waits for a logger instead of dropping a frame, and where it cannot wait
any longer it drops the logger.  So a logger that is still there has missed
nothing, whatever has happened to the others in the meantime, and two loggers
that were there for the same time have seen the same.

What leaves the outbox is not all that the broker was sent, but it contains, in
the order in which they came, all messages that were passed on.
-/

namespace ModuleTable

/-- There is a registered logger under a handle. -/
def HasLogger (table : ModuleTable) (handle : Handle) : Prop :=
  ∃ module, table.get? handle = some module ∧ module.isRegistered = true ∧
    module.isLogger = true

variable {first second : ModuleTable} {handle : Handle}

theorem HasLogger.given (hasLogger : first.HasLogger handle) (consistent : first.Consistent) :
    handle ≤ first.lastHandle := by
  rcases hasLogger with ⟨module, found, _⟩
  exact consistent.le_lastHandle found

/-- A logger stays one as long as it is there. -/
theorem HasLogger.of_contains (hasLogger : first.HasLogger handle)
    (consistent : first.Consistent) (succeeds : first.Succeeds second)
    (present : second.contains handle = true) : second.HasLogger handle := by
  rcases contains_iff.mp present with ⟨module, found⟩
  rcases succeeds.found handle module (hasLogger.given consistent) found with
    ⟨earlier, foundEarlier, keeps⟩
  rcases hasLogger with ⟨logger, foundLogger, registered, isLogger⟩
  rw [foundEarlier] at foundLogger
  cases foundLogger
  have kept := keeps registered
  exact ⟨module, found, kept.isRegistered.trans registered, kept.isLogger.trans isLogger⟩

end ModuleTable

namespace History

/-- The frames that have left the outbox. -/
def taken (history : List Moment) : List Pending :=
  history.flatMap fun
    | .delivered delivery => [delivery.pending]
    | .met _ _ => []

/-- The frames of the messages that were passed on, in the order in which they
came. -/
def passedOn (history : List Moment) : List Pending :=
  history.flatMap fun
    | .delivered _ => []
    | .met broker occasion => (broker.passedOn? occasion).toList

theorem taken_append (first second : List Moment) :
    taken (first ++ second) = taken first ++ taken second :=
  List.flatMap_append

theorem passedOn_append (first second : List Moment) :
    passedOn (first ++ second) = passedOn first ++ passedOn second :=
  List.flatMap_append

theorem passedOn_met (history : List Moment) (broker : Broker) (occasion : Occasion) :
    passedOn (history ++ [.met broker occasion]) =
      passedOn history ++ (broker.passedOn? occasion).toList :=
  (passedOn_append ..).trans (congrArg _ (List.append_nil _))

/-- The frames that the broker has not written itself. -/
def forwarded (frames : List Pending) : List Pending :=
  frames.filter fun pending => pending.outbound.provenance = .forwarded

theorem forwarded_append (first second : List Pending) :
    forwarded (first ++ second) = forwarded first ++ forwarded second :=
  List.filter_append ..

/-- The frames of a type that the broker has written itself. -/
def written (messageType : MessageType) (frames : List Pending) : List Pending :=
  frames.filter fun pending =>
    pending.outbound.provenance = .originated ∧ pending.header.messageType = messageType

theorem mem_written {messageType : MessageType} {frames : List Pending} {pending : Pending} :
    pending ∈ written messageType frames ↔
      pending ∈ frames ∧ pending.outbound.provenance = .originated ∧
        pending.header.messageType = messageType := by
  unfold written
  rw [List.mem_filter, decide_eq_true_eq]

theorem written_append (messageType : MessageType) (first second : List Pending) :
    written messageType (first ++ second) =
      written messageType first ++ written messageType second :=
  List.filter_append ..

theorem written_eq_nil {messageType : MessageType} {frames : List Pending}
    (others : ∀ pending ∈ frames, pending.outbound.provenance = .originated ->
      pending.header.messageType ≠ messageType) : written messageType frames = [] := by
  apply List.filter_eq_nil_iff.mpr
  intro pending here
  rw [decide_eq_true_eq]
  exact fun both => others pending here both.1 both.2

theorem written_append_of_others {messageType : MessageType} {first second : List Pending}
    (others : ∀ pending ∈ second, pending.outbound.provenance = .originated ->
      pending.header.messageType ≠ messageType) :
    written messageType (first ++ second) = written messageType first := by
  rw [written_append, written_eq_nil others, List.append_nil]

end History

namespace Broker

open History

variable {broker before after : Broker} {handle other : Handle} {module : Module}
  {excluded : List MessageType}

/-! ## What was passed on -/

/-- Only passing on adds frames that the broker has not written. -/
theorem Edit.forwarded_eq (edit : Edit excluded before after) :
    forwarded after.outbox = forwarded before.outbox := by
  cases edit with
  | posted message route honest _ =>
      show forwarded (before.outbox ++ [_]) = _
      rw [forwarded_append]
      exact List.append_nil _
  | aside | attached | removed | refused | admitted | modified | subscribed | unsubscribed => rfl

theorem Edits.forwarded_eq (edits : Edits excluded before after) :
    forwarded after.outbox = forwarded before.outbox := by
  induction edits with
  | refl => rfl
  | tail _ edit ih => exact edit.forwarded_eq.trans ih

theorem forwarded_meet (broker : Broker) (occasion : Occasion) :
    forwarded (broker.meet occasion).outbox =
      forwarded broker.outbox ++ (broker.passedOn? occasion).toList := by
  rw [(edits_meet broker occasion).forwarded_eq]
  show forwarded (broker.outbox ++ _) = _
  rw [forwarded_append]
  congr 1
  apply List.filter_eq_self.mpr
  intro pending here
  exact decide_eq_true (forwarded_of_passedOn? (Option.mem_toList.mp here))

/-! ## What the broker writes itself -/

theorem Edit.written_eq {messageType : MessageType} (edit : Edit excluded before after)
    (unwritten : messageType ∈ excluded) :
    written messageType after.outbox = written messageType before.outbox := by
  cases edit with
  | posted message route honest unexcluded =>
      refine written_append_of_others fun pending here own same => ?_
      rw [List.mem_singleton.mp here] at same
      have posted : message.messageType = messageType := same
      exact unexcluded (posted ▸ unwritten)
  | aside | attached | removed | refused | admitted | modified | subscribed | unsubscribed => rfl

theorem Edits.written_eq {messageType : MessageType} (edits : Edits excluded before after)
    (unwritten : messageType ∈ excluded) :
    written messageType after.outbox = written messageType before.outbox := by
  induction edits with
  | refl => rfl
  | tail _ edit ih => exact (edit.written_eq unwritten).trans ih

/-- What is passed on was not written by the broker. -/
theorem written_passOn (messageType : MessageType) (broker : Broker) (occasion : Occasion) :
    written messageType (broker.passOn (broker.passedOn? occasion)).outbox =
      written messageType broker.outbox := by
  refine written_append_of_others fun pending here own => ?_
  rw [forwarded_of_passedOn? (Option.mem_toList.mp here)] at own
  cases own

/-! ## A logger gets the frame or goes -/

variable {behaviour : Behaviour σ} {pending : Pending} {handles : List Handle} {queues next : σ}
  {outcome : Outcome}

/-- An outcome other than the delivery of the frame leaves nothing of a logger. -/
theorem record?_of_logger (isLogger : module.isLogger = true)
    (answered : behaviour.answer queues module pending.outbound = (outcome, next))
    (missed : outcome ≠ .delivered) : outcome.record? module = none := by
  cases outcome with
  | delivered => exact absurd rfl missed
  | full =>
      have ordinary := Behaviour.ordinary_of_full answered rfl
      rw [isLogger] at ordinary
      cases ordinary
  | closed | timedOut => rfl

theorem Course.delivered_or_removed {swept : Swept σ}
    (course : Course behaviour pending handles queues broker swept) (here : other ∈ handles)
    (found : broker.modules.get? other = some module) (isLogger : module.isLogger = true) :
    (other, Outcome.delivered) ∈ swept.attempts ∨ swept.broker.modules.get? other = none := by
  induction course with
  | done queues broker => cases here
  | @offered handle _ _ _ _ _ outcome _ foundFirst registered answered absent later ih =>
      rcases List.mem_cons.mp here with same | after
      · subst same
        rw [found] at foundFirst
        cases foundFirst
        by_cases took : outcome = .delivered
        · subst took
          exact Or.inl List.mem_cons_self
        · refine Or.inr ((later.get?_of_not_mem absent).trans ?_)
          rw [get?_settle_self found]
          exact record?_of_logger isLogger answered took
      · have different : other ≠ handle := fun same => absent (same ▸ after)
        have foundAfter := get?_settle_of_ne foundFirst pending.header outcome different
        rcases ih after (foundAfter.trans found) with took | gone
        · exact Or.inl (List.mem_cons_of_mem _ took)
        · exact Or.inr gone

end Broker

/-! ## The whole run -/

namespace Bus

open History

/-- What a stretch of a run leaves to those who watch it. -/
structure Extends (first : Bus σ) (since : List Moment) (second : Bus σ) : Prop where
  history : second.history = first.history ++ since
  succeeds : first.broker.modules.Succeeds second.broker.modules
  loggers : ∀ handle, first.broker.modules.HasLogger handle ->
    second.broker.modules.contains handle = true ->
      second.broker.modules.HasLogger handle ∧
        second.contents handle = first.contents handle ++ (taken since).map Pending.outbound
  passedOn : forwarded first.broker.outbox ++ History.passedOn since =
    forwarded (taken since) ++ forwarded second.broker.outbox

variable {behaviour : Behaviour σ} {config : Config} {bus first second third : Bus σ}
  {early late : List Moment} {pending : Pending} {outbox : List Pending} {handle : Handle}

namespace Extends

theorem refl (bus : Bus σ) : bus.Extends [] bus where
  history := (List.append_nil _).symm
  succeeds := .refl _
  loggers _ hasLogger _ := ⟨hasLogger, (List.append_nil _).symm⟩
  passedOn := List.append_nil _

theorem trans (sound : first.broker.Sound config) (one : first.Extends early second)
    (two : second.Extends late third) : first.Extends (early ++ late) third where
  history := by rw [two.history, one.history, List.append_assoc]
  succeeds := one.succeeds.trans two.succeeds
  loggers handle hasLogger present := by
    -- Whoever is there in the end was there in between, because handles are not reused.
    have between : second.broker.modules.contains handle = true := by
      rcases ModuleTable.contains_iff.mp present with ⟨module, found⟩
      have given := Nat.le_trans (hasLogger.given sound.modules) one.succeeds.lastHandle_le
      rcases two.succeeds.found handle module given found with ⟨earlier, foundEarlier, _⟩
      exact ModuleTable.contains_iff.mpr ⟨earlier, foundEarlier⟩
    rcases one.loggers handle hasLogger between with ⟨still, contents⟩
    rcases two.loggers handle still present with ⟨atLast, contentsLate⟩
    refine ⟨atLast, ?_⟩
    rw [contentsLate, contents, taken_append, List.map_append, List.append_assoc]
  passedOn := by
    calc forwarded first.broker.outbox ++ History.passedOn (early ++ late)
        = (forwarded first.broker.outbox ++ History.passedOn early) ++ History.passedOn late := by
          rw [passedOn_append, List.append_assoc]
      _ = forwarded (taken early) ++ (forwarded second.broker.outbox ++
            History.passedOn late) := by
          rw [one.passedOn, List.append_assoc]
      _ = forwarded (taken (early ++ late)) ++ forwarded third.broker.outbox := by
          rw [two.passedOn, taken_append, forwarded_append, List.append_assoc]

end Extends

/-- A logger that is there before and after a delivery has got the frame. -/
theorem contents_deliver_of_logger (sound : bus.broker.Sound config)
    (next : bus.broker.outbox = pending :: outbox) (hasLogger : bus.broker.modules.HasLogger handle)
    (present : (bus.deliver behaviour).broker.modules.contains handle = true) :
    (bus.deliver behaviour).contents handle = bus.contents handle ++ [pending.outbound] := by
  rcases hasLogger with ⟨module, found, registered, isLogger⟩
  have here : handle ∈ bus.broker.targets pending.header pending.route :=
    sound.mem_targets_iff.mpr ⟨module, found, registered, Or.inl isLogger⟩
  rw [contents_deliver sound next]
  apply if_pos
  rw [deliver_of_cons behaviour next] at present
  rcases (course_handOut behaviour sound pending outbox).delivered_or_removed here found isLogger
    with took | gone
  · exact took
  · rcases ModuleTable.contains_iff.mp present with ⟨still, foundStill⟩
    rw [gone] at foundStill
    cases foundStill

theorem extends_deliver (behaviour : Behaviour σ) (sound : bus.broker.Sound config) :
    ∃ since, bus.Extends since (bus.deliver behaviour) := by
  cases next : bus.broker.outbox with
  | nil =>
      rw [deliver_of_nil behaviour next]
      exact ⟨[], .refl bus⟩
  | cons pending outbox =>
      have edits := edits_deliver behaviour sound next
      refine ⟨[.delivered ⟨pending, (bus.handOut behaviour pending outbox).attempts⟩], ?_⟩
      exact {
        history := by rw [deliver_of_cons behaviour next]
        succeeds := edits.succeeds
        loggers := fun handle hasLogger present =>
          ⟨hasLogger.of_contains sound.modules edits.succeeds present,
            contents_deliver_of_logger sound next hasLogger present⟩
        passedOn := by
          rw [edits.forwarded_eq, next]
          exact (List.append_nil _).trans (forwarded_append [pending] outbox) }

theorem extends_step (behaviour : Behaviour σ) (sound : bus.broker.Sound config)
    (move : Move σ) : ∃ since, bus.Extends since (bus.step behaviour move) := by
  cases move with
  | occasion occasion =>
      have succeeds := Broker.succeeds_meet bus.broker occasion
      refine ⟨[.met bus.broker occasion], ?_⟩
      exact {
        history := rfl
        succeeds
        loggers := fun handle hasLogger present =>
          ⟨hasLogger.of_contains sound.modules succeeds present, (List.append_nil _).symm⟩
        passedOn := by
          show _ = [] ++ forwarded (bus.broker.meet occasion).outbox
          rw [Broker.forwarded_meet]
          exact congrArg (forwarded bus.broker.outbox ++ ·) (List.append_nil _) }
  | readers queues => exact ⟨[], { Extends.refl bus with }⟩
  | deliver => exact extends_deliver behaviour sound

theorem extends_run (behaviour : Behaviour σ) (sound : bus.broker.Sound config)
    (moves : List (Move σ)) : ∃ since, bus.Extends since (bus.run behaviour moves) := by
  induction moves generalizing bus with
  | nil => exact ⟨[], .refl bus⟩
  | cons move rest ih =>
      rcases extends_step behaviour sound move with ⟨early, one⟩
      rcases ih (sound_step behaviour sound move) with ⟨late, two⟩
      exact ⟨early ++ late, one.trans sound two⟩

/-- A logger that was not removed has been given all frames that have left the
outbox, from the step on by which it was registered, and has lost none; and among
these frames are the messages that were passed on, each once and in order. -/
theorem Reachable.loggers_complete (reachable : bus.Reachable behaviour config)
    (moves : List (Move σ)) :
    let later := bus.run behaviour moves
    ∃ since, later.history = bus.history ++ since ∧
      (∀ handle, bus.broker.modules.HasLogger handle ->
        later.broker.modules.contains handle = true ->
          later.contents handle =
              bus.contents handle ++ (taken since).map Pending.outbound ∧
            ∃ module, later.broker.modules.get? handle = some module ∧
              module.isRegistered = true ∧ module.isLogger = true ∧ module.dropCount = 0) ∧
      (∀ handle move, bus.broker.modules.IsNew handle ->
        (bus.step behaviour move).contents handle = []) ∧
      forwarded bus.broker.outbox ++ passedOn since =
        forwarded (taken since) ++ forwarded later.broker.outbox := by
  rcases extends_run behaviour reachable.sound moves with ⟨since, stretch⟩
  refine ⟨since, stretch.history, ?_, ?_, stretch.passedOn⟩
  · intro handle hasLogger present
    rcases stretch.loggers handle hasLogger present with
      ⟨⟨module, found, registered, isLogger⟩, contents⟩
    have lossless := (reachable.run moves).sound.modules.lossless handle module found isLogger
    exact ⟨contents, module, found, registered, isLogger, lossless⟩
  · intro handle move new
    rw [contents_step_of_isNew behaviour reachable.sound new move]
    exact reachable.contents_of_isNew new

/-- The second module of the small bus says something, and everything is delivered. -/
def speaking : List (Move (Handle -> Nat)) :=
  .occasion (.event (.message 2
    { header := { messageType := 1234, sourceModule := 7 }, timecode := none, payload := [] })) ::
    List.replicate 8 .deliver

theorem loggers_complete_of_small :
    let later := small.run QueueRule.bounded.each speaking
    ∃ since, later.history = small.history ++ since ∧
      small.broker.modules.HasLogger 1 ∧ later.broker.modules.contains 1 = true ∧
      later.contents 1 = small.contents 1 ++ (taken since).map Pending.outbound ∧
      passedOn since = forwarded (taken since) ∧ (passedOn later.history).length = 1 := by
  have isLogger : (small.broker.modules.get? 1).map
      (fun module => (module.isRegistered, module.isLogger)) = some (true, true) := by
    decide +kernel
  have present : (small.run QueueRule.bounded.each speaking).broker.modules.contains 1 = true := by
    decide +kernel
  have before : forwarded small.broker.outbox = [] := by decide +kernel
  have after : forwarded (small.run QueueRule.bounded.each speaking).broker.outbox = [] := by
    decide +kernel
  rcases Option.map_eq_some_iff.mp isLogger with ⟨module, found, both⟩
  have hasLogger : small.broker.modules.HasLogger 1 :=
    ⟨module, found, congrArg Prod.fst both, congrArg Prod.snd both⟩
  rcases small_reachable.loggers_complete speaking with ⟨since, history, loggers, _, inOrder⟩
  refine ⟨since, history, hasLogger, present, (loggers 1 hasLogger present).1, ?_, ?_⟩
  · rw [before, after] at inOrder
    exact inOrder.trans (List.append_nil _)
  · decide +kernel

end Bus

end MessageBus
