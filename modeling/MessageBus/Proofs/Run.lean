import MessageBus.Proofs.Sweep

namespace MessageBus

open Wire

/-!
# Runs

A run is any order of three things: something happens to the broker, its
surroundings do something to the queues, and the broker delivers the next frame
of its outbox.  A run may stop between any two frames, so what is shown of every
run is shown of the middle of a flush as well; and a flush is a run of
deliveries (`Bus.flush_eq_run`), so it is shown of what the manager really does.
Runs in which something happens before the outbox is empty do not occur there.
They are let in because nothing depends on their absence.

Beside the broker and the queues a `Bus` keeps two accounts that nobody reads:
what was put into each queue, and the history of the run.  Readers take frames
out of a queue, but not out of the account of what was put into it.  Keeping the
accounts changes nothing about what the broker does (`Bus.flush_eq`).
-/

/-- What was put into each queue, the first frame first. -/
abbrev Contents := Handle -> List Outbound

namespace Contents

/-- The account after a frame was offered to one module. -/
def note (contents : Contents) (handle : Handle) (outbound : Outbound) : Outcome -> Contents
  | .delivered => Function.update contents handle (contents handle ++ [outbound])
  | .full | .closed | .timedOut => contents

theorem note_self (contents : Contents) (handle : Handle) (outbound : Outbound)
    (outcome : Outcome) :
    contents.note handle outbound outcome handle =
      if outcome = .delivered then contents handle ++ [outbound] else contents handle := by
  cases outcome with
  | delivered => exact Function.update_self ..
  | full | closed | timedOut => rfl

theorem note_of_ne (contents : Contents) (outbound : Outbound) (outcome : Outcome)
    {handle other : Handle} (different : other ≠ handle) :
    contents.note handle outbound outcome other = contents other := by
  cases outcome with
  | delivered => exact Function.update_of_ne different ..
  | full | closed | timedOut => rfl

end Contents

/-- The same behaviour, with an account of what each queue has taken. -/
def Behaviour.noting (behaviour : Behaviour σ) : Behaviour (σ × Contents) where
  answer state module outbound :=
    let (outcome, queues) := behaviour.answer state.1 module outbound
    (outcome, queues, state.2.note module.handle outbound outcome)
  full_ordinary state := behaviour.full_ordinary state.1

theorem Behaviour.answer_noting {behaviour : Behaviour σ} {state : σ × Contents} {queues : σ}
    {module : Module} {outbound : Outbound} {outcome : Outcome}
    (answered : behaviour.answer state.1 module outbound = (outcome, queues)) :
    behaviour.noting.answer state module outbound =
      (outcome, queues, state.2.note module.handle outbound outcome) := by
  show (let (outcome, queues) := behaviour.answer state.1 module outbound
    (outcome, queues, state.2.note module.handle outbound outcome)) = _
  rw [answered]

theorem Behaviour.answer_of_noting {behaviour : Behaviour σ} {state next : σ × Contents}
    {module : Module} {outbound : Outbound} {outcome : Outcome}
    (answered : behaviour.noting.answer state module outbound = (outcome, next)) :
    behaviour.answer state.1 module outbound = (outcome, next.1) ∧
      next.2 = state.2.note module.handle outbound outcome := by
  rcases own : behaviour.answer state.1 module outbound with ⟨result, queues⟩
  rw [Behaviour.answer_noting own] at answered
  cases answered
  exact ⟨rfl, rfl⟩

/-- The account changes nothing. -/
theorem Broker.sweep_noting (behaviour : Behaviour σ) (pending : Pending) (handles : List Handle)
    (state : σ × Contents) (broker : Broker) :
    let noted := Broker.sweep behaviour.noting.offer pending handles state broker
    (⟨noted.broker, noted.queues.1, noted.attempts, noted.remaining⟩ : Broker.Swept σ) =
      Broker.sweep behaviour.offer pending handles state.1 broker := by
  induction handles generalizing state broker with
  | nil => rfl
  | cons handle rest ih =>
      cases found : broker.modules.get? handle with
      | none =>
          unfold Broker.sweep
          simp only [found]
          exact ih state broker
      | some module =>
          rcases answered : behaviour.answer state.1 module pending.outbound with
            ⟨outcome, queues⟩
          rw [Broker.sweep_cons found (Behaviour.answer_noting answered),
            Broker.sweep_cons found answered]
          dsimp only
          rw [← ih (queues, _)]

/-- After a frame has taken its course, it stands at the end of what was put into
the queues that took it, and nowhere else. -/
theorem Broker.Course.contents {behaviour : Behaviour σ} {pending : Pending}
    {handles : List Handle} {state : σ × Contents} {broker : Broker}
    {swept : Broker.Swept (σ × Contents)}
    (course : Broker.Course behaviour.noting pending handles state broker swept)
    (other : Handle) :
    swept.queues.2 other =
      if (other, Outcome.delivered) ∈ swept.attempts then state.2 other ++ [pending.outbound]
      else state.2 other := by
  induction course with
  | done state broker => exact (if_neg List.not_mem_nil).symm
  | @offered handle _ _ _ _ _ outcome _ found registered answered absent later ih =>
      rw [(Behaviour.answer_of_noting answered).2, ModuleTable.handle_of_get? found] at ih
      rw [ih]
      by_cases same : other = handle
      · subst same
        rw [if_neg fun again => absent (later.mem_of_attempted again)]
        refine (Contents.note_self ..).trans (if_congr ?_ rfl rfl)
        constructor
        · rintro rfl
          exact List.mem_cons_self
        · intro attempted
          rcases List.mem_cons.mp attempted with here | after
          · exact (congrArg Prod.snd here).symm
          · exact absurd (later.mem_of_attempted after) absent
      · have elsewhere : (other, Outcome.delivered) ≠ (handle, outcome) := fun both =>
          same (congrArg Prod.fst both)
        simp only [Contents.note_of_ne _ _ _ same, List.mem_cons, elsewhere, false_or]

/-- A moment of a run. -/
inductive Moment where
  /-- Something happened to the broker as it was then. -/
  | met (broker : Broker) (occasion : Occasion)
  | delivered (delivery : Delivery)

structure Bus (σ : Type) where
  broker : Broker
  queues : σ
  contents : Contents := fun _ => []
  history : List Moment := []

/-- One step of a run. -/
inductive Move (σ : Type) where
  | occasion (occasion : Occasion)
  /-- Queues are read from, filled by others or closed. -/
  | readers (queues : σ)
  /-- The next frame of the outbox, if there is one. -/
  | deliver

namespace Bus

/-- A frame that has left the outbox, at all its modules. -/
def handOut (behaviour : Behaviour σ) (bus : Bus σ) (pending : Pending) (outbox : List Pending) :
    Broker.Swept (σ × Contents) :=
  let popped := { bus.broker with outbox }
  Broker.sweep behaviour.noting.offer pending (popped.targets pending.header pending.route)
    (bus.queues, bus.contents) popped

/-- The next frame of the outbox at all its modules. -/
def deliver (behaviour : Behaviour σ) (bus : Bus σ) : Bus σ :=
  match bus.broker.outbox with
  | [] => bus
  | pending :: outbox =>
      let swept := bus.handOut behaviour pending outbox
      { broker := swept.broker
        queues := swept.queues.1
        contents := swept.queues.2
        history := bus.history ++ [.delivered ⟨pending, swept.attempts⟩] }

def step (behaviour : Behaviour σ) (bus : Bus σ) : Move σ -> Bus σ
  | .occasion occasion =>
      { bus with
        broker := bus.broker.meet occasion
        history := bus.history ++ [.met bus.broker occasion] }
  | .readers queues => { bus with queues }
  | .deliver => bus.deliver behaviour

def run (behaviour : Behaviour σ) (bus : Bus σ) (moves : List (Move σ)) : Bus σ :=
  moves.foldl (step behaviour) bus

/-- The whole outbox, and everything that this adds to it. -/
def flush (behaviour : Behaviour σ) (bus : Bus σ) : Bus σ :=
  let flushed := bus.broker.flush behaviour.noting.offer (bus.queues, bus.contents)
  { broker := flushed.broker
    queues := flushed.queues.1
    contents := flushed.queues.2
    history := bus.history ++ flushed.deliveries.map .delivered }

/-- The states of all runs of a broker that was started with a configuration. -/
inductive Reachable (behaviour : Behaviour σ) (config : Config) : Bus σ -> Prop where
  | start {pid : Int32} {clock : ClockReading} {now : Milliseconds} {broker : Broker}
      (started : Broker.start config pid clock now = .ok broker) (queues : σ) :
      Reachable behaviour config { broker, queues }
  | step {bus : Bus σ} (reachable : Reachable behaviour config bus) (move : Move σ) :
      Reachable behaviour config (bus.step behaviour move)

variable {behaviour : Behaviour σ} {config : Config} {bus : Bus σ} {pending : Pending}
  {outbox : List Pending}

/-! ## Deliveries -/

theorem deliver_of_nil (behaviour : Behaviour σ) (empty : bus.broker.outbox = []) :
    bus.deliver behaviour = bus := by
  unfold deliver
  rw [empty]

theorem deliver_of_cons (behaviour : Behaviour σ) (next : bus.broker.outbox = pending :: outbox) :
    bus.deliver behaviour =
      let swept := bus.handOut behaviour pending outbox
      { broker := swept.broker
        queues := swept.queues.1
        contents := swept.queues.2
        history := bus.history ++ [.delivered ⟨pending, swept.attempts⟩] } := by
  unfold deliver
  rw [next]

/-- The account aside, a bus hands out a frame as the broker does. -/
theorem handOut_eq (behaviour : Behaviour σ) (bus : Bus σ) (pending : Pending)
    (outbox : List Pending) :
    let handed := bus.handOut behaviour pending outbox
    let swept := Broker.sweep behaviour.offer pending
      (bus.broker.targets pending.header pending.route) bus.queues { bus.broker with outbox }
    handed.broker = swept.broker ∧ handed.queues.1 = swept.queues ∧
      handed.attempts = swept.attempts := by
  have noted := Broker.sweep_noting behaviour pending
    (bus.broker.targets pending.header pending.route) (bus.queues, bus.contents)
    { bus.broker with outbox }
  exact ⟨congrArg Broker.Swept.broker noted, congrArg Broker.Swept.queues noted,
    congrArg Broker.Swept.attempts noted⟩

theorem flush_of_nil (behaviour : Behaviour σ) (empty : bus.broker.outbox = []) :
    bus.flush behaviour = bus := by
  unfold flush
  rw [Broker.flush_of_nil behaviour.noting _ empty]
  simp

theorem flush_of_cons (behaviour : Behaviour σ) (next : bus.broker.outbox = pending :: outbox) :
    bus.flush behaviour = (bus.deliver behaviour).flush behaviour := by
  rw [deliver_of_cons behaviour next]
  unfold flush handOut
  rw [Broker.flush_of_cons behaviour.noting _ next]
  simp

theorem broker_flush_of_cons (behaviour : Behaviour σ)
    (next : bus.broker.outbox = pending :: outbox) :
    bus.broker.flush behaviour.offer bus.queues =
      let delivered := bus.deliver behaviour
      let flushed := delivered.broker.flush behaviour.offer delivered.queues
      { flushed with
        deliveries :=
          ⟨pending, (bus.handOut behaviour pending outbox).attempts⟩ :: flushed.deliveries } := by
  rcases handOut_eq behaviour bus pending outbox with ⟨sameBroker, sameQueues, sameAttempts⟩
  rw [Broker.flush_of_cons behaviour _ next, deliver_of_cons behaviour next]
  dsimp only
  rw [sameBroker, sameQueues, sameAttempts]
  rfl

/-- What holds of a bus with nothing to deliver, and of a bus whenever it holds
after the next delivery, holds. -/
theorem flush_induction (behaviour : Behaviour σ) {motive : Bus σ -> Prop}
    (empty : ∀ bus : Bus σ, bus.broker.outbox = [] -> motive bus)
    (next : ∀ (bus : Bus σ) pending outbox, bus.broker.outbox = pending :: outbox ->
      motive (bus.deliver behaviour) -> motive bus) (bus : Bus σ) : motive bus := by
  suffices all : ∀ (history : List Moment) (contents : Contents),
      motive { bus with contents, history } from all bus.history bus.contents
  rcases bus with ⟨broker, queues, _, _⟩
  intro history contents
  refine Broker.flush_induction behaviour.noting
    (motive := fun state broker => ∀ history, motive ⟨broker, state.1, state.2, history⟩)
    (fun state broker isEmpty history => empty _ isEmpty) ?_ (queues, contents) broker history
  intro state broker pending outbox isNext ih history
  refine next _ pending outbox isNext ?_
  rw [deliver_of_cons behaviour isNext]
  exact ih _

/-- Emptying the outbox is nothing but a number of deliveries. -/
theorem flush_eq_run (behaviour : Behaviour σ) (bus : Bus σ) :
    (bus.flush behaviour).broker.outbox = [] ∧
      ∃ count, bus.flush behaviour = bus.run behaviour (List.replicate count .deliver) := by
  induction bus using flush_induction behaviour with
  | empty bus isEmpty =>
      rw [flush_of_nil behaviour isEmpty]
      exact ⟨isEmpty, 0, rfl⟩
  | next bus pending outbox isNext ih =>
      rw [flush_of_cons behaviour isNext]
      rcases ih with ⟨empty, count, same⟩
      exact ⟨empty, count + 1, same⟩

/-- After so many deliveries as leave nothing to deliver, the outbox has been emptied. -/
theorem flush_eq_of_run (behaviour : Behaviour σ) (count : Nat)
    (empty : (bus.run behaviour (List.replicate count .deliver)).broker.outbox = []) :
    bus.flush behaviour = bus.run behaviour (List.replicate count .deliver) := by
  induction count generalizing bus with
  | zero => exact flush_of_nil behaviour empty
  | succ count ih =>
      have later : (bus.deliver behaviour).flush behaviour =
          (bus.deliver behaviour).run behaviour (List.replicate count .deliver) := ih empty
      cases next : bus.broker.outbox with
      | nil =>
          have idle := deliver_of_nil behaviour next
          rw [idle] at later
          rw [later]
          exact congrArg (Bus.run behaviour · _) idle.symm
      | cons pending outbox => exact (flush_of_cons behaviour next).trans later

/-- The account aside, a bus empties its outbox as the broker does. -/
theorem flush_eq (behaviour : Behaviour σ) (bus : Bus σ) :
    let flushed := bus.broker.flush behaviour.offer bus.queues
    (bus.flush behaviour).broker = flushed.broker ∧
      (bus.flush behaviour).queues = flushed.queues ∧
      (bus.flush behaviour).history = bus.history ++ flushed.deliveries.map .delivered := by
  induction bus using flush_induction behaviour with
  | empty bus isEmpty =>
      rw [flush_of_nil behaviour isEmpty, Broker.flush_of_nil behaviour _ isEmpty]
      exact ⟨rfl, rfl, (List.append_nil _).symm⟩
  | next bus pending outbox isNext ih =>
      rw [flush_of_cons behaviour isNext, broker_flush_of_cons behaviour isNext]
      rcases ih with ⟨broker, queues, history⟩
      refine ⟨broker, queues, history.trans ?_⟩
      rw [deliver_of_cons behaviour isNext]
      exact List.append_assoc ..

/-! ## What every step keeps up -/

/-- The frame that leaves the outbox takes its course. -/
theorem course_handOut (behaviour : Behaviour σ) (sound : bus.broker.Sound config)
    (pending : Pending) (outbox : List Pending) :
    Broker.Course behaviour.noting pending (bus.broker.targets pending.header pending.route)
      (bus.queues, bus.contents) { bus.broker with outbox }
      (bus.handOut behaviour pending outbox) :=
  Broker.course_next behaviour.noting pending outbox _ sound.modules

theorem contents_deliver (sound : bus.broker.Sound config)
    (next : bus.broker.outbox = pending :: outbox) (handle : Handle) :
    (bus.deliver behaviour).contents handle =
      if (handle, Outcome.delivered) ∈ (bus.handOut behaviour pending outbox).attempts then
        bus.contents handle ++ [pending.outbound]
      else bus.contents handle := by
  rw [deliver_of_cons behaviour next]
  exact (course_handOut behaviour sound pending outbox).contents handle

theorem edits_deliver (behaviour : Behaviour σ) (sound : bus.broker.Sound config)
    (next : bus.broker.outbox = pending :: outbox) :
    Broker.Edits [MessageType.acknowledge] { bus.broker with outbox }
      (bus.deliver behaviour).broker := by
  rw [deliver_of_cons behaviour next]
  exact (course_handOut behaviour sound pending outbox).edits

theorem sound_step (behaviour : Behaviour σ) (sound : bus.broker.Sound config) (move : Move σ) :
    (bus.step behaviour move).broker.Sound config := by
  cases move with
  | occasion occasion => exact sound.meet occasion
  | readers queues => exact sound
  | deliver =>
      show (bus.deliver behaviour).broker.Sound config
      cases next : bus.broker.outbox with
      | nil => rwa [deliver_of_nil behaviour next]
      | cons pending outbox => exact (edits_deliver behaviour sound next).sound (sound.popped next)

theorem succeeds_step (behaviour : Behaviour σ) (sound : bus.broker.Sound config)
    (move : Move σ) :
    bus.broker.modules.Succeeds (bus.step behaviour move).broker.modules := by
  cases move with
  | occasion occasion => exact Broker.succeeds_meet _ occasion
  | readers queues => exact .refl _
  | deliver =>
      show bus.broker.modules.Succeeds (bus.deliver behaviour).broker.modules
      cases next : bus.broker.outbox with
      | nil =>
          rw [deliver_of_nil behaviour next]
          exact .refl _
      | cons pending outbox => exact (edits_deliver behaviour sound next).succeeds

theorem succeeds_run (behaviour : Behaviour σ) (sound : bus.broker.Sound config)
    (moves : List (Move σ)) :
    bus.broker.modules.Succeeds (bus.run behaviour moves).broker.modules := by
  induction moves generalizing bus with
  | nil => exact .refl _
  | cons move rest ih =>
      exact (succeeds_step behaviour sound move).trans (ih (sound_step behaviour sound move))

/-- Whoever was not registered before a step gets nothing by it. -/
theorem contents_step_of_isNew (behaviour : Behaviour σ) (sound : bus.broker.Sound config)
    {handle : Handle} (new : bus.broker.modules.IsNew handle) (move : Move σ) :
    (bus.step behaviour move).contents handle = bus.contents handle := by
  cases move with
  | occasion occasion => rfl
  | readers queues => rfl
  | deliver =>
      show (bus.deliver behaviour).contents handle = bus.contents handle
      cases next : bus.broker.outbox with
      | nil => rw [deliver_of_nil behaviour next]
      | cons pending outbox =>
          rw [contents_deliver sound next, if_neg]
          intro attempted
          apply new.not_registered sound.modules
          apply Broker.awaits_targets sound.modules pending.header pending.route
          exact (course_handOut behaviour sound pending outbox).mem_of_attempted attempted

namespace Reachable

theorem sound (reachable : bus.Reachable behaviour config) : bus.broker.Sound config := by
  induction reachable with
  | start started queues => exact Broker.start_sound started
  | step _ move ih => exact sound_step behaviour ih move

/-- Into the queue of a connection that has not been registered so far, nothing was
put. -/
theorem contents_of_isNew (reachable : bus.Reachable behaviour config) {handle : Handle}
    (new : bus.broker.modules.IsNew handle) : bus.contents handle = [] := by
  induction reachable with
  | start started queues => rfl
  | step reachable move ih =>
      have before := new.of_succeeds (succeeds_step behaviour reachable.sound move)
      rw [contents_step_of_isNew behaviour reachable.sound before move]
      exact ih before

theorem run (reachable : bus.Reachable behaviour config) (moves : List (Move σ)) :
    (bus.run behaviour moves).Reachable behaviour config := by
  induction moves generalizing bus with
  | nil => exact reachable
  | cons move rest ih => exact ih (reachable.step move)

theorem flush (reachable : bus.Reachable behaviour config) :
    (bus.flush behaviour).Reachable behaviour config := by
  rcases flush_eq_run behaviour bus with ⟨_, count, same⟩
  rw [same]
  exact reachable.run _

end Reachable

/-! ## A small bus -/

/-- Somebody comes and presents itself in the older form. -/
def joining (handle : Handle) (requestedId : ModuleId) (isLogger : Bool) : List (Move σ) :=
  [.occasion (.arrival ⟨.v4 [127, 0, 0, 1], 7111, 0⟩),
    .occasion (.event (.message handle
      { header :=
          { messageType := MessageType.connect, sourceModule := requestedId, dataBytes := 4 }
        timecode := none
        payload := [if isLogger then 1 else 0, 0, 0, 0] }))]

/-- A broker with the default settings to which nobody has connected, and queues
with some room. -/
def vacant (room : Nat) : Bus (Handle -> Nat) where
  broker :=
    { config := {}
      pid := 1
      clock := {}
      schemas := Config.knownSchemas {}
      identities := .new ModuleId.dynamicStart (Int16.ofNat Limit.modules)
      diagnostics := .start 0 }
  queues _ := room

theorem vacant_reachable (room : Nat) : (vacant room).Reachable QueueRule.bounded.each {} :=
  .start rfl _

/-- A logger, a module that asked for a number, another one that asked for the
same number and was turned away, and one that took what it was given.  Nothing
has been delivered yet. -/
def small : Bus (Handle -> Nat) :=
  (vacant 20).run QueueRule.bounded.each
    (joining 1 0 true ++ joining 2 7 false ++ joining 3 7 false ++ joining 4 0 false)

theorem small_reachable : small.Reachable QueueRule.bounded.each {} :=
  (vacant_reachable 20).run _

end Bus

end MessageBus
