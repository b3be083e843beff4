import MessageBus.Proofs.Requests

namespace MessageBus

open Wire History

/-!
# What a module gets first

A manager delivers everything that one event has led to before it looks at the next one.
Runs of this kind are `Bus.Orderly`: something happens to the broker only when nothing
waits in the outbox.  They may still stop between any two deliveries.

That order is what makes the acknowledgement of its admission the first frame that a module
is offered.  When the module is let in the outbox is empty, so the acknowledgement is the
next frame to leave it; and before that the module was not registered, so no frame was for
it.  For a logger this would fail if anything were still waiting, because a logger gets
whatever leaves the outbox from then on.
-/

/-- Whether it is time for a move: something happens only when nothing waits in the outbox.
The clock is nothing that happens. -/
def Move.isTimely (broker : Broker) : Move σ -> Bool
  | .occasion (.event _) | .occasion (.arrival _) | .occasion (.poll _) => broker.outbox.isEmpty
  | .occasion (.upkeep _) | .readers _ | .deliver => true

namespace Bus

open Broker

variable {behaviour : Behaviour σ} {config : Config} {bus : Bus σ} {handle : Handle}
  {pending : Pending} {outbox : List Pending} {outcome : Outcome}

/-- The states of the runs in which everything is delivered before something happens. -/
inductive Orderly (behaviour : Behaviour σ) (config : Config) : Bus σ -> Prop where
  | start {pid : Int32} {clock : ClockReading} {now : Milliseconds} {broker : Broker}
      (started : Broker.start config pid clock now = .ok broker) (queues : σ) :
      Orderly behaviour config { broker, queues }
  | step {bus : Bus σ} (orderly : Orderly behaviour config bus) (move : Move σ)
      (timely : move.isTimely bus.broker = true) :
      Orderly behaviour config (bus.step behaviour move)

/-- Whether each of several moves is made in time. -/
def areTimely (behaviour : Behaviour σ) (bus : Bus σ) : List (Move σ) -> Bool
  | [] => true
  | move :: rest =>
      move.isTimely bus.broker && (bus.step behaviour move).areTimely behaviour rest

namespace Orderly

theorem reachable (orderly : bus.Orderly behaviour config) : bus.Reachable behaviour config := by
  induction orderly with
  | start started queues => exact .start started queues
  | step orderly move timely ih => exact ih.step move

theorem run (orderly : bus.Orderly behaviour config) {moves : List (Move σ)}
    (timely : bus.areTimely behaviour moves = true) :
    (bus.run behaviour moves).Orderly behaviour config := by
  induction moves generalizing bus with
  | nil => exact orderly
  | cons move rest ih =>
      rcases Bool.and_eq_true_iff.mp timely with ⟨first, later⟩
      exact ih (orderly.step move first) later

/-- What the manager does: something happens, and then the outbox is emptied. -/
theorem flush (orderly : bus.Orderly behaviour config) :
    (bus.flush behaviour).Orderly behaviour config := by
  rcases flush_eq_run behaviour bus with ⟨-, count, same⟩
  rw [same]
  clear same
  induction count generalizing bus with
  | zero => exact orderly
  | succ count ih => exact ih (orderly.step .deliver rfl)

/-- What holds at the start, and is kept by what happens to a broker with an empty outbox, by
a new clock, by the readers and by every delivery, holds in all orderly runs. -/
theorem stepwise {motive : ∀ bus : Bus σ, bus.Orderly behaviour config -> Prop}
    (start : ∀ {pid clock now broker} (started : Broker.start config pid clock now = .ok broker)
      (queues : σ), motive { broker, queues } (.start started queues))
    (met : ∀ {bus : Bus σ} (orderly : bus.Orderly behaviour config), motive bus orderly ->
      bus.broker.outbox = [] -> ∀ occasion
        (timely : (Move.occasion occasion : Move σ).isTimely bus.broker = true),
        motive _ (orderly.step (.occasion occasion) timely))
    (clock : ∀ {bus : Bus σ} (orderly : bus.Orderly behaviour config), motive bus orderly ->
      ∀ reading, motive _ (orderly.step (.occasion (.upkeep reading)) rfl))
    (readers : ∀ {bus : Bus σ} (orderly : bus.Orderly behaviour config), motive bus orderly ->
      ∀ queues, motive _ (orderly.step (.readers queues) rfl))
    (delivered : ∀ {bus : Bus σ} {pending outbox} (orderly : bus.Orderly behaviour config),
      motive bus orderly -> bus.broker.outbox = pending :: outbox ->
        motive _ (orderly.step .deliver rfl))
    (orderly : bus.Orderly behaviour config) : motive bus orderly := by
  induction orderly with
  | start started queues => exact start started queues
  | @step bus orderly move timely ih =>
      cases move with
      | occasion occasion =>
          cases occasion with
          | event event => exact met orderly ih (List.isEmpty_iff.mp timely) _ timely
          | arrival peer => exact met orderly ih (List.isEmpty_iff.mp timely) _ timely
          | poll now => exact met orderly ih (List.isEmpty_iff.mp timely) _ timely
          | upkeep reading => exact clock orderly ih reading
      | readers queues => exact readers orderly ih queues
      | deliver =>
          cases next : bus.broker.outbox with
          | nil =>
              have idle : bus.step behaviour .deliver = bus := deliver_of_nil behaviour next
              have same : motive _ (orderly.step .deliver timely) ↔ motive bus orderly := by
                congr! 1
              exact same.mpr ih
          | cons pending outbox => exact delivered orderly ih next

end Orderly

/-! ## What became of an offer -/

/-- What is put into a queue is what was offered to the module and taken. -/
theorem Reachable.received_eq (reachable : bus.Reachable behaviour config) (handle : Handle) :
    received handle bus.history =
      ((offers handle bus.history).filter (·.2 = .delivered)).map Prod.fst := by
  induction reachable using Reachable.stepwise with
  | start started queues => rfl
  | @met bus reachable ih occasion =>
      show received handle (bus.history ++ [.met bus.broker occasion]) =
        ((offers handle (bus.history ++ [.met bus.broker occasion])).filter _).map _
      rw [received_met, offers_met, ih]
  | readers reachable ih queues => exact ih
  | @delivered bus pending outbox reachable ih next =>
      show received handle (bus.deliver behaviour).history =
        ((offers handle (bus.deliver behaviour).history).filter _).map _
      rcases offers_deliver behaviour reachable.sound next handle with
        ⟨_, same, sameReceived⟩ | ⟨outcome, _, _, offered, put⟩
      · rw [same, sameReceived, ih]
      · rw [offered, put, ih, List.filter_append, List.map_append]
        by_cases delivered : outcome = .delivered
        · simp [delivered]
        · simp [delivered]

/-- Whoever was lost at the first offer gets no other. -/
theorem Reachable.offers_of_lost (reachable : bus.Reachable behaviour config)
    {later : List (Pending × Outcome)}
    (offered : offers handle bus.history = (pending, outcome) :: later)
    (final : outcome = .closed ∨ outcome = .timedOut) :
    later = [] ∧ handle ≤ bus.broker.modules.lastHandle ∧
      bus.broker.modules.get? handle = none := by
  induction reachable using Reachable.stepwise generalizing later with
  | start started queues => cases offered
  | @met bus reachable ih occasion =>
      have succeeds := succeeds_meet bus.broker occasion
      rcases ih ((offers_met ..).symm.trans offered) with ⟨only, given, gone⟩
      exact ⟨only, Nat.le_trans given succeeds.lastHandle_le, succeeds.get?_eq_none given gone⟩
  | readers reachable ih queues => exact ih offered
  | @delivered bus first outbox reachable ih next =>
      have succeeds := succeeds_step behaviour reachable.sound .deliver
      rcases offers_deliver behaviour reachable.sound next handle with
        ⟨_, same, _⟩ | ⟨own, target, attempted, added, _⟩
      · rcases ih (same.symm.trans offered) with ⟨only, given, gone⟩
        exact ⟨only, Nat.le_trans given succeeds.lastHandle_le, succeeds.get?_eq_none given gone⟩
      · rcases ModuleTable.isRegistered_iff.mp
          (awaits_targets reachable.sound.modules _ _ handle target) with ⟨module, found, _⟩
        have split := added.symm.trans offered
        cases before : offers handle bus.history with
        | nil =>
            rw [before] at split
            cases split
            exact ⟨rfl, Nat.le_trans (reachable.sound.modules.le_lastHandle found)
              succeeds.lastHandle_le, (Leaves.unreached next attempted final).gone reachable.sound⟩
        | cons offer rest =>
            rw [before] at split
            obtain ⟨rfl, _⟩ := List.cons.inj split
            rcases ih before with ⟨_, _, gone⟩
            rw [gone] at found
            cases found

/-! ## The first offer -/

/-- How far a connection has been answered: nothing was granted to it; or the acknowledgement
of its admission is the next frame to leave; or it was the first that was offered. -/
inductive Greeted (handle : Handle) (bus : Bus σ) : Prop where
  | outside (ungranted : granted handle bus.history = [])
  | next {admission : Inbound} {rest : List Inbound} {welcome : Pending} {outbox : List Pending}
      (admitted : granted handle bus.history = admission :: rest)
      (answer : admission.answer? = some welcome) (next : bus.broker.outbox = welcome :: outbox)
      (registered : bus.broker.modules.isRegistered handle = true)
      (untried : offers handle bus.history = [])
  | tried {admission : Inbound} {rest : List Inbound} {welcome : Pending} {outcome : Outcome}
      {later : List (Pending × Outcome)}
      (admitted : granted handle bus.history = admission :: rest)
      (answer : admission.answer? = some welcome)
      (offered : offers handle bus.history = (welcome, outcome) :: later)

/-- Nothing changes for a connection as long as it is granted and offered nothing. -/
theorem Greeted.of_same (greeted : bus.Greeted handle) {after : Bus σ}
    (sameGranted : granted handle after.history = granted handle bus.history)
    (sameOffers : offers handle after.history = offers handle bus.history)
    (sameOutbox : after.broker.outbox = bus.broker.outbox)
    (sameModules : after.broker.modules = bus.broker.modules) : after.Greeted handle := by
  cases greeted with
  | outside ungranted => exact .outside (sameGranted.trans ungranted)
  | next admitted answer next registered untried =>
      exact .next (sameGranted.trans admitted) answer (sameOutbox.trans next)
        (sameModules ▸ registered) (sameOffers.trans untried)
  | tried admitted answer offered =>
      exact .tried (sameGranted.trans admitted) answer (sameOffers.trans offered)

/-- What was granted and offered stays first. -/
theorem Greeted.of_tried {admission : Inbound} {rest : List Inbound} {welcome : Pending}
    {later : List (Pending × Outcome)} {since : List Moment}
    (admitted : granted handle bus.history = admission :: rest)
    (answer : admission.answer? = some welcome)
    (offered : offers handle bus.history = (welcome, outcome) :: later) {after : Bus σ}
    (history : after.history = bus.history ++ since) : after.Greeted handle := by
  have first : granted handle after.history = admission :: (rest ++ granted handle since) := by
    rw [history, granted_append, admitted, List.cons_append]
  have tried : offers handle after.history =
      (welcome, outcome) :: (later ++ offers handle since) := by
    rw [history, offers_append, offered, List.cons_append]
  exact .tried first answer tried

theorem greeted_met (reachable : bus.Reachable behaviour config) (greeted : bus.Greeted handle)
    (empty : bus.broker.outbox = []) (occasion : Occasion) :
    (bus.step behaviour (.occasion occasion)).Greeted handle := by
  cases greeted with
  | outside ungranted =>
      rcases granted_met handle bus.history bus.broker occasion with
        ⟨same, _⟩ | ⟨message, id, rfl, asked, added⟩
      · exact .outside (same.trans ungranted)
      · rw [ungranted] at added
        have first := outbox_of_grant? asked
        rw [empty, List.nil_append] at first
        rcases first with ⟨outbox, next⟩
        exact .next added (congrArg (Option.map _) asked) next.symm (isRegistered_of_grant? asked)
          ((offers_met ..).trans (reachable.contents_of_ungranted ungranted).1)
  | next admitted answer next registered untried =>
      rw [empty] at next
      cases next
  | tried admitted answer offered => exact .of_tried admitted answer offered rfl

theorem greeted_deliver (reachable : bus.Reachable behaviour config)
    (greeted : bus.Greeted handle) (leaves : bus.broker.outbox = pending :: outbox) :
    (bus.step behaviour .deliver).Greeted handle := by
  have history : (bus.step behaviour .deliver).history = bus.history ++
      [.delivered ⟨pending, (bus.handOut behaviour pending outbox).attempts⟩] :=
    congrArg Bus.history (deliver_of_cons behaviour leaves)
  cases greeted with
  | outside ungranted => exact .outside ((granted_deliver leaves).trans ungranted)
  | @next admission rest welcome others admitted answer next registered untried =>
      obtain ⟨rfl, rfl⟩ := List.cons.inj (leaves.symm.trans next)
      -- The acknowledgement is for the module itself, so it is offered to it.
      have own : pending.route = .direct handle := by
        rcases Option.map_eq_some_iff.mp answer with ⟨id, _, rfl⟩
        exact congrArg Route.direct (mem_granted.mp (admitted ▸ List.mem_cons_self)).2.1
      have target : handle ∈ bus.broker.targets pending.header pending.route := by
        rcases ModuleTable.isRegistered_iff.mp registered with ⟨module, found, registered⟩
        refine reachable.sound.mem_targets_iff.mpr ⟨module, found, registered, Or.inr ?_⟩
        rw [own]
        exact ModuleTable.handle_of_get? found
      rcases offers_deliver behaviour reachable.sound leaves handle with
        ⟨absent, _⟩ | ⟨outcome, _, _, added, _⟩
      · exact absurd target absent
      · rw [untried] at added
        exact .tried ((granted_deliver leaves).trans admitted) answer added
  | tried admitted answer offered => exact .of_tried admitted answer offered history

theorem Orderly.greeted (orderly : bus.Orderly behaviour config) (handle : Handle) :
    bus.Greeted handle := by
  induction orderly using Orderly.stepwise with
  | start started queues => exact .outside rfl
  | @met bus orderly ih empty occasion _ => exact greeted_met orderly.reachable ih empty occasion
  | @clock bus orderly ih reading =>
      have unasked : granted handle (bus.history ++ [.met bus.broker (.upkeep reading)]) =
          granted handle bus.history := (granted_append ..).trans (List.append_nil _)
      exact ih.of_same unasked (offers_met ..) rfl rfl
  | readers orderly ih queues => exact ih.of_same rfl rfl rfl rfl
  | delivered orderly ih next => exact greeted_deliver orderly.reachable ih next

/-- The first frame that is offered to a module is the acknowledgement of its admission. -/
theorem Orderly.answer_of_offers (orderly : bus.Orderly behaviour config)
    {later : List (Pending × Outcome)}
    (offered : offers handle bus.history = (pending, outcome) :: later) :
    ∃ admission rest, granted handle bus.history = admission :: rest ∧
      admission.answer? = some pending := by
  cases orderly.greeted handle with
  | outside ungranted =>
      rw [(orderly.reachable.contents_of_ungranted ungranted).1] at offered
      cases offered
  | next admitted answer next registered untried =>
      rw [untried] at offered
      cases offered
  | tried admitted answer first =>
      obtain ⟨same, _⟩ := List.cons.inj (first.symm.trans offered)
      cases same
      exact ⟨_, _, admitted, answer⟩

/-- It has the number that the module was given. -/
theorem Orderly.answer_of_first (orderly : bus.Orderly behaviour config)
    {later : List (Pending × Outcome)}
    (offered : offers handle bus.history = (pending, outcome) :: later) :
    pending.header.messageType = MessageType.acknowledge ∧
      assigned? handle bus.history = some pending.header.destinationModule := by
  rcases orderly.answer_of_offers offered with ⟨admission, rest, admitted, answer⟩
  rcases Option.map_eq_some_iff.mp answer with ⟨id, given, rfl⟩
  refine ⟨rfl, ?_⟩
  unfold assigned?
  rw [admitted]
  exact given

/-- Between two events everybody who was let in was offered something. -/
theorem Orderly.offers_of_granted (orderly : bus.Orderly behaviour config)
    (quiet : bus.broker.outbox = []) (some : granted handle bus.history ≠ []) :
    offers handle bus.history ≠ [] := by
  cases orderly.greeted handle with
  | outside ungranted => exact absurd ungranted some
  | next admitted answer next registered untried =>
      rw [quiet] at next
      cases next
  | tried admitted answer offered =>
      rw [offered]
      exact List.cons_ne_nil _ _

end Bus

end MessageBus
