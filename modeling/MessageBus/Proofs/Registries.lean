import MessageBus.Proofs.Run

namespace MessageBus

open Wire

/-!
# Nobody is listed who is not there

A module stands in up to four lists beside the table: among the loggers, among
those who want everything, under each type that it asked for, and as the one
whose types are listed.  Each list is kept by itself, and a module can leave in
five ways, one of them in the middle of a delivery.  That none of them forgets a
list is a part of `Broker.Sound`; here it is read off for all runs.

Whoever has left does not come back.  A handle is given out once, so nothing that
happens later enters it again, and the lists stay clear of it.
-/

namespace Broker

variable {broker : Broker} {handle other : Handle} {module : Module} {config : Config}

/-- A handle stands in one of the lists beside the table. -/
def Mentions (broker : Broker) (handle : Handle) : Prop :=
  handle ∈ broker.modules.loggers ∨ broker.subscriptions.Mentions handle

theorem Sound.isRegistered_of_mentions (sound : broker.Sound config)
    (mentioned : broker.Mentions handle) : broker.modules.isRegistered handle = true := by
  rcases mentioned with logs | subscribes
  · rcases (sound.modules.loggers handle).mp logs with ⟨module, found, registered, _⟩
    exact ModuleTable.isRegistered_iff.mpr ⟨module, found, registered⟩
  · exact sound.subscribers handle subscribes

/-- Under a handle there is nobody, and no list has it. -/
structure Forgot (broker : Broker) (handle : Handle) : Prop where
  gone : broker.modules.get? handle = none
  unlisted : ¬ broker.Mentions handle

theorem Sound.forgot (sound : broker.Sound config) (gone : broker.modules.get? handle = none) :
    broker.Forgot handle := by
  refine ⟨gone, fun mentioned => ?_⟩
  rcases ModuleTable.isRegistered_iff.mp (sound.isRegistered_of_mentions mentioned) with
    ⟨module, found, _⟩
  rw [gone] at found
  cases found

/-- Whoever was forgotten can be forgotten again. -/
theorem Forgot.forget_eq (forgot : broker.Forgot handle) : broker.forget handle = broker := by
  have others : ∀ module ∈ broker.modules.modules, module.handle ≠ handle := by
    intro module here
    simpa using List.find?_eq_none.mp forgot.gone module here
  have recorded : broker.modules.modules.filter (·.handle ≠ handle) = broker.modules.modules :=
    List.filter_eq_self.mpr fun module here => decide_eq_true (others module here)
  unfold forget
  rw [Subscriptions.remove_of_not_mentioned fun subscribes => forgot.unlisted (Or.inr subscribes),
    ModuleTable.remove_of_not_logger fun logs => forgot.unlisted (Or.inl logs), recorded]

/-- To remove a connection that is gone changes nothing. -/
theorem Sound.remove_of_gone (sound : broker.Sound config)
    (gone : broker.modules.get? handle = none) (departure : Departure) :
    broker.remove handle departure = broker := by
  unfold remove
  rw [gone]
  exact (sound.forgot gone).forget_eq

/-! ## Ways to leave -/

theorem get?_remove_self (broker : Broker) (handle : Handle) (departure : Departure) :
    (broker.remove handle departure).modules.get? handle = none := by
  rw [modules_remove]
  exact ModuleTable.get?_remove_self

theorem get?_connect_refused {request : ConnectRequest} {cause : Rejection}
    {identities : IdentityPool}
    (chosen : broker.modules.chooseId broker.identities handle request
      broker.config.identity.dynamicStart = (.error cause, identities)) :
    (broker.connect handle request).modules.get? handle = none := by
  rw [connect_of_error chosen]
  exact get?_remove_self _ handle _

theorem get?_receive_disconnect {message : Message}
    (asked : Request.classify broker.schemas message = .ok .disconnect) :
    (broker.receive handle message).modules.get? handle = none := by
  unfold receive
  split
  · unfold dispatch
    rw [asked]
    dsimp only
    split
    · exact get?_remove_self _ handle .disconnected
    · exact get?_remove_self _ handle .disconnected
  · next absent =>
    exact Option.not_isSome_iff_eq_none.mp absent

theorem get?_receive_refused {message : Message} {request : ConnectRequest} {cause : Rejection}
    {identities : IdentityPool} (unregistered : broker.modules.isRegistered handle = false)
    (asked : Request.classify broker.schemas message = .ok (.connect request))
    (chosen : broker.modules.chooseId broker.identities handle request
      broker.config.identity.dynamicStart = (.error cause, identities)) :
    (broker.receive handle message).modules.get? handle = none := by
  unfold receive
  split
  · unfold dispatch
    rw [asked]
    dsimp only
    rw [unregistered, if_neg Bool.false_ne_true]
    unfold greet
    dsimp only
    exact get?_connect_refused (by exact chosen)
  · next absent =>
    exact Option.not_isSome_iff_eq_none.mp absent

end Broker

namespace Bus

variable {behaviour : Behaviour σ} {config : Config} {bus : Bus σ} {handle : Handle}
  {move : Move σ}

/-- The ways to leave by one step of a run. -/
inductive Leaves (behaviour : Behaviour σ) (bus : Bus σ) (handle : Handle) : Move σ -> Prop where
  | goodbye {message : Message}
      (asked : Request.classify bus.broker.schemas message = .ok .disconnect) :
      Leaves behaviour bus handle (.occasion (.event (.message handle message)))
  | refused {message : Message} {request : ConnectRequest} {cause : Rejection}
      {identities : IdentityPool} (unregistered : bus.broker.modules.isRegistered handle = false)
      (asked : Request.classify bus.broker.schemas message = .ok (.connect request))
      (chosen : bus.broker.modules.chooseId bus.broker.identities handle request
        bus.broker.config.identity.dynamicStart = (.error cause, identities)) :
      Leaves behaviour bus handle (.occasion (.event (.message handle message)))
  | lost (cause : String) : Leaves behaviour bus handle (.occasion (.event (.ended handle cause)))
  /-- A frame could not be handed over: the queue is closed, or a logger took too long. -/
  | unreached {pending : Pending} {outbox : List Pending} {outcome : Outcome}
      (next : bus.broker.outbox = pending :: outbox)
      (attempted : (handle, outcome) ∈ (bus.handOut behaviour pending outbox).attempts)
      (final : outcome = .closed ∨ outcome = .timedOut) : Leaves behaviour bus handle .deliver

theorem Leaves.gone (leaves : Leaves behaviour bus handle move)
    (sound : bus.broker.Sound config) :
    (bus.step behaviour move).broker.modules.get? handle = none := by
  cases leaves with
  | goodbye asked => exact Broker.get?_receive_disconnect asked
  | refused unregistered asked chosen =>
      exact Broker.get?_receive_refused unregistered asked chosen
  | lost cause => exact Broker.get?_remove_self _ handle _
  | @unreached pending outbox outcome next attempted final =>
      show (bus.deliver behaviour).broker.modules.get? handle = none
      have course := course_handOut behaviour sound pending outbox
      rcases ModuleTable.isRegistered_iff.mp (Broker.awaits_targets sound.modules pending.header
        pending.route handle (course.mem_of_attempted attempted)) with ⟨module, found, _⟩
      have kept := course.get?_of_attempted found attempted
      rw [deliver_of_cons behaviour next]
      rcases final with rfl | rfl
      · exact kept
      · exact kept

/-- Who has left, or had a handle and is not there any more, has left for good. -/
theorem Reachable.forgot (reachable : bus.Reachable behaviour config)
    (given : handle ≤ bus.broker.modules.lastHandle)
    (gone : bus.broker.modules.get? handle = none) (moves : List (Move σ)) :
    (bus.run behaviour moves).broker.Forgot handle :=
  (reachable.run moves).sound.forgot
    ((succeeds_run behaviour reachable.sound moves).get?_eq_none given gone)

/-- Whoever stands in a list is a registered module, and the list of the loggers is
complete.  A connection that leaves, by whichever way, stands in no list from then on;
nor does anybody else who had a handle and is not there any more. -/
theorem Reachable.registries_agree (reachable : bus.Reachable behaviour config) :
    (∀ handle, bus.broker.Mentions handle -> bus.broker.modules.isRegistered handle = true) ∧
      (∀ handle, handle ∈ bus.broker.modules.loggers ↔
        ∃ module, bus.broker.modules.get? handle = some module ∧
          module.isRegistered = true ∧ module.isLogger = true) ∧
      (∀ handle move, bus.broker.modules.contains handle = true ->
        Leaves behaviour bus handle move -> ∀ moves,
          ((bus.step behaviour move).run behaviour moves).broker.Forgot handle) ∧
      ∀ handle, handle ≤ bus.broker.modules.lastHandle ->
        bus.broker.modules.contains handle = false -> ∀ moves,
          (bus.run behaviour moves).broker.Forgot handle := by
  have sound := reachable.sound
  refine ⟨fun handle mentioned => sound.isRegistered_of_mentions mentioned,
    sound.modules.loggers, ?_, ?_⟩
  · intro handle move present leaves moves
    rcases ModuleTable.contains_iff.mp present with ⟨module, found⟩
    have given := Nat.le_trans (sound.modules.le_lastHandle found)
      (succeeds_step behaviour sound move).lastHandle_le
    exact (reachable.step move).forgot given (leaves.gone sound) moves
  · intro handle given absent moves
    refine reachable.forgot given ?_ moves
    exact Option.not_isSome_iff_eq_none.mp (Bool.eq_false_iff.mp absent)

/-- The logger of the small bus is listed; the one that was turned away is not, and
the fourth will not be after it has said goodbye, whoever comes then. -/
theorem registries_agree_of_small :
    let goodbye : Message :=
      { header := { messageType := MessageType.disconnect }, timecode := none, payload := [] }
    small.broker.modules.loggers = [1] ∧
      small.broker.modules.isRegistered 1 = true ∧
      small.broker.modules.lastHandle = 4 ∧
      (∀ moves, (small.run QueueRule.bounded.each moves).broker.Forgot 3) ∧
      ∀ moves, ((small.step QueueRule.bounded.each
        (.occasion (.event (.message 4 goodbye)))).run QueueRule.bounded.each
          (joining 5 0 true ++ moves)).broker.Forgot 4 := by
  have loggers : small.broker.modules.loggers = [1] := by decide +kernel
  have last : small.broker.modules.lastHandle = 4 := by decide +kernel
  have refused : small.broker.modules.contains 3 = false := by decide +kernel
  have present : small.broker.modules.contains 4 = true := by decide +kernel
  rcases small_reachable.registries_agree with ⟨listed, _, left, forgotten⟩
  refine ⟨loggers, listed 1 (Or.inl (loggers ▸ List.mem_cons_self)), last,
    forgotten 3 (last ▸ by decide) refused, fun moves => ?_⟩
  exact left 4 _ present (.goodbye (by decide +kernel)) _

end Bus

end MessageBus
