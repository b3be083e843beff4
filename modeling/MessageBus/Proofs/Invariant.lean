import MessageBus.Proofs.Edit
import MessageBus.Proofs.Framing

namespace MessageBus

open Wire

/-!
# What every edit keeps up

`Broker.Sound` gathers the invariants of a broker that was started with a
configuration.  They are kept together because they need each other: a newcomer
stays out of the way of the others only while the pool is within its band, and
the record that is found under a handle is the right one only while the handles
ascend.

`ModuleTable.Succeeds` is the other half: not what a table is like, but how it
follows from an earlier one.  A handle that was given out finds, as long as it
finds anything, the module that it found before.
-/

/-- A frame that the broker wrote as a report about a failure reports a failure
that may be reported, as everybody can read from its bytes. -/
def Pending.IsHonest (format : Format) (pending : Pending) : Prop :=
  pending.outbound.provenance = .originated ->
    pending.header.messageType = MessageType.failedMessage ->
      ∃ notice : FailedMessage,
        Payload.decode FailedMessage (pending.outbound.frame.drop format.size) = .ok notice ∧
          notice.failed.messageType ≠ MessageType.failedMessage ∧
          notice.failed.messageType ≠ MessageType.managerLog

namespace ModuleTable

variable {first second third table : ModuleTable} {handle : Handle} {module : Module}

/-- A later state of a table. -/
structure Succeeds (first second : ModuleTable) : Prop where
  lastHandle_le : first.lastHandle ≤ second.lastHandle
  found : ∀ handle module, handle ≤ first.lastHandle -> second.get? handle = some module ->
    ∃ earlier, first.get? handle = some earlier ∧
      (earlier.isRegistered = true -> earlier.Keeps module)

namespace Succeeds

theorem refl (table : ModuleTable) : table.Succeeds table :=
  ⟨Nat.le_refl _, fun _ module _ found => ⟨module, found, fun _ => .refl module⟩⟩

theorem trans (early : first.Succeeds second) (late : second.Succeeds third) :
    first.Succeeds third := by
  refine ⟨Nat.le_trans early.lastHandle_le late.lastHandle_le, ?_⟩
  intro handle module given found
  rcases late.found handle module (Nat.le_trans given early.lastHandle_le) found with
    ⟨middle, foundMiddle, keepsLate⟩
  rcases early.found handle middle given foundMiddle with ⟨earlier, foundEarlier, keepsEarly⟩
  refine ⟨earlier, foundEarlier, fun registered => ?_⟩
  have keeps := keepsEarly registered
  exact keeps.trans (keepsLate (keeps.isRegistered.trans registered))

/-- Under a handle that was given out and finds nothing, nothing is ever found again. -/
theorem get?_eq_none (succeeds : first.Succeeds second) (given : handle ≤ first.lastHandle)
    (gone : first.get? handle = none) : second.get? handle = none := by
  cases found : second.get? handle with
  | none => rfl
  | some module =>
      rcases succeeds.found handle module given found with ⟨earlier, foundEarlier, _⟩
      rw [gone] at foundEarlier
      cases foundEarlier

theorem insert (table : ModuleTable) (peer : SocketAddress) :
    table.Succeeds (table.insert peer).2 := by
  refine ⟨Nat.le_succ _, fun handle module given found => ?_⟩
  rw [get?_insert_of_ne peer (Nat.ne_of_lt (Nat.lt_succ_of_le given))] at found
  exact ⟨module, found, fun _ => .refl module⟩

theorem remove (table : ModuleTable) (removed : Handle) :
    table.Succeeds (table.remove removed) := by
  refine ⟨Nat.le_refl _, fun handle module _ found => ?_⟩
  by_cases same : handle = removed
  · rw [same, get?_remove_self] at found
    cases found
  · rw [get?_remove_of_ne same] at found
    exact ⟨module, found, fun _ => .refl module⟩

theorem modify (table : ModuleTable) (changed : Handle) (change : Module -> Module)
    (keeps : ∀ module, Module.Keeps module (change module)) :
    table.Succeeds (table.modify changed change) := by
  refine ⟨Nat.le_refl _, fun handle module _ found => ?_⟩
  rw [get?_modify change fun module => (keeps module).handle] at found
  rcases Option.map_eq_some_iff.mp found with ⟨earlier, foundEarlier, result⟩
  refine ⟨earlier, foundEarlier, fun _ => ?_⟩
  by_cases same : earlier.handle = changed
  · rw [← result, if_pos same]
    exact keeps earlier
  · rw [← result, if_neg same]
    exact .refl earlier

/-- Only a connection that was not registered is let in. -/
theorem enroll (id : ModuleId) (request : ConnectRequest) (found : table.get? handle = some module)
    (unregistered : module.isRegistered = false) :
    table.Succeeds (table.enroll handle id request) := by
  refine ⟨Nat.le_of_eq (lastHandle_enroll id request).symm, fun other later _ foundLater => ?_⟩
  by_cases same : other = handle
  · subst same
    refine ⟨module, found, fun registered => ?_⟩
    rw [unregistered] at registered
    cases registered
  · rw [get?_enroll_of_ne id request same] at foundLater
    exact ⟨later, foundLater, fun _ => .refl later⟩

end Succeeds

/-- Nobody has been registered under a handle so far. -/
def IsNew (table : ModuleTable) (handle : Handle) : Prop :=
  table.lastHandle < handle ∨
    ∃ module, table.get? handle = some module ∧ module.isRegistered = false

theorem IsNew.of_succeeds (new : second.IsNew handle) (succeeds : first.Succeeds second) :
    first.IsNew handle := by
  by_cases given : handle ≤ first.lastHandle
  · rcases new with later | ⟨module, found, unregistered⟩
    · exact absurd (Nat.le_trans given succeeds.lastHandle_le) (Nat.not_le_of_lt later)
    · rcases succeeds.found handle module given found with ⟨earlier, foundEarlier, keeps⟩
      refine Or.inr ⟨earlier, foundEarlier, ?_⟩
      apply Bool.eq_false_iff.mpr
      intro registered
      rw [(keeps registered).isRegistered, registered] at unregistered
      cases unregistered
  · exact Or.inl (Nat.lt_of_not_le given)

theorem IsNew.not_registered (new : table.IsNew handle) (consistent : table.Consistent) :
    ¬ table.isRegistered handle = true := by
  intro registered
  rcases isRegistered_iff.mp registered with ⟨module, found, isRegistered⟩
  rcases new with later | ⟨other, foundOther, unregistered⟩
  · rw [consistent.get?_of_lt later] at found
    cases found
  · rw [found] at foundOther
    cases foundOther
    rw [isRegistered] at unregistered
    cases unregistered

end ModuleTable

/-- The bands of a configuration that nothing speaks against are in order. -/
theorem Config.bands_inOrder {config : Config} (unopposed : config.objection? = none) :
    2 ≤ config.identity.dynamicStart ∧
      config.identity.dynamicStart < config.identity.maxModules := by
  unfold objection? at unopposed
  dsimp only at unopposed
  by_cases low : config.identity.dynamicStart < 2
  · rw [if_pos low] at unopposed
    cases unopposed
  · rw [if_neg low] at unopposed
    split at unopposed
    · cases unopposed
    · next inside =>
      exact ⟨Int16.not_lt.mp low, Int16.not_le.mp fun empty => inside (Or.inl empty)⟩

namespace Broker

/-- What holds of a broker that was started with a configuration, whatever has
happened to it. -/
structure Sound (config : Config) (broker : Broker) : Prop where
  config_eq : broker.config = config
  positive : 1 ≤ config.identity.dynamicStart
  band : broker.identities.start = config.identity.dynamicStart ∧
    broker.identities.stop = config.identity.maxModules
  within : broker.identities.Within
  modules : broker.modules.Consistent
  distinct : broker.modules.Distinct config.identity.dynamicStart config.identity.maxModules
  subscriptions : broker.subscriptions.Consistent
  subscribers : ∀ handle, broker.subscriptions.Mentions handle ->
    broker.modules.isRegistered handle = true
  honest : ∀ pending ∈ broker.outbox, pending.IsHonest config.format

variable {config : Config} {before after : Broker} {excluded : List MessageType}

theorem start_eq {pid : Int32} {clock : ClockReading} {now : Milliseconds}
    (started : Broker.start config pid clock now = .ok before) :
    config.objection? = none ∧ before =
      { config, pid, clock
        schemas := config.knownSchemas
        identities := .new config.identity.dynamicStart config.identity.maxModules
        diagnostics := .start now } := by
  unfold Broker.start Config.validate at started
  cases objection : config.objection? with
  | some error =>
      rw [objection] at started
      cases started
  | none =>
      rw [objection] at started
      exact ⟨rfl, (Except.ok.inj started).symm⟩

theorem start_sound {pid : Int32} {clock : ClockReading} {now : Milliseconds}
    (started : Broker.start config pid clock now = .ok before) : before.Sound config := by
  rcases start_eq started with ⟨unopposed, rfl⟩
  rcases Config.bands_inOrder unopposed with ⟨low, filled⟩
  exact {
    config_eq := rfl
    positive := Int16.le_trans (by decide) low
    band := ⟨rfl, rfl⟩
    within := ⟨Int16.le_refl _, filled⟩
    modules := .empty
    distinct := .empty
    subscriptions := .empty
    subscribers := fun _ mentioned => absurd mentioned Subscriptions.not_mentions_empty
    honest := by simp }

theorem posted_isHonest {message : Message} (route : Route) (honest : message.IsHonest) :
    ∀ pending ∈ (before.publish message route).outbox,
      pending ∈ before.outbox ∨ pending.IsHonest before.config.format := by
  intro pending here
  rcases List.mem_append.mp here with old | new
  · exact Or.inl old
  · refine Or.inr ?_
    rw [List.mem_singleton.mp new]
    intro _ isReport
    rcases honest isReport with ⟨notice, payload, reported⟩
    refine ⟨notice, ?_, (MessageType.isFailureExempt_eq_false _).mp reported⟩
    have body : (message.fromSource ModuleId.manager before.config.manager.hostId).payload =
        Payload.encode notice := payload
    show Payload.decode FailedMessage ((Message.encode _ before.config.format
      before.clock.timecode).drop before.config.format.size) = .ok notice
    unfold Message.encode
    rw [List.drop_left' (Format.length_encodeHead _ _ _ _), body, Payload.decode_encode]

theorem Edit.sound (edit : Edit excluded before after) (sound : before.Sound config) :
    after.Sound config := by
  have config_eq := sound.config_eq
  cases edit with
  | aside clock diagnostics closings => exact { sound with }
  | posted message route honest _ =>
      refine { sound with honest := ?_ }
      intro pending here
      rcases posted_isHonest route honest pending here with old | new
      · exact sound.honest pending old
      · rwa [config_eq] at new
  | attached peer =>
      exact { sound with
        modules := sound.modules.insert peer
        distinct := sound.distinct.insert sound.modules peer
        subscribers := fun other mentioned =>
          ModuleTable.isRegistered_insert sound.modules peer (sound.subscribers other mentioned) }
  | removed handle =>
      refine { sound with
        modules := sound.modules.remove handle
        distinct := sound.distinct.remove handle
        subscriptions := sound.subscriptions.remove handle
        subscribers := ?_ }
      intro other mentioned
      rcases Subscriptions.mentions_of_remove sound.subscriptions mentioned with
        ⟨different, earlier⟩
      show (before.modules.remove handle).isRegistered other = true
      unfold ModuleTable.isRegistered
      rw [ModuleTable.get?_remove_of_ne different]
      exact sound.subscribers other earlier
  | refused chosen =>
      rcases ModuleTable.chooseId_within sound.within chosen with ⟨within, sameBand⟩
      exact { sound with
        within
        band := ⟨sameBand.1.trans sound.band.1, sameBand.2.trans sound.band.2⟩ }
  | admitted found unregistered granted =>
      rcases ModuleTable.chooseId_within sound.within granted with ⟨within, sameBand⟩
      rw [config_eq] at granted
      exact { sound with
        within
        band := ⟨sameBand.1.trans sound.band.1, sameBand.2.trans sound.band.2⟩
        modules := sound.modules.enroll _ _ found unregistered
        distinct := sound.distinct.enroll found sound.within sound.band sound.positive granted
        subscribers := fun other mentioned =>
          ModuleTable.isRegistered_enroll _ _ (sound.subscribers other mentioned) }
  | modified change found registered keeps named lossless =>
      exact { sound with
        modules := sound.modules.modify change found registered keeps lossless
        distinct := sound.distinct.modify change found registered keeps named
        subscribers := fun other mentioned =>
          (ModuleTable.isRegistered_modify change keeps).trans
            (sound.subscribers other mentioned) }
  | subscribed handle messageType registered =>
      refine { sound with
        subscriptions := sound.subscriptions.subscribe handle messageType
        subscribers := ?_ }
      intro other mentioned
      rcases Subscriptions.mentions_of_subscribe sound.subscriptions mentioned with same | earlier
      · exact same ▸ registered
      · exact sound.subscribers other earlier
  | unsubscribed handle messageType _ =>
      exact { sound with
        subscriptions := sound.subscriptions.unsubscribe handle messageType
        subscribers := fun other mentioned => sound.subscribers other
          (Subscriptions.mentions_of_unsubscribe sound.subscriptions mentioned) }

theorem Edits.sound (edits : Edits excluded before after) (sound : before.Sound config) :
    after.Sound config := by
  induction edits with
  | refl => exact sound
  | tail _ edit ih => exact edit.sound ih

theorem forwarded_of_accepted? {handle : Handle} {message : Message} {pending : Pending}
    (accepted : before.accepted? handle message = some pending) :
    pending.outbound.provenance = .forwarded := by
  unfold accepted? at accepted
  split at accepted
  · cases accepted
    rfl
  · cases accepted

theorem forwarded_of_passedOn? {occasion : Occasion} {pending : Pending}
    (passedOn : before.passedOn? occasion = some pending) :
    pending.outbound.provenance = .forwarded := by
  unfold passedOn? at passedOn
  split at passedOn
  · exact forwarded_of_accepted? passedOn
  all_goals cases passedOn

theorem Sound.meet (sound : before.Sound config) (occasion : Occasion) :
    (before.meet occasion).Sound config := by
  apply (edits_meet before occasion).sound
  refine { sound with honest := ?_ }
  intro pending here
  rcases List.mem_append.mp here with old | new
  · exact sound.honest pending old
  · intro originated
    rw [forwarded_of_passedOn? (Option.mem_toList.mp new)] at originated
    cases originated

theorem Edit.succeeds (edit : Edit excluded before after) : before.modules.Succeeds after.modules := by
  cases edit with
  | aside clock diagnostics closings => exact .refl _
  | posted message route honest _ => exact .refl _
  | attached peer => exact .insert _ peer
  | removed handle => exact .remove _ handle
  | refused chosen => exact .refl _
  | admitted found unregistered granted => exact .enroll _ _ found unregistered
  | modified change found registered keeps named lossless => exact .modify _ _ change keeps
  | subscribed handle messageType registered => exact .refl _
  | unsubscribed handle messageType registered => exact .refl _

theorem Edits.succeeds (edits : Edits excluded before after) :
    before.modules.Succeeds after.modules := by
  induction edits with
  | refl => exact .refl _
  | tail _ edit ih => exact ih.trans edit.succeeds

theorem succeeds_meet (broker : Broker) (occasion : Occasion) :
    broker.modules.Succeeds (broker.meet occasion).modules :=
  (edits_meet broker occasion).succeeds

end Broker

end MessageBus
