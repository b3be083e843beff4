import MessageBus.Proofs.Dropped
import MessageBus.Proofs.Listing
import MessageBus.Proofs.Sending
import MessageBus.Proofs.Timings

namespace MessageBus

open Wire

/-!
# Who can be meant

A message is addressed to a number, and a number is what a module gets when it is let in.  The
bounds on both come from the same three settings, but they are not written in one place: a
number that is asked for is compared with the band, a number of the band is what the pool finds,
the broker looks at the destination of what it passes on, and a client at the destination of what
it sends.

Which numbers modules have is settled by runs.  Nobody has a number that is not assignable, since
the manager gives none away; and for each assignable number there is a run in which it is held.
A number below the band can be asked for by the first who comes.  For a number of the band
connections come and go, one after the other, until it is its turn (`Bus.exists_vacant`).

The bounds agree except at the upper end.  The number just above the band belongs to nobody, but
the broker takes it for a destination, so what is addressed to it is passed on.  Everything above
and below is dropped.
-/

/-- Nothing speaks against a configuration that is accepted. -/
theorem Config.unopposed {config : Config} (accepted : config.validate = .ok ()) :
    config.objection? = none := by
  unfold validate at accepted
  cases objection : config.objection? with
  | none => rfl
  | some error =>
      rw [objection] at accepted
      cases accepted

namespace IdentitySettings

variable {identity : IdentitySettings} {id : ModuleId} {host : HostId}

/-- A number below the band, which can be asked for, or one of the band. -/
def IsAssignable (identity : IdentitySettings) (id : ModuleId) : Prop :=
  (1 ≤ id ∧ id < identity.dynamicStart) ∨ (identity.dynamicStart ≤ id ∧ id < identity.maxModules)

/-- A host that there can be, or all of them. -/
def IsHost (identity : IdentitySettings) (host : HostId) : Prop :=
  (0 ≤ host ∧ host ≤ identity.maxHosts) ∨ host = HostId.all

/-- The two ranges have no gap between them. -/
theorem isAssignable_iff (low : 2 ≤ identity.dynamicStart)
    (filled : identity.dynamicStart < identity.maxModules) :
    identity.IsAssignable id ↔ 1 ≤ id ∧ id < identity.maxModules := by
  simp only [IsAssignable, Int16.le_iff_toInt_le, Int16.lt_iff_toInt_lt] at *
  have two : (2 : ModuleId).toInt = 2 := rfl
  have one : (1 : ModuleId).toInt = 1 := rfl
  omega

/-- What is within the bounds of a destination is assignable, or nobody in particular, or the
number above the band. -/
theorem within_iff (low : 2 ≤ identity.dynamicStart)
    (filled : identity.dynamicStart < identity.maxModules) :
    (0 ≤ id ∧ id ≤ identity.maxModules) ↔
      id = 0 ∨ identity.IsAssignable id ∨ id = identity.maxModules := by
  rw [isAssignable_iff low filled]
  simp only [Int16.le_iff_toInt_le, Int16.lt_iff_toInt_lt, ← Int16.toInt_inj] at *
  have two : (2 : ModuleId).toInt = 2 := rfl
  have one : (1 : ModuleId).toInt = 1 := rfl
  have zero : (0 : ModuleId).toInt = 0 := rfl
  omega

end IdentitySettings

/-! ## Being let in alone -/

namespace ModuleTable

variable {table : ModuleTable} {handle : Handle} {pool : IdentityPool} {request : ConnectRequest}
  {dynamicStart : ModuleId}

theorem unopposed_of_alone (alone : table.registered = []) (handle : Handle)
    (request : ConnectRequest) : table.nameObjection? handle request = none := by
  have nobody (name : String) : table.uniqueHolderOfName? name handle = none := by
    unfold uniqueHolderOfName?
    rw [alone]
    rfl
  unfold nameObjection?
  cases request.unique with
  | false => rfl
  | true =>
      cases request.name with
      | none => rfl
      | some name => simp [nobody]

/-- Who is alone gets the number that it asks for, if it may ask for it. -/
theorem chooseId_asked (alone : table.registered = []) (low : 1 ≤ request.requestedId)
    (high : request.requestedId < dynamicStart) :
    table.chooseId pool handle request dynamicStart = (.ok request.requestedId, pool) := by
  have asked : request.requestedId ≠ 0 := by
    intro unasked
    rw [unasked] at low
    exact absurd low (by decide)
  have nobody : table.uniqueHolderOfId? request.requestedId handle = none := by
    unfold uniqueHolderOfId?
    rw [alone]
    rfl
  have unopposed : table.idObjection? handle request.requestedId dynamicStart = none := by
    unfold idObjection?
    rw [if_neg asked, if_neg (not_not_intro ⟨low, high⟩), nobody]
    rfl
  unfold chooseId
  rw [unopposed, unopposed_of_alone alone]
  exact if_pos asked

/-- Who is alone and asks for no number gets the one whose turn it is. -/
theorem chooseId_unasked (alone : table.registered = []) (within : pool.Within)
    (unasked : request.requestedId = 0) :
    table.chooseId pool handle request dynamicStart = (.ok pool.cursor, pool.advance) := by
  have unopposed : table.idObjection? handle request.requestedId dynamicStart = none :=
    if_pos unasked
  have wide : ∃ tries, pool.width = tries + 1 :=
    Nat.exists_eq_succ_of_ne_zero (Nat.ne_zero_of_lt within.place_lt)
  have allocated : pool.allocate table.idsInUse = (.ok pool.cursor, pool.advance) := by
    have unused : table.idsInUse = [] := by
      unfold idsInUse
      rw [alone]
      rfl
    rcases wide with ⟨tries, wide⟩
    unfold IdentityPool.allocate
    rw [unused, wide]
    rfl
  unfold chooseId
  rw [unopposed, unopposed_of_alone alone]
  dsimp only
  rw [if_neg (not_not_intro unasked), allocated]
  rfl

end ModuleTable

namespace Broker

variable {broker : Broker} {config : Config} {header : Header}

/-- The destinations that the broker does not take for a mistake. -/
theorem isValidDestination_iff (low : 2 ≤ broker.config.identity.dynamicStart)
    (filled : broker.config.identity.dynamicStart < broker.config.identity.maxModules) :
    broker.isValidDestination header = true ↔
      broker.config.identity.IsHost header.destinationHost ∧
        (header.destinationModule = 0 ∨
          broker.config.identity.IsAssignable header.destinationModule ∨
          header.destinationModule = broker.config.identity.maxModules) := by
  rw [← IdentitySettings.within_iff low filled]
  unfold isValidDestination IdentitySettings.IsHost
  simp only [Bool.and_eq_true, Bool.or_eq_true, decide_eq_true_iff, beq_iff_eq]
  exact and_comm

/-- Nobody is given a number that is not assignable. -/
theorem Sound.isAssignable (sound : broker.Sound config) {handle : Handle}
    {request : ConnectRequest} {id : ModuleId}
    (granted : (broker.modules.chooseId broker.identities handle request
      config.identity.dynamicStart).1 = .ok id) : config.identity.IsAssignable id := by
  rcases (ModuleTable.chooseId_ok (Prod.ext granted rfl)).1 with ⟨low, high, _⟩ | allocated
  · exact Or.inl ⟨low, high⟩
  · rcases IdentityPool.allocate_ok sound.within allocated with ⟨_, low, high⟩
    exact Or.inr ⟨sound.band.1 ▸ low, sound.band.2 ▸ high⟩

/-- Whoever leaves takes no number along. -/
theorem identities_remove (broker : Broker) (handle : Handle) (departure : Departure) :
    (broker.remove handle departure).identities = broker.identities := by
  unfold remove
  split
  · rfl
  · dsimp only
    split <;> split <;> rfl

end Broker

/-! ## Numbers that are held -/

namespace Bus

variable {behaviour : Behaviour σ} {config : Config} {bus : Bus σ} {id : ModuleId}

/-- In some state of some run there is a connection to which the number is given if it asks for
it, or asks for any. -/
def IsGiven (behaviour : Behaviour σ) (config : Config) (id : ModuleId) : Prop :=
  ∃ (bus : Bus σ) (handle : Handle) (module : Module) (request : ConnectRequest),
    bus.Reachable behaviour config ∧ bus.broker.modules.get? handle = some module ∧
      module.isRegistered = false ∧
        (bus.broker.modules.chooseId bus.broker.identities handle request
          config.identity.dynamicStart).1 = .ok id

/-- In some state of some run a registered module has the number. -/
def IsHeld (behaviour : Behaviour σ) (config : Config) (id : ModuleId) : Prop :=
  ∃ bus : Bus σ, bus.Reachable behaviour config ∧
    ∃ module ∈ bus.broker.modules.registered, module.id = id

/-- The request of whoever joins. -/
def newcomer (requestedId : ModuleId) : ConnectRequest where
  requestedId
  logger := false
  daemon := false
  unique := true
  pid := 0
  name := none

/-- The connection of the next one who comes. -/
def arriving (broker : Broker) : Module where
  handle := broker.modules.lastHandle + 1
  peer := ⟨.v4 [127, 0, 0, 1], 7111, 0⟩

/-- The table of a broker to which nobody was connected before somebody came. -/
theorem modules_arrived (vacant : bus.broker.modules.modules = []) :
    let table := (bus.broker.attach (arriving bus.broker).peer).2.modules
    table.modules = [arriving bus.broker] ∧ table.registered = [] ∧
      table.get? (arriving bus.broker).handle = some (arriving bus.broker) := by
  have alone : (bus.broker.attach (arriving bus.broker).peer).2.modules.modules =
      [arriving bus.broker] := by
    show bus.broker.modules.modules ++ [arriving bus.broker] = _
    rw [vacant]
    rfl
  refine ⟨alone, ?_, ?_⟩
  · unfold ModuleTable.registered
    rw [alone]
    rfl
  · unfold ModuleTable.get?
    rw [alone]
    simp

/-- The first who comes is let in, and there is nobody else. -/
theorem broker_joining (behaviour : Behaviour σ) {requestedId : ModuleId} {next : IdentityPool}
    (config_eq : bus.broker.config = config) (vacant : bus.broker.modules.modules = [])
    (chosen : ∀ table : ModuleTable, table.registered = [] ->
      table.chooseId bus.broker.identities (arriving bus.broker).handle (newcomer requestedId)
        config.identity.dynamicStart = (.ok id, next)) :
    let after := (bus.run behaviour (joining (arriving bus.broker).handle requestedId false)).broker
    after.identities = next ∧
      after.modules.modules = [(arriving bus.broker).admitted id (newcomer requestedId)] := by
  intro after
  rcases modules_arrived vacant with ⟨modules, alone, found⟩
  let counted : Broker :=
    { (bus.broker.attach (arriving bus.broker).peer).2 with
      diagnostics := bus.broker.diagnostics.count MessageType.connect }
  have received : after = counted.connect (arriving bus.broker).handle (newcomer requestedId) := by
    have present : (bus.broker.attach (arriving bus.broker).peer).2.modules.contains
        (arriving bus.broker).handle = true :=
      ModuleTable.contains_iff.mpr ⟨_, found⟩
    have understood : counted.dispatch (arriving bus.broker).handle (asking requestedId) =
        counted.connect (arriving bus.broker).handle (newcomer requestedId) :=
      Broker.dispatch_connect (ModuleTable.isRegistered_of_get? found) rfl
    exact (if_pos present).trans understood
  have granted : counted.modules.chooseId counted.identities (arriving bus.broker).handle
      (newcomer requestedId) counted.config.identity.dynamicStart = (.ok id, next) :=
    config_eq ▸ chosen counted.modules alone
  rcases Broker.connect_eq_of_ok granted with ⟨outbox, connected⟩
  rw [received, connected]
  refine ⟨rfl, ?_⟩
  show (counted.modules.enroll (arriving bus.broker).handle id (newcomer requestedId)).modules = _
  rw [ModuleTable.modules_enroll]
  show counted.modules.modules.map _ = _
  rw [show counted.modules.modules = _ from modules, List.map_singleton, if_pos rfl]

/-- Connections come and go until any number of turns are over. -/
theorem exists_vacant (accepted : config.validate = .ok ()) (behaviour : Behaviour σ) (queues : σ)
    (turns : Nat) :
    ∃ bus : Bus σ, bus.Reachable behaviour config ∧ bus.broker.modules.modules = [] ∧
      bus.broker.identities =
        (IdentityPool.new config.identity.dynamicStart config.identity.maxModules).moved turns := by
  induction turns with
  | zero =>
      have started : Broker.start config 1 {} 0 = .ok
          { config, pid := 1, clock := {}
            schemas := config.knownSchemas
            identities := .new config.identity.dynamicStart config.identity.maxModules
            diagnostics := .start 0 } := by
        unfold Broker.start
        rw [accepted]
        rfl
      exact ⟨_, .start started queues, rfl, rfl⟩
  | succ turns ih =>
      rcases ih with ⟨bus, reachable, vacant, pool⟩
      have sound := reachable.sound
      let joined := bus.run behaviour (joining (arriving bus.broker).handle 0 false)
      have joinedReachable : joined.Reachable behaviour config := reachable.run _
      rcases broker_joining behaviour sound.config_eq vacant fun _ alone =>
        ModuleTable.chooseId_unasked alone sound.within rfl with ⟨moved, alone⟩
      let left := joined.step behaviour
        (.occasion (.event (.ended (arriving bus.broker).handle "gone")))
      have found : joined.broker.modules.get? (arriving bus.broker).handle =
          some ((arriving bus.broker).admitted bus.broker.identities.cursor (newcomer 0)) := by
        unfold ModuleTable.get?
        rw [alone]
        exact List.find?_cons_of_pos (beq_iff_eq.mpr rfl)
      refine ⟨left, joinedReachable.step _, ?_, ?_⟩
      · show (joined.broker.remove _ _).modules.modules = []
        rw [Broker.modules_remove]
        show joined.broker.modules.modules.filter _ = []
        rw [alone]
        simp [Module.admitted]
      · show (joined.broker.remove _ _).identities = _
        rw [Broker.identities_remove, moved, pool]
        exact (Function.iterate_succ_apply' ..).symm

/-- Every assignable number is given to the first who comes, in some run. -/
theorem exists_chosen (accepted : config.validate = .ok ()) (behaviour : Behaviour σ) (queues : σ)
    (assignable : config.identity.IsAssignable id) :
    ∃ (bus : Bus σ) (requestedId : ModuleId) (next : IdentityPool),
      bus.Reachable behaviour config ∧ bus.broker.modules.modules = [] ∧
        ∀ table : ModuleTable, table.registered = [] ->
          table.chooseId bus.broker.identities (arriving bus.broker).handle (newcomer requestedId)
            config.identity.dynamicStart = (.ok id, next) := by
  rcases assignable with ⟨low, high⟩ | ⟨low, high⟩
  · rcases exists_vacant accepted behaviour queues 0 with ⟨bus, reachable, vacant, _⟩
    exact ⟨bus, id, bus.broker.identities, reachable, vacant, fun _ alone =>
      ModuleTable.chooseId_asked alone low high⟩
  · have begun : (IdentityPool.new config.identity.dynamicStart config.identity.maxModules).Within :=
      ⟨Int16.le_refl _, Int16.lt_of_le_of_lt low high⟩
    rcases begun.exists_tried low high with ⟨turns, _, turn⟩
    rcases exists_vacant accepted behaviour queues turns with ⟨bus, reachable, vacant, pool⟩
    refine ⟨bus, 0, bus.broker.identities.advance, reachable, vacant, fun _ alone => ?_⟩
    rw [ModuleTable.chooseId_unasked alone reachable.sound.within rfl, pool, turn]

theorem isGiven_iff (accepted : config.validate = .ok ()) (behaviour : Behaviour σ) (queues : σ) :
    IsGiven behaviour config id ↔ config.identity.IsAssignable id := by
  constructor
  · rintro ⟨bus, handle, module, request, reachable, _, _, granted⟩
    exact reachable.sound.isAssignable granted
  · intro assignable
    rcases exists_chosen accepted behaviour queues assignable with
      ⟨bus, requestedId, next, reachable, vacant, chosen⟩
    rcases modules_arrived vacant with ⟨_, alone, found⟩
    exact ⟨bus.step behaviour (.occasion (.arrival (arriving bus.broker).peer)), _, _,
      newcomer requestedId, reachable.step _, found, rfl, congrArg Prod.fst (chosen _ alone)⟩

theorem isHeld_iff (accepted : config.validate = .ok ()) (behaviour : Behaviour σ) (queues : σ) :
    IsHeld behaviour config id ↔ config.identity.IsAssignable id := by
  rcases Config.bands_inOrder (Config.unopposed accepted) with ⟨ordered, filled⟩
  constructor
  · rintro ⟨bus, reachable, module, here, rfl⟩
    rcases reachable.sound.modules.mem_registered_iff.mp here with ⟨found, registered⟩
    exact (IdentitySettings.isAssignable_iff ordered filled).mpr
      (reachable.sound.distinct.ranged _ module found registered)
  · intro assignable
    rcases exists_chosen accepted behaviour queues assignable with
      ⟨bus, requestedId, next, reachable, vacant, chosen⟩
    rcases broker_joining behaviour reachable.sound.config_eq vacant chosen with
      ⟨_, alone⟩
    refine ⟨_, reachable.run (joining (arriving bus.broker).handle requestedId false),
      (arriving bus.broker).admitted id (newcomer requestedId),
      ModuleTable.mem_registered.mpr ⟨?_, rfl⟩, rfl⟩
    exact alone ▸ List.mem_singleton_self _

/-- A module of the bus is within the bounds of a client. -/
theorem isModuleAddress_of_assignable (accepted : config.validate = .ok ())
    (assignable : config.identity.IsAssignable id) : Client.isModuleAddress id = true := by
  have unopposed := Config.unopposed accepted
  rcases Config.bands_inOrder unopposed with ⟨ordered, filled⟩
  rcases (IdentitySettings.isAssignable_iff ordered filled).mp assignable with ⟨low, high⟩
  have most := Config.maxModules_le unopposed
  have low := Int16.le_iff_toInt_le.mp low
  have high := Int16.lt_iff_toInt_lt.mp high
  have one : (1 : ModuleId).toInt = 1 := rfl
  have zero : (0 : ModuleId).toInt = 0 := rfl
  have limit : (Int16.ofNat Limit.modules).toInt = Limit.modules := rfl
  unfold Client.isModuleAddress
  rw [Bool.and_eq_true, decide_eq_true_iff, decide_eq_true_iff, Int16.le_iff_toInt_le,
    Int16.le_iff_toInt_le]
  omega

/-- With every configuration that is accepted, the numbers that modules are given, and that they
hold, are the assignable ones.  The broker passes on what is for one of them, or for nobody in
particular, or for the number above the band; so all modules can be reached, from their clients
as well.  What is for any other number is dropped, and nobody hears of it. -/
theorem addressed_exactly (accepted : config.validate = .ok ()) (behaviour : Behaviour σ)
    (queues : σ) :
    (∀ id, (IsGiven behaviour config id ↔ config.identity.IsAssignable id) ∧
        (IsHeld behaviour config id ↔ config.identity.IsAssignable id)) ∧
      ∀ bus : Bus σ, bus.Reachable behaviour config ->
        (∀ header : Header, bus.broker.isValidDestination header = true ↔
          config.identity.IsHost header.destinationHost ∧
            (header.destinationModule = 0 ∨ IsHeld behaviour config header.destinationModule ∨
              header.destinationModule = config.identity.maxModules)) ∧
        (∀ module ∈ bus.broker.modules.registered,
          (∀ header : Header, header.destinationModule = module.id ->
            config.identity.IsHost header.destinationHost ->
              bus.broker.isValidDestination header = true) ∧
          ∀ (client : Client) (message : Message) (host : HostId), client.isConnected = true ->
            Client.isHostAddress host = true -> message.payload.length ≤ Limit.clientPayload ->
              ∃ frame, client.frame message module.id host = .ok frame) ∧
        ∀ (handle : Handle) (sender : Module) (message : Message),
          bus.broker.modules.get? handle = some sender -> sender.isRegistered = true ->
            Request.classify bus.broker.schemas message = .ok .other ->
              bus.broker.schemas.validate message.header = .ok () ->
                message.header.destinationModule ≠ 0 ->
                  ¬ IsHeld behaviour config message.header.destinationModule ->
                    message.header.destinationModule ≠ config.identity.maxModules ->
                      bus.broker.dispatch handle message = bus.broker := by
  rcases Config.bands_inOrder (Config.unopposed accepted) with ⟨ordered, filled⟩
  have isHeld {id : ModuleId} : IsHeld behaviour config id ↔ config.identity.IsAssignable id :=
    isHeld_iff accepted behaviour queues
  refine ⟨fun id => ⟨isGiven_iff accepted behaviour queues, isHeld⟩, fun bus reachable => ?_⟩
  have valid (header : Header) : bus.broker.isValidDestination header = true ↔
      config.identity.IsHost header.destinationHost ∧
        (header.destinationModule = 0 ∨ IsHeld behaviour config header.destinationModule ∨
          header.destinationModule = config.identity.maxModules) := by
    rw [isHeld]
    have config_eq := reachable.sound.config_eq
    rw [← config_eq] at ordered filled ⊢
    exact Broker.isValidDestination_iff ordered filled
  refine ⟨valid, fun module here => ?reached, fun handle sender message found registered => ?dropped⟩
  case reached =>
    have held : IsHeld behaviour config module.id := ⟨bus, reachable, module, here, rfl⟩
    constructor
    · intro header meant host
      exact (valid header).mpr ⟨host, Or.inr (Or.inl (meant ▸ held))⟩
    · intro client message host connected hosted small
      have address := isModuleAddress_of_assignable accepted (isHeld.mp held)
      exact Client.exists_frame_iff.mpr ⟨connected, address, hosted, small⟩
  case dropped =>
    intro application agrees somebody nobody below
    have nowhere : bus.broker.isValidDestination message.header = false := by
      refine Bool.eq_false_iff.mpr fun meant => ?_
      rcases ((valid message.header).mp meant).2 with everybody | held | above
      · exact somebody everybody
      · exact nobody held
      · exact below above
    rcases (Broker.Drops.misaddressed registered application agrees nowhere).dispatch found with
      ⟨lines, warn, left⟩
    cases warn
    exact left.trans (Broker.passOn_none bus.broker)

/-- A message of an application for one module. -/
def straying (module : ModuleId) : Message where
  header := { messageType := 5000, destinationModule := module }
  timecode := none
  payload := []

/-- There is no module 199 on the small bus, but there can be one; there can be no module 201,
and what is for it is dropped. -/
theorem addressed_exactly_of_small :
    Config.validate {} = .ok () ∧ IsHeld QueueRule.bounded.each {} 199 ∧
      small.broker.isValidDestination (straying 199).header = true ∧
      ¬ IsHeld QueueRule.bounded.each {} 201 ∧
      small.broker.dispatch 4 (straying 201) = small.broker := by
  have accepted : Config.validate {} = .ok () := rfl
  rcases addressed_exactly accepted QueueRule.bounded.each fun _ => 20 with ⟨numbers, reaches⟩
  rcases reaches small small_reachable with ⟨valid, _, drops⟩
  have held : IsHeld QueueRule.bounded.each {} 199 :=
    (numbers 199).2.mpr (Or.inr ⟨by decide, by decide⟩)
  have unheld : ¬ IsHeld QueueRule.bounded.each {} 201 := fun held =>
    absurd ((numbers 201).2.mp held) (by unfold IdentitySettings.IsAssignable; decide)
  have fourth : (small.broker.modules.get? 4).map Module.isRegistered = some true := by
    decide +kernel
  rcases Option.map_eq_some_iff.mp fourth with ⟨sender, found, registered⟩
  exact ⟨accepted, held, (valid _).mpr ⟨Or.inl (by decide), Or.inr (Or.inl held)⟩, unheld,
    drops 4 sender (straying 201) found registered rfl rfl (by decide) unheld (by decide)⟩

/-- There can be no module 200 either, and yet what is for it is passed on. -/
theorem passed_on_to_nobody :
    Config.validate {} = .ok () ∧ ¬ IsHeld QueueRule.bounded.each {} 200 ∧
      small.Reachable QueueRule.bounded.each {} ∧
      small.broker.isValidDestination (straying 200).header = true ∧
      (small.broker.dispatch 4 (straying 200)).outbox = small.broker.outbox ++
        [⟨(straying 200).header,
          ⟨.forwarded, (straying 200).encode .standard small.broker.clock.timecode⟩,
          .subscribers⟩] := by
  have accepted : Config.validate {} = .ok () := rfl
  have valid : small.broker.isValidDestination (straying 200).header = true := by decide +kernel
  have registered : small.broker.modules.isRegistered 4 = true := by decide +kernel
  have application : Request.classify small.broker.schemas (straying 200) = .ok .other := rfl
  have agrees : small.broker.schemas.validate (straying 200).header = .ok () := rfl
  refine ⟨accepted, fun held => ?nobody, small_reachable, valid, ?passed⟩
  case nobody =>
    have assignable := (isHeld_iff accepted QueueRule.bounded.each fun _ => 20).mp held
    exact absurd assignable (by unfold IdentitySettings.IsAssignable; decide)
  case passed =>
    unfold Broker.dispatch
    rw [application]
    dsimp only
    rw [if_pos registered]
    unfold Broker.serve
    dsimp only
    rw [agrees]
    dsimp only
    unfold Broker.forward
    rw [if_pos valid]
    rfl

end Bus

end MessageBus
