import MessageBus.Proofs.Answers
import MessageBus.Proofs.Circle
import MessageBus.Proofs.Failures

namespace MessageBus

open Wire

/-!
# Who is let in

`chooseId` goes through its tests in an order, and the pool is asked last.  Seen from outside
the order does not matter: `ModuleTable.Admits` says which connections are let in, in terms of
who else is registered, and `ModuleTable.chooseId_ok_iff` that it is these and no others.  What
the tests leave open is only which number of the band a module gets that asked for none.

The other side is what a refusal leaves behind.  The pool is as it was, either because it was
not asked or because it has been once around its band.  The connection had a record, and nothing
else: whoever has not been let in stands in no list.  So forgetting it takes out the record and
changes nothing (`Broker.Sound.remove_refused`), and since nobody was told that it had come,
nobody is told that it goes.
-/

namespace ModuleTable

variable {table : ModuleTable} {handle other : Handle} {module : Module} {id : ModuleId}
  {identity : IdentitySettings} {pool next : IdentityPool} {request : ConnectRequest}
  {cause : Rejection} {dynamicStart : ModuleId}

/-- No registered module has a property, except perhaps one of them. -/
def NoOther (table : ModuleTable) (handle : Handle) (property : Module -> Prop) : Prop :=
  ∀ other rival, other ≠ handle -> table.get? other = some rival ->
    rival.isRegistered = true -> ¬ property rival

/-- A number of the band that no registered module holds. -/
def IsFree (table : ModuleTable) (identity : IdentitySettings) (id : ModuleId) : Prop :=
  identity.dynamicStart ≤ id ∧ id < identity.maxModules ∧
    ∀ other rival, table.get? other = some rival -> rival.isRegistered = true -> rival.id ≠ id

/-- Nothing speaks against a request to be let in. -/
structure Admits (table : ModuleTable) (handle : Handle) (request : ConnectRequest)
    (identity : IdentitySettings) : Prop where
  /-- A number that is asked for is below the band, and nobody else has it for himself. -/
  requested : request.requestedId ≠ 0 ->
    1 ≤ request.requestedId ∧ request.requestedId < identity.dynamicStart ∧
      table.NoOther handle fun rival => rival.isUnique = true ∧ rival.id = request.requestedId
  /-- Nobody else has a name for himself that is wanted alone. -/
  named : ∀ name, request.unique = true -> request.name = some name ->
    table.NoOther handle fun rival => rival.isUnique = true ∧ rival.name = some name
  /-- If no number is asked for, there is one to be had. -/
  room : request.requestedId = 0 -> ∃ id, table.IsFree identity id

/-! ## The tests, one by one -/

/-- A search among the registered modules other than one that finds nobody. -/
theorem Consistent.find?_registered (consistent : table.Consistent) {test : Module -> Bool}
    {property : Module -> Prop}
    (means : ∀ module, test module = true ↔ module.handle ≠ handle ∧ property module) :
    table.registered.find? test = none ↔ table.NoOther handle property := by
  rw [List.find?_eq_none]
  constructor
  · intro nobody other rival different found registered has
    have among := mem_registered.mpr ⟨mem_of_get? found, registered⟩
    exact nobody rival among ((means rival).mpr ⟨handle_of_get? found ▸ different, has⟩)
  · intro noOther rival among passes
    rcases consistent.mem_registered_iff.mp among with ⟨found, registered⟩
    rcases (means rival).mp passes with ⟨different, has⟩
    exact noOther rival.handle rival different found registered has

theorem Consistent.uniqueHolderOfId?_iff (consistent : table.Consistent) :
    table.uniqueHolderOfId? id handle = none ↔
      table.NoOther handle fun rival => rival.isUnique = true ∧ rival.id = id := by
  refine consistent.find?_registered fun rival => ?_
  simp only [Bool.and_eq_true, beq_iff_eq, bne_iff_ne]
  exact and_comm

theorem Consistent.uniqueHolderOfName?_iff (consistent : table.Consistent) {name : String} :
    table.uniqueHolderOfName? name handle = none ↔
      table.NoOther handle fun rival => rival.isUnique = true ∧ rival.name = some name := by
  refine consistent.find?_registered fun rival => ?_
  simp only [Bool.and_eq_true, beq_iff_eq, bne_iff_ne]
  constructor
  · rintro ⟨⟨unique, different⟩, same⟩
    exact ⟨different, unique, same⟩
  · rintro ⟨different, unique, same⟩
    exact ⟨⟨unique, different⟩, same⟩

theorem Consistent.idObjection?_iff (consistent : table.Consistent) :
    table.idObjection? handle id dynamicStart = none ↔
      (id ≠ 0 -> 1 ≤ id ∧ id < dynamicStart ∧
        table.NoOther handle fun rival => rival.isUnique = true ∧ rival.id = id) := by
  constructor
  · intro unopposed asked
    rcases idObjection?_eq_none unopposed asked with ⟨low, high, nobody⟩
    exact ⟨low, high, consistent.uniqueHolderOfId?_iff.mp nobody⟩
  · intro allowed
    unfold idObjection?
    by_cases asked : id = 0
    · rw [if_pos asked]
    · rcases allowed asked with ⟨low, high, noOther⟩
      rw [if_neg asked, if_neg (not_not_intro ⟨low, high⟩),
        consistent.uniqueHolderOfId?_iff.mpr noOther]
      rfl

theorem Consistent.nameObjection?_iff (consistent : table.Consistent) :
    table.nameObjection? handle request = none ↔
      ∀ name, request.unique = true -> request.name = some name ->
        table.NoOther handle fun rival => rival.isUnique = true ∧ rival.name = some name := by
  constructor
  · intro unopposed name unique named
    exact consistent.uniqueHolderOfName?_iff.mp (nameObjection?_eq_none unopposed unique named)
  · intro allowed
    unfold nameObjection?
    cases unique : request.unique with
    | false => rfl
    | true =>
        cases named : request.name with
        | none => rfl
        | some name =>
            have nobody := consistent.uniqueHolderOfName?_iff.mpr (allowed name unique named)
            simp [nobody]

/-- The numbers in use are those of the registered modules. -/
theorem Consistent.mem_idsInUse (consistent : table.Consistent) :
    id ∈ table.idsInUse ↔
      ∃ other rival, table.get? other = some rival ∧ rival.isRegistered = true ∧ rival.id = id := by
  unfold idsInUse
  rw [List.mem_map]
  constructor
  · rintro ⟨rival, among, same⟩
    rcases consistent.mem_registered_iff.mp among with ⟨found, registered⟩
    exact ⟨rival.handle, rival, found, registered, same⟩
  · rintro ⟨other, rival, found, registered, same⟩
    exact ⟨rival, mem_registered.mpr ⟨mem_of_get? found, registered⟩, same⟩

theorem Consistent.isFree_iff (consistent : table.Consistent)
    (band : pool.start = identity.dynamicStart ∧ pool.stop = identity.maxModules) :
    table.IsFree identity id ↔ pool.start ≤ id ∧ id < pool.stop ∧ id ∉ table.idsInUse := by
  unfold IsFree
  rw [band.1, band.2, consistent.mem_idsInUse]
  simp only [not_exists, not_and]

/-! ## All tests together -/

/-- The ways that the choice of a number can go. -/
inductive Chosen (table : ModuleTable) (pool : IdentityPool) (handle : Handle)
    (request : ConnectRequest) (dynamicStart : ModuleId) :
    Except Rejection ModuleId × IdentityPool -> Prop where
  | badId {cause : Rejection}
      (opposed : table.idObjection? handle request.requestedId dynamicStart = some cause) :
      Chosen table pool handle request dynamicStart (.error cause, pool)
  | badName {cause : Rejection} (opposed : table.nameObjection? handle request = some cause) :
      Chosen table pool handle request dynamicStart (.error cause, pool)
  | asked (given : request.requestedId ≠ 0)
      (goodId : table.idObjection? handle request.requestedId dynamicStart = none)
      (goodName : table.nameObjection? handle request = none) :
      Chosen table pool handle request dynamicStart (.ok request.requestedId, pool)
  | drawn {id : ModuleId} {next : IdentityPool} (unasked : request.requestedId = 0)
      (goodName : table.nameObjection? handle request = none)
      (allocated : pool.allocate table.idsInUse = (.ok id, next)) :
      Chosen table pool handle request dynamicStart (.ok id, next)
  | exhausted {cause : Exhausted} {next : IdentityPool} (unasked : request.requestedId = 0)
      (refused : pool.allocate table.idsInUse = (.error cause, next)) :
      Chosen table pool handle request dynamicStart (.error (.exhausted cause), next)

theorem chosen_chooseId (table : ModuleTable) (pool : IdentityPool) (handle : Handle)
    (request : ConnectRequest) (dynamicStart : ModuleId) :
    Chosen table pool handle request dynamicStart
      (table.chooseId pool handle request dynamicStart) := by
  unfold chooseId
  cases idObjection : table.idObjection? handle request.requestedId dynamicStart with
  | some cause => exact .badId idObjection
  | none =>
      dsimp only
      cases nameObjection : table.nameObjection? handle request with
      | some cause => exact .badName nameObjection
      | none =>
          dsimp only
          by_cases given : request.requestedId ≠ 0
          · rw [if_pos given]
            exact .asked given idObjection nameObjection
          · rw [if_neg given]
            have unasked := not_not.mp given
            rcases allocation : pool.allocate table.idsInUse with ⟨cause | id, next⟩
            · exact .exhausted unasked allocation
            · exact .drawn unasked nameObjection allocation

/-- A number is found exactly for those against whom nothing speaks. -/
theorem chooseId_ok_iff (consistent : table.Consistent) (within : pool.Within)
    (band : pool.start = identity.dynamicStart ∧ pool.stop = identity.maxModules) :
    (∃ id, (table.chooseId pool handle request identity.dynamicStart).1 = .ok id) ↔
      table.Admits handle request identity := by
  have chosen := chosen_chooseId table pool handle request identity.dynamicStart
  generalize table.chooseId pool handle request identity.dynamicStart = choice at chosen
  cases chosen with
  | badId opposed =>
      refine iff_of_false (fun ⟨_, granted⟩ => nomatch granted) fun admits => ?_
      rw [consistent.idObjection?_iff.mpr admits.requested] at opposed
      cases opposed
  | badName opposed =>
      refine iff_of_false (fun ⟨_, granted⟩ => nomatch granted) fun admits => ?_
      rw [consistent.nameObjection?_iff.mpr admits.named] at opposed
      cases opposed
  | asked given goodId goodName =>
      refine iff_of_true ⟨_, rfl⟩ ?_
      exact {
        requested := consistent.idObjection?_iff.mp goodId
        named := consistent.nameObjection?_iff.mp goodName
        room := fun unasked => absurd unasked given }
  | drawn unasked goodName allocated =>
      refine iff_of_true ⟨_, rfl⟩ ?_
      rcases IdentityPool.allocate_ok within allocated with ⟨unused, low, high⟩
      exact {
        requested := fun given => absurd unasked given
        named := consistent.nameObjection?_iff.mp goodName
        room := fun _ => ⟨_, (consistent.isFree_iff band).mpr ⟨low, high, unused⟩⟩ }
  | exhausted unasked refused =>
      refine iff_of_false (fun ⟨_, granted⟩ => nomatch granted) fun admits => ?_
      rcases admits.room unasked with ⟨id, isFree⟩
      rcases (consistent.isFree_iff band).mp isFree with ⟨low, high, unused⟩
      exact unused ((IdentityPool.allocate_error within refused).2 id low high)

/-- The number is the one that was asked for, or a free one. -/
theorem id_of_chooseId (consistent : table.Consistent) (within : pool.Within)
    (band : pool.start = identity.dynamicStart ∧ pool.stop = identity.maxModules)
    (granted : (table.chooseId pool handle request identity.dynamicStart).1 = .ok id) :
    if request.requestedId = 0 then table.IsFree identity id else id = request.requestedId := by
  have chosen := chosen_chooseId table pool handle request identity.dynamicStart
  generalize table.chooseId pool handle request identity.dynamicStart = choice at chosen granted
  cases chosen with
  | badId | badName | exhausted => cases granted
  | asked given _ _ =>
      rw [if_neg given]
      exact (Except.ok.inj granted).symm
  | drawn unasked _ allocated =>
      cases granted
      rw [if_pos unasked]
      rcases IdentityPool.allocate_ok within allocated with ⟨unused, low, high⟩
      exact (consistent.isFree_iff band).mpr ⟨low, high, unused⟩

/-- Whoever is refused leaves the pool as it was. -/
theorem pool_of_chooseId (within : pool.Within)
    (refused : (table.chooseId pool handle request dynamicStart).1 = .error cause) :
    (table.chooseId pool handle request dynamicStart).2 = pool := by
  have chosen := chosen_chooseId table pool handle request dynamicStart
  generalize table.chooseId pool handle request dynamicStart = choice at chosen refused
  cases chosen with
  | badId | badName | asked => rfl
  | drawn => cases refused
  | exhausted _ spent => exact (IdentityPool.allocate_error within spent).1

end ModuleTable

/-! ## What a refusal leaves behind -/

namespace Broker

variable {broker : Broker} {config : Config} {handle : Handle} {module : Module}
  {cause : Rejection} {request : ConnectRequest} {message : Message}

/-- A connection that was not let in leaves nothing but its record, and a line in the log. -/
theorem Sound.remove_refused (sound : broker.Sound config)
    (found : broker.modules.get? handle = some module)
    (unregistered : module.isRegistered = false) (cause : Rejection) :
    ∃ line : Pending,
      line.Tells config.format (ManagerLog.ofLine .warning broker.clock.seconds
        s!"CONNECT refused for {module.peer.text}: {cause.message}") ∧
      broker.remove handle (.refused cause) =
        { broker with
          modules := { broker.modules with
            modules := broker.modules.modules.filter (·.handle ≠ handle) }
          closings := broker.closings ++ [(handle, .abrupt)]
          outbox := broker.outbox ++ [line] } := by
  have unmentioned : ¬ broker.Mentions handle := by
    intro mentioned
    have registered := sound.isRegistered_of_mentions mentioned
    rw [ModuleTable.isRegistered_of_get? found, unregistered] at registered
    cases registered
  let left : Broker :=
    { broker.forget handle with closings := broker.closings ++ [(handle, Farewell.abrupt)] }
  rcases publishPayload_tells left (ManagerLog.ofLine .warning broker.clock.seconds
    s!"CONNECT refused for {module.peer.text}: {cause.message}") with ⟨line, tells, logged⟩
  have removed : broker.remove handle (.refused cause) =
      { left with outbox := broker.outbox ++ [line] } := by
    unfold remove
    rw [found]
    simp only [unregistered, Departure.announcement?, Departure.farewell, publishLog]
    exact logged
  refine ⟨line, sound.config_eq ▸ tells, removed.trans ?_⟩
  show { left with outbox := _ } = _
  simp only [left, forget]
  rw [Subscriptions.remove_of_not_mentioned fun mentioned => unmentioned (Or.inr mentioned),
    ModuleTable.remove_of_not_logger fun logs => unmentioned (Or.inl logs)]

theorem dispatch_connect (unregistered : broker.modules.isRegistered handle = false)
    (asked : Request.classify broker.schemas message = .ok (.connect request)) :
    broker.dispatch handle message = broker.connect handle request := by
  unfold dispatch
  rw [asked]
  dsimp only
  rw [unregistered, if_neg Bool.false_ne_true]
  rfl

/-- A refusal to let somebody in is a refusal and nothing else. -/
theorem Sound.dispatch_refused (sound : broker.Sound config)
    (found : broker.modules.get? handle = some module)
    (unregistered : module.isRegistered = false)
    (asked : Request.classify broker.schemas message = .ok (.connect request))
    (refused : (broker.modules.chooseId broker.identities handle request
      config.identity.dynamicStart).1 = .error cause) :
    broker.dispatch handle message = broker.remove handle (.refused cause) := by
  rw [dispatch_connect ((ModuleTable.isRegistered_of_get? found).trans unregistered) asked]
  have kept := ModuleTable.pool_of_chooseId sound.within refused
  rw [← sound.config_eq] at refused kept
  exact connect_of_error (Prod.ext refused kept)

/-- Whoever is let in is registered afterwards. -/
theorem get?_dispatch_granted {id : ModuleId}
    (found : broker.modules.get? handle = some module)
    (unregistered : module.isRegistered = false)
    (asked : Request.classify broker.schemas message = .ok (.connect request))
    (granted : (broker.modules.chooseId broker.identities handle request
      broker.config.identity.dynamicStart).1 = .ok id) :
    (broker.dispatch handle message).modules.get? handle = some (module.admitted id request) := by
  rw [dispatch_connect ((ModuleTable.isRegistered_of_get? found).trans unregistered) asked,
    connect_of_ok (Prod.ext granted rfl), modules_publishClientInfo, modules_acknowledge]
  show (broker.modules.enroll handle id request).get? handle = _
  rw [ModuleTable.get?_enroll_self, found]
  rfl

end Broker

namespace Bus

variable {behaviour : Behaviour σ} {config : Config} {bus : Bus σ} {handle : Handle}
  {module : Module}

/-- Whether a connection is let in can be told from who else is registered, and it gets the
number that it has asked for, or a free one.  If it is refused, the pool is as before, and
dispatching its request takes out the record of the connection, which is closed, and puts a
line for the log into the outbox; everything else is as before. -/
theorem Reachable.admission_exact (reachable : bus.Reachable behaviour config)
    (found : bus.broker.modules.get? handle = some module)
    (unregistered : module.isRegistered = false) (request : ConnectRequest) :
    let broker := bus.broker
    let chosen := broker.modules.chooseId broker.identities handle request
      config.identity.dynamicStart
    ((∃ id, chosen.1 = .ok id) ↔ broker.modules.Admits handle request config.identity) ∧
      (∀ id, chosen.1 = .ok id ->
        if request.requestedId = 0 then broker.modules.IsFree config.identity id
        else id = request.requestedId) ∧
      (∀ cause, chosen.1 = .error cause -> chosen.2 = broker.identities) ∧
      ∀ message, Request.classify broker.schemas message = .ok (.connect request) ->
        (∀ id, chosen.1 = .ok id ->
          (broker.dispatch handle message).modules.get? handle =
            some (module.admitted id request)) ∧
        ∀ cause, chosen.1 = .error cause ->
          ∃ line : Pending,
            line.Tells config.format (ManagerLog.ofLine .warning broker.clock.seconds
              s!"CONNECT refused for {module.peer.text}: {cause.message}") ∧
            broker.dispatch handle message =
              { broker with
                modules := { broker.modules with
                  modules := broker.modules.modules.filter (·.handle ≠ handle) }
                closings := broker.closings ++ [(handle, .abrupt)]
                outbox := broker.outbox ++ [line] } := by
  intro broker chosen
  have sound : broker.Sound config := reachable.sound
  refine ⟨ModuleTable.chooseId_ok_iff sound.modules sound.within sound.band,
    fun id => ModuleTable.id_of_chooseId sound.modules sound.within sound.band,
    fun cause => ModuleTable.pool_of_chooseId sound.within, fun message asked => ⟨?_, ?_⟩⟩
  · intro id granted
    refine Broker.get?_dispatch_granted found unregistered asked ?_
    rw [sound.config_eq]
    exact granted
  · intro cause refused
    rw [sound.dispatch_refused found unregistered asked refused]
    exact sound.remove_refused found unregistered cause

/-- The message of a newcomer that asks for a number, and wants it for itself. -/
def asking (id : ModuleId) : Message :=
  { header := { messageType := MessageType.connect, sourceModule := id, dataBytes := 4 }
    timecode := none
    payload := [0, 0, 0, 0] }

/-- A fifth connection may have the number 8 but not the number 7, which a module of the small
bus has for itself. -/
theorem admission_exact_of_small :
    let bus := small.step QueueRule.bounded.each (.occasion (.arrival ⟨.v4 [127, 0, 0, 1], 7111, 0⟩))
    let request (id : ModuleId) : ConnectRequest := ⟨id, false, false, true, 0, none⟩
    bus.broker.modules.Admits 5 (request 8) {} ∧
      ¬ bus.broker.modules.Admits 5 (request 7) {} ∧
      (bus.broker.dispatch 5 (asking 8)).modules.isRegistered 5 = true ∧
      ∃ line module, bus.broker.modules.get? 5 = some module ∧
        bus.broker.dispatch 5 (asking 7) =
          { bus.broker with
            modules := { bus.broker.modules with
              modules := bus.broker.modules.modules.filter (·.handle ≠ 5) }
            closings := bus.broker.closings ++ [(5, .abrupt)]
            outbox := bus.broker.outbox ++ [line] } := by
  intro bus request
  have reachable : bus.Reachable QueueRule.bounded.each {} := small_reachable.step _
  let chosen (id : ModuleId) := (bus.broker.modules.chooseId bus.broker.identities 5 (request id)
    ModuleId.dynamicStart).1
  have present : (bus.broker.modules.get? 5).map Module.isRegistered = some false := by
    decide +kernel
  have eight : chosen 8 = .ok 8 := by decide +kernel
  have seven : (chosen 7).toOption = none := by decide +kernel
  have asks (id : ModuleId) :
      Request.classify bus.broker.schemas (asking id) = .ok (.connect (request id)) := rfl
  rcases Option.map_eq_some_iff.mp present with ⟨module, found, unregistered⟩
  rcases reachable.admission_exact found unregistered (request 8) with ⟨mayHaveEight, _, _, reacts⟩
  rcases reachable.admission_exact found unregistered (request 7) with ⟨mayHaveSeven, _, _, refuses⟩
  have admitted := (reacts (asking 8) (asks 8)).1 8 eight
  cases answer : chosen 7 with
  | ok id =>
      rw [answer] at seven
      cases seven
  | error cause =>
      rcases (refuses (asking 7) (asks 7)).2 cause answer with ⟨line, _, left⟩
      refine ⟨mayHaveEight.mp ⟨8, eight⟩, fun admits => ?_,
        ModuleTable.isRegistered_of_get? admitted, line, module, found, left⟩
      rcases mayHaveSeven.mpr admits with ⟨id, granted⟩
      have refused : chosen 7 = .ok id := granted
      rw [answer] at refused
      cases refused

end Bus

end MessageBus
