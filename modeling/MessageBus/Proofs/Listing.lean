import MessageBus.Proofs.Failures
import MessageBus.Proofs.Notices
import MessageBus.Proofs.Refusals
import MessageBus.Proofs.Tallies

namespace MessageBus

open Wire History

/-!
# What the directory lists

When the directory is due, the manager goes through the registered modules in the order of
their handles, twice: it lists them all in one message, and then it tells about each of them by
itself.  The one message has room for as many modules as there are numbers.  Numbers are not
handed out twice, but modules that do not want theirs for themselves can share one, so any
number of modules can be registered at the same time (`Bus.crowded_crowd`).  Then the list ends
where its room ends, and what it gives as its length is its own length, not that of the
directory (`Bus.not_listed_of_crowd`).  The messages behind it have no such bound: whoever
reads them hears of every module, exactly once and in order.
-/

/-! ## The one message -/

/-- The list says who the first of the modules are, and nothing else. -/
structure ActiveClients.Lists (active : ActiveClients) (modules : List Module) : Prop where
  count : active.count.toInt = min modules.length Limit.modules
  ids : active.modules.toList =
    (modules.map Module.id).take Limit.modules ++
      List.replicate (Limit.modules - modules.length) 0
  pids : active.pids.toList =
    (modules.map Module.pid).take Limit.modules ++
      List.replicate (Limit.modules - modules.length) 0

theorem ActiveClients.Lists.ofModules (timestamp : UInt64) (modules : List Module) :
    (ActiveClients.ofModules timestamp modules).Lists modules := by
  have length : (modules.take Limit.modules).length = min modules.length Limit.modules :=
    List.length_take.trans (Nat.min_comm ..)
  have room : (modules.take Limit.modules).length ≤ Limit.modules := List.length_take_le ..
  have left : Limit.modules - (modules.take Limit.modules).length =
      Limit.modules - modules.length := by omega
  have column : ∀ {α : Type} (empty : α) (value : Module -> α),
      (fillSlots (Vector.replicate Limit.modules empty)
        ((modules.take Limit.modules).zipIdx.map fun entry =>
          ((entry.2 : Int), value entry.1))).toList =
        (modules.map value).take Limit.modules ++
          List.replicate (Limit.modules - modules.length) empty := by
    intro α empty value
    rw [toList_fillSlots value empty room, left, List.map_take]
  refine ⟨?count, column 0 Module.id, column 0 Module.pid⟩
  case count =>
    show (Int32.ofNat (modules.take Limit.modules).length).toInt = _
    rw [Int32.toInt_ofNat_of_lt (Nat.lt_of_le_of_lt room (by decide)), length]

/-- A message about each module tells its number and its process. -/
theorem ClientInfo.map_ofModule (timestamp : UInt64) (modules : List Module) :
    (modules.map (ofModule timestamp)).map (fun info => (info.module, info.pid)) =
      modules.map fun module => (module.id, module.pid) := by
  rw [List.map_map]
  rfl

namespace Broker

variable {broker before between after : Broker} {config : Config} {now : Milliseconds}

theorem messageType_of_tells [Payload α] {format : Format} {frames : List Pending}
    {payloads : List α} (tells : List.Forall₂ (Pending.Tells format) frames payloads) :
    ∀ frame ∈ frames, frame.header.messageType = Payload.messageType α := by
  intro frame here
  have same := List.filter_eq_self.mp (written_of_tells tells) frame here
  exact (of_decide_eq_true same).2

/-- Whoever is let in is entered in the table, and the rest goes into the outbox. -/
theorem connect_eq_of_ok {handle : Handle} {request : ConnectRequest} {id : ModuleId}
    {identities : IdentityPool}
    (chosen : broker.modules.chooseId broker.identities handle request
      broker.config.identity.dynamicStart = (.ok id, identities)) :
    ∃ outbox, broker.connect handle request =
      { broker with identities, modules := broker.modules.enroll handle id request, outbox } := by
  rw [connect_of_ok chosen]
  unfold publishClientInfo acknowledge
  dsimp only
  split <;> split <;> exact ⟨_, rfl⟩

/-! ## The reports before it -/

/-- Reports of other kinds are put behind what is in the outbox, and when the directory was last
due is left as it was. -/
def AddsOthers (before after : Broker) : Prop :=
  ∃ (others : List Pending) (diagnostics : Diagnostics),
    after = { before with diagnostics, outbox := before.outbox ++ others } ∧
      diagnostics.lastDirectory = before.diagnostics.lastDirectory ∧
      ∀ other ∈ others, other.header.messageType ≠ MessageType.activeClients ∧
        other.header.messageType ≠ MessageType.clientInfo

namespace AddsOthers

theorem trans (early : AddsOthers before between) (late : AddsOthers between after) :
    AddsOthers before after := by
  rcases early with ⟨first, early, rfl, lastEarly, otherEarly⟩
  rcases late with ⟨second, late, rfl, lastLate, otherLate⟩
  refine ⟨first ++ second, late, ?_, lastLate.trans lastEarly,
    List.forall_mem_append.mpr ⟨otherEarly, otherLate⟩⟩
  dsimp only
  rw [List.append_assoc]

/-- Nothing is put there. -/
theorem none (broker : Broker) {diagnostics : Diagnostics}
    (last : diagnostics.lastDirectory = broker.diagnostics.lastDirectory) :
    AddsOthers broker { broker with diagnostics } :=
  ⟨[], diagnostics, by rw [List.append_nil], last, fun _ absent => absurd absent List.not_mem_nil⟩

theorem publishPayloads [Payload α] (broker : Broker) (payloads : List α)
    {diagnostics : Diagnostics}
    (last : diagnostics.lastDirectory = broker.diagnostics.lastDirectory)
    (notList : Payload.messageType α ≠ MessageType.activeClients)
    (notInfo : Payload.messageType α ≠ MessageType.clientInfo) :
    AddsOthers broker ({ broker with diagnostics }.publishPayloads payloads) := by
  rcases publishPayloads_tells { broker with diagnostics } payloads with
    ⟨frames, tells, published⟩
  refine ⟨frames, diagnostics, published, last, fun other here => ?_⟩
  rw [messageType_of_tells tells other here]
  exact ⟨notList, notInfo⟩

theorem reportTiming (broker : Broker) (now : Milliseconds) :
    AddsOthers broker (broker.reportTiming now) := by
  unfold Broker.reportTiming
  dsimp only
  split
  · split
    · exact publishPayloads broker [_] rfl (by decide) (by decide)
    · exact none broker rfl
  · exact none broker rfl

theorem reportTraffic (broker : Broker) (now : Milliseconds) :
    AddsOthers broker (broker.reportTraffic now) := by
  unfold Broker.reportTraffic
  dsimp only
  split
  · split
    · exact none broker rfl
    · exact publishPayloads broker _ rfl (by decide) (by decide)
  · exact none broker rfl

end AddsOthers

/-! ## The directory -/

/-- Frames that are a directory of modules: the list of all, and then each of them by itself. -/
inductive IsDirectory (format : Format) (modules : List Module) : List Pending -> Prop where
  | listing {listing : Pending} {active : ActiveClients} {entries : List Pending}
      {infos : List ClientInfo} (tells : listing.Tells format active)
      (lists : active.Lists modules)
      (each : List.Forall₂ (Pending.Tells format) entries infos)
      (same : infos.map (fun info => (info.module, info.pid)) =
        modules.map fun module => (module.id, module.pid)) :
      IsDirectory format modules (listing :: entries)

theorem reportDirectory_of_due (due : broker.isDirectoryDue now = true) :
    ∃ frames, IsDirectory broker.config.format broker.modules.registered frames ∧
      (broker.reportDirectory now).outbox = broker.outbox ++ frames := by
  have due : isDue broker.diagnostics.lastDirectory now
    broker.config.diagnostics.directoryInterval = true := due
  let taken := { broker with diagnostics := { broker.diagnostics with lastDirectory := now } }
  let active := ActiveClients.ofModules broker.clock.seconds broker.modules.registered
  let infos := broker.modules.registered.map (ClientInfo.ofModule broker.clock.seconds)
  rcases publishPayload_tells taken active with ⟨listing, tells, published⟩
  rcases publishPayloads_tells (taken.publishPayload active) infos with
    ⟨entries, each, publishedEach⟩
  refine ⟨listing :: entries, .listing tells (.ofModules ..) ?each
    (ClientInfo.map_ofModule broker.clock.seconds _), ?outbox⟩
  case each =>
    rw [published] at each
    exact each
  case outbox =>
    have reported : broker.reportDirectory now =
        (taken.publishPayload active).publishPayloads infos := by
      unfold reportDirectory
      dsimp only
      rw [due, if_pos rfl]
    rw [reported, publishedEach, published]
    exact List.append_assoc ..

/-- When the directory is due it is the last of what is reported. -/
theorem report_of_due (due : broker.isDirectoryDue now = true) :
    ∃ others frames, (broker.report now).outbox = broker.outbox ++ others ++ frames ∧
      (∀ other ∈ others, other.header.messageType ≠ MessageType.activeClients ∧
        other.header.messageType ≠ MessageType.clientInfo) ∧
      IsDirectory broker.config.format broker.modules.registered frames := by
  have before : AddsOthers broker ((broker.reportTiming now).reportTraffic now) :=
    .trans (.reportTiming broker now) (.reportTraffic _ now)
  unfold report
  rcases before with ⟨others, diagnostics, same, last, apart⟩
  rw [same]
  have still : isDirectoryDue { broker with diagnostics, outbox := broker.outbox ++ others } now =
      true := by
    unfold isDirectoryDue at due ⊢
    dsimp only
    rw [last]
    exact due
  rcases reportDirectory_of_due still with ⟨frames, isDirectory, reported⟩
  exact ⟨others, frames, reported, apart, isDirectory⟩

end Broker

namespace Bus

variable {behaviour : Behaviour σ} {config : Config} {bus : Bus σ}

/-- When the directory is due, one message lists the registered modules in the order of their
handles: how many there are, up to 200, and the numbers and processes of the first 200, with
nothing behind them.  Each registered module then has a message of its own, in the same order,
however many there are. -/
theorem Reachable.directory_listed (reachable : bus.Reachable behaviour config)
    {now : Milliseconds} (due : bus.broker.isDirectoryDue now = true) :
    let modules := bus.broker.modules.registered
    modules.Pairwise (fun first second => first.handle < second.handle) ∧
      (∀ handle, bus.broker.modules.isRegistered handle = true ↔
        ∃ module ∈ modules, module.handle = handle) ∧
      ∃ others frames,
        (bus.step behaviour (.occasion (.poll now))).broker.outbox =
          bus.broker.outbox ++ others ++ frames ∧
        (∀ other ∈ others, other.header.messageType ≠ MessageType.activeClients ∧
          other.header.messageType ≠ MessageType.clientInfo) ∧
        Broker.IsDirectory config.format modules frames := by
  intro modules
  have consistent := reachable.sound.modules
  refine ⟨?ascending, ?registered, ?directory⟩
  case ascending => exact (List.pairwise_map.mp consistent.ascending).sublist List.filter_sublist
  case registered =>
    intro handle
    rw [ModuleTable.isRegistered_iff]
    constructor
    · rintro ⟨module, found, registered⟩
      have same := ModuleTable.handle_of_get? found
      exact ⟨module, consistent.mem_registered_iff.mpr ⟨same ▸ found, registered⟩, same⟩
    · rintro ⟨module, here, rfl⟩
      exact ⟨module, consistent.mem_registered_iff.mp here⟩
  case directory =>
    rw [← reachable.sound.config_eq]
    exact Broker.report_of_due due

/-! ## A crowd of one number -/

/-- A module that asks for the number 7, and not to be the only one that has it. -/
def companion : Message where
  header := { messageType := MessageType.connect, sourceModule := 7, dataBytes := 44 }
  timecode := none
  payload := [0, 0, 0, 0, 1, 0, 0, 0, 1, 0, 0, 0] ++ List.replicate 32 0

/-- What is understood of it. -/
def companionship : ConnectRequest where
  requestedId := 7
  logger := false
  daemon := false
  unique := false
  pid := 1
  name := none

/-- Whoever comes next is such a module. -/
def joins (handle : Handle) : List (Move (Handle -> Nat)) :=
  [.occasion (.arrival ⟨.v4 [127, 0, 0, 1], 7111, 0⟩),
    .occasion (.event (.message handle companion))]

/-- So many of them have come to the vacant bus. -/
def crowd (count : Nat) : Bus (Handle -> Nat) :=
  (vacant 20).run QueueRule.bounded.each ((List.range count).flatMap fun index => joins (index + 1))

/-- The records of the crowd. -/
def crew (count : Nat) : List Module :=
  (List.range count).map fun index =>
    Module.admitted 7 companionship { handle := index + 1, peer := ⟨.v4 [127, 0, 0, 1], 7111, 0⟩ }

/-- A broker that has let the crowd in, and nobody else. -/
structure Crowded (count : Nat) (broker : Broker) : Prop where
  config : broker.config = {}
  schemas : broker.schemas = Config.knownSchemas {}
  last : broker.diagnostics.lastDirectory = 0
  modules : broker.modules = { modules := crew count, loggers := [], lastHandle := count }

theorem crew_succ (count : Nat) :
    crew (count + 1) = crew count ++
      [Module.admitted 7 companionship
        { handle := count + 1, peer := ⟨.v4 [127, 0, 0, 1], 7111, 0⟩ }] := by
  unfold crew
  rw [List.range_succ, List.map_append]
  rfl

theorem forall_mem_crew {count : Nat} {holds : Module -> Prop}
    (each : ∀ index < count, holds (Module.admitted 7 companionship
      { handle := index + 1, peer := ⟨.v4 [127, 0, 0, 1], 7111, 0⟩ })) :
    ∀ module ∈ crew count, holds module := by
  intro module here
  rcases List.mem_map.mp here with ⟨index, below, rfl⟩
  exact each index (List.mem_range.mp below)

/-- The table when one more has come, before it has presented itself. -/
def crewAnd (count : Nat) : ModuleTable :=
  (ModuleTable.insert { modules := crew count, loggers := [], lastHandle := count }
    ⟨.v4 [127, 0, 0, 1], 7111, 0⟩).2

theorem get?_crewAnd (count : Nat) : (crewAnd count).get? (count + 1) =
    some { handle := count + 1, peer := ⟨.v4 [127, 0, 0, 1], 7111, 0⟩ } := by
  refine ModuleTable.get?_insert_self _ (List.find?_eq_none.mpr (forall_mem_crew ?_))
  intro index below
  simp [Module.admitted]
  omega

/-- Nobody has the number for itself. -/
theorem chooseId_crewAnd (count : Nat) (pool : IdentityPool) :
    (crewAnd count).chooseId pool (count + 1) companionship ModuleId.dynamicStart =
      (.ok 7, pool) := by
  have shared : ∀ module ∈ (crewAnd count).modules, module.isUnique = false :=
    List.forall_mem_append.mpr
      ⟨forall_mem_crew fun _ _ => rfl, List.forall_mem_singleton.mpr rfl⟩
  have holder : (crewAnd count).uniqueHolderOfId? 7 (count + 1) = none := by
    refine List.find?_eq_none.mpr fun module here => ?_
    rw [shared module (List.mem_filter.mp here).1]
    exact Bool.false_ne_true
  have unopposed : (crewAnd count).idObjection? (count + 1) 7 ModuleId.dynamicStart = none := by
    unfold ModuleTable.idObjection?
    rw [if_neg (by decide), if_neg (by decide), holder]
    rfl
  unfold ModuleTable.chooseId
  rw [show companionship.requestedId = 7 from rfl, unopposed]
  rfl

theorem enroll_crewAnd (count : Nat) : (crewAnd count).enroll (count + 1) 7 companionship =
    { modules := crew (count + 1), loggers := [], lastHandle := count + 1 } := by
  have modules : ((crewAnd count).enroll (count + 1) 7 companionship).modules =
      crew (count + 1) := by
    rw [ModuleTable.modules_enroll, crew_succ]
    show List.map _ (crew count ++ [_]) = _
    rw [List.map_append, List.map_singleton, if_pos rfl]
    congr 1
    refine (List.map_congr_left (forall_mem_crew fun index below => ?_)).trans (List.map_id _)
    exact if_neg (by simp [Module.admitted]; omega)
  have loggers : ((crewAnd count).enroll (count + 1) 7 companionship).loggers = [] := rfl
  have last : ((crewAnd count).enroll (count + 1) 7 companionship).lastHandle = count + 1 :=
    ModuleTable.lastHandle_enroll 7 companionship
  calc (crewAnd count).enroll (count + 1) 7 companionship
      = { modules := ((crewAnd count).enroll (count + 1) 7 companionship).modules
          loggers := ((crewAnd count).enroll (count + 1) 7 companionship).loggers
          lastHandle := ((crewAnd count).enroll (count + 1) 7 companionship).lastHandle } := rfl
    _ = _ := by rw [modules, loggers, last]

/-- One more is let in. -/
theorem crowded_joins {bus : Bus (Handle -> Nat)} {count : Nat}
    (crowded : Crowded count bus.broker) :
    Crowded (count + 1) (bus.run QueueRule.bounded.each (joins (count + 1))).broker := by
  let counted := bus.broker.diagnostics.count companion.messageType
  let attached := { bus.broker with modules := crewAnd count, diagnostics := counted }
  have contains : (crewAnd count).contains (count + 1) = true :=
    ModuleTable.contains_iff.mpr ⟨_, get?_crewAnd count⟩
  have asked : Request.classify attached.schemas companion = .ok (.connect companionship) := by
    show Request.classify bus.broker.schemas companion = _
    rw [crowded.schemas]
    decide +kernel
  have chosen : attached.modules.chooseId attached.identities (count + 1) companionship
      attached.config.identity.dynamicStart = (.ok 7, attached.identities) := by
    show (crewAnd count).chooseId _ _ _ bus.broker.config.identity.dynamicStart = _
    rw [crowded.config]
    exact chooseId_crewAnd count _
  have received : (bus.run QueueRule.bounded.each (joins (count + 1))).broker =
      attached.connect (count + 1) companionship := by
    have came : (bus.broker.attach ⟨.v4 [127, 0, 0, 1], 7111, 0⟩).2 =
        { bus.broker with modules := crewAnd count } := by
      unfold Broker.attach crewAnd
      rw [crowded.modules]
    show ((bus.broker.attach _).2.receive (count + 1) companion) = _
    rw [came, Broker.receive, if_pos contains]
    exact Broker.dispatch_connect (ModuleTable.isRegistered_of_get? (get?_crewAnd count)) asked
  rcases Broker.connect_eq_of_ok chosen with ⟨outbox, connected⟩
  rw [received, connected]
  refine ⟨crowded.config, crowded.schemas, ?_, enroll_crewAnd count⟩
  show (Diagnostics.count _ _).lastDirectory = 0
  unfold Diagnostics.count
  split <;> exact crowded.last

theorem crowd_succ (count : Nat) :
    crowd (count + 1) = (crowd count).run QueueRule.bounded.each (joins (count + 1)) := by
  unfold crowd run
  rw [List.range_succ, List.flatMap_append, List.foldl_append]
  simp

/-- Any number of modules can be registered at the same time, all of them under one number. -/
theorem crowded_crowd (count : Nat) : Crowded count (crowd count).broker := by
  induction count with
  | zero => exact ⟨rfl, rfl, rfl, rfl⟩
  | succ count ih =>
      rw [crowd_succ]
      exact crowded_joins ih

theorem crowd_reachable (count : Nat) : (crowd count).Reachable QueueRule.bounded.each {} :=
  (vacant_reachable 20).run _

theorem Crowded.registered {broker : Broker} {count : Nat} (crowded : Crowded count broker) :
    broker.modules.registered = crew count := by
  rw [crowded.modules]
  exact List.filter_eq_self.mpr (forall_mem_crew fun _ _ => rfl)

theorem Crowded.isDirectoryDue {broker : Broker} {count : Nat} (crowded : Crowded count broker) :
    broker.isDirectoryDue 5000 = true := by
  unfold Broker.isDirectoryDue
  rw [crowded.last, crowded.config]
  decide

theorem directory_listed_of_three :
    let few := crowd 3
    few.broker.isDirectoryDue 5000 = true ∧
      few.broker.modules.registered.map (fun module => (module.handle, module.id)) =
        [(1, 7), (2, 7), (3, 7)] ∧
      ∃ (others : List Pending) (listing : Pending) (active : ActiveClients)
          (entries : List Pending) (infos : List ClientInfo),
        (few.step QueueRule.bounded.each (.occasion (.poll 5000))).broker.outbox =
          few.broker.outbox ++ others ++ listing :: entries ∧
        listing.Tells .standard active ∧ active.count.toInt = 3 ∧
        active.modules.toList = [7, 7, 7] ++ List.replicate 197 0 ∧
        List.Forall₂ (Pending.Tells .standard) entries infos ∧
        infos.map ClientInfo.module = [7, 7, 7] := by
  intro few
  have crowded := crowded_crowd 3
  have due := crowded.isDirectoryDue
  rcases (crowd_reachable 3).directory_listed due with ⟨_, _, others, frames, added, _, lists⟩
  rw [crowded.registered] at lists ⊢
  cases lists with
  | @listing listing active entries infos tells lists each same =>
      have modules := congrArg (List.map Prod.fst) same
      rw [List.map_map, List.map_map] at modules
      exact ⟨due, rfl, others, listing, active, entries, infos, added, tells, lists.count,
        lists.ids, each, modules⟩

/-- There are 201 modules, and the one list that is told says that there are 200. -/
theorem not_listed_of_crowd :
    let many := crowd 201
    let after := many.step QueueRule.bounded.each (.occasion (.poll 5000))
    many.Reachable QueueRule.bounded.each {} ∧ many.broker.isDirectoryDue 5000 = true ∧
      many.broker.modules.registered.length = 201 ∧
      ∃ (added : List Pending) (listing : Pending) (active : ActiveClients),
        after.broker.outbox = many.broker.outbox ++ added ∧
        written MessageType.activeClients added = [listing] ∧
        listing.Tells .standard active ∧ active.count.toInt = 200 := by
  intro many after
  have crowded : Crowded 201 many.broker := crowded_crowd 201
  have due := crowded.isDirectoryDue
  have length : (crew 201).length = 201 := by
    rw [crew, List.length_map, List.length_range]
  rcases Broker.report_of_due due with ⟨others, frames, reported, apart, lists⟩
  rw [crowded.config, crowded.registered] at lists
  refine ⟨crowd_reachable 201, due, by rw [crowded.registered, length], others ++ frames, ?_⟩
  cases lists with
  | @listing listing active entries infos tells lists each same =>
      refine ⟨listing, active, by rw [← List.append_assoc]; exact reported, ?only, tells, ?count⟩
      case only =>
        have before : written MessageType.activeClients others = [] :=
          written_eq_nil fun pending here _ => (apart pending here).1
        have list : written MessageType.activeClients [listing] = [listing] :=
          Broker.written_of_tells (.cons tells .nil)
        have behind : written MessageType.activeClients entries = [] := by
          refine written_eq_nil fun pending here _ => ?_
          rw [Broker.messageType_of_tells each pending here]
          decide
        rw [written_append, before, ← List.singleton_append, written_append, list, behind]
        rfl
      case count =>
        rw [lists.count, length]
        rfl

end Bus

end MessageBus
