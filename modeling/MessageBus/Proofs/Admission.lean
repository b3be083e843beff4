import MessageBus.Proofs.Table

namespace MessageBus

open Wire

/-!
# Numbers and names that nobody else has

The pool answers with a number of its band that is not in use, and never leaves
the band while it looks for one.  `chooseId` adds the tests for a number that was
asked for and for a name.  What is left of them here is the inversion: what a
module that was let in can rely on, by whichever way it came.

The tests do not all ask about the same modules.  A number from the pool is
compared with those of all registered modules, a number that was asked for only
with those of modules that have theirs for themselves, and a name only if the
newcomer wants it for itself.  `Distinct` is what this amounts to.
-/

namespace IdentityPool

variable {pool next : IdentityPool} {inUse : List ModuleId} {id : ModuleId}

/-- The next number to be tried is one of the band. -/
structure Within (pool : IdentityPool) : Prop where
  start_le : pool.start ≤ pool.cursor
  lt_stop : pool.cursor < pool.stop

/-- Two pools of the same band. -/
def SameBand (first second : IdentityPool) : Prop :=
  second.start = first.start ∧ second.stop = first.stop

/-- Counting on from below another number does not leave the numbers. -/
theorem toInt_cursor_succ (below : pool.cursor < pool.stop) :
    (pool.cursor + 1).toInt = pool.cursor.toInt + 1 := by
  have inside := Int16.lt_iff_toInt_lt.mp below
  have least : -32768 ≤ pool.cursor.toInt := pool.cursor.le_toInt
  have most : pool.stop.toInt < 32768 := pool.stop.toInt_lt
  rw [Int16.toInt_add, Int16.toInt_one]
  apply Int.bmod_eq_of_le_mul_two
  · push_cast
    omega
  · push_cast
    omega

theorem Within.advance (within : pool.Within) : pool.advance.Within := by
  have start := Int16.le_iff_toInt_le.mp within.start_le
  have stop := Int16.lt_iff_toInt_lt.mp within.lt_stop
  unfold IdentityPool.advance
  by_cases below : pool.cursor.toInt + 1 < pool.stop.toInt
  · have succ := toInt_cursor_succ within.lt_stop
    rw [if_pos below]
    constructor
    · apply Int16.le_iff_toInt_le.mpr
      show pool.start.toInt ≤ (pool.cursor + 1).toInt
      omega
    · apply Int16.lt_iff_toInt_lt.mpr
      show (pool.cursor + 1).toInt < pool.stop.toInt
      omega
  · rw [if_neg below]
    constructor
    · exact Int16.le_refl _
    · apply Int16.lt_iff_toInt_lt.mpr
      show pool.start.toInt < pool.stop.toInt
      omega

theorem search_within (within : pool.Within) (inUse : List ModuleId) (tries : Nat) :
    (search inUse tries pool).2.Within ∧ pool.SameBand (search inUse tries pool).2 := by
  induction tries generalizing pool with
  | zero => exact ⟨within, rfl, rfl⟩
  | succ tries ih =>
      unfold search
      split
      · exact ih within.advance
      · exact ⟨within.advance, rfl, rfl⟩

theorem search_found (within : pool.Within) (tries : Nat)
    (found : (search inUse tries pool).1 = some id) :
    id ∉ inUse ∧ pool.start ≤ id ∧ id < pool.stop := by
  induction tries generalizing pool with
  | zero => cases found
  | succ tries ih =>
      unfold search at found
      split at found
      · have later := ih within.advance found
        exact later
      · next free =>
        rw [← Option.some.inj found]
        exact ⟨fun used => free (List.contains_iff_mem.mpr used), within.start_le, within.lt_stop⟩

theorem allocate_within (within : pool.Within) (inUse : List ModuleId) :
    (pool.allocate inUse).2.Within ∧ pool.SameBand (pool.allocate inUse).2 := by
  have searched := search_within within inUse pool.width
  unfold allocate
  rcases searchResult : pool.search inUse pool.width with ⟨_ | found, after⟩ <;>
    rw [searchResult] at searched <;> exact searched

theorem allocate_ok (within : pool.Within) (granted : pool.allocate inUse = (.ok id, next)) :
    id ∉ inUse ∧ pool.start ≤ id ∧ id < pool.stop := by
  unfold allocate at granted
  rcases searchResult : pool.search inUse pool.width with ⟨_ | found, after⟩
  · rw [searchResult] at granted
    cases granted
  · rw [searchResult] at granted
    cases granted
    exact search_found within pool.width (congrArg Prod.fst searchResult)

end IdentityPool

namespace ModuleTable

variable {table after : ModuleTable} {handle other : Handle} {module rival : Module}
  {dynamicStart maxModules id : ModuleId} {pool next : IdentityPool} {request : ConnectRequest}

/-! ## What a module that was let in can rely on -/

theorem uniqueHolderOfId?_eq_none (nobody : table.uniqueHolderOfId? id handle = none)
    (found : table.get? other = some rival) (registered : rival.isRegistered = true)
    (different : other ≠ handle) (unique : rival.isUnique = true) : rival.id ≠ id := by
  intro same
  have among := mem_registered.mpr ⟨mem_of_get? found, registered⟩
  have absent := List.find?_eq_none.mp nobody rival among
  rw [unique, same, handle_of_get? found] at absent
  simp [different] at absent

theorem uniqueHolderOfName?_eq_none {name : String}
    (nobody : table.uniqueHolderOfName? name handle = none)
    (found : table.get? other = some rival) (registered : rival.isRegistered = true)
    (different : other ≠ handle) (unique : rival.isUnique = true) : rival.name ≠ some name := by
  intro same
  have among := mem_registered.mpr ⟨mem_of_get? found, registered⟩
  have absent := List.find?_eq_none.mp nobody rival among
  rw [unique, same, handle_of_get? found] at absent
  simp [different] at absent

theorem not_mem_idsInUse (free : id ∉ table.idsInUse) (found : table.get? other = some rival)
    (registered : rival.isRegistered = true) : rival.id ≠ id := by
  intro same
  exact free (same ▸ List.mem_map_of_mem (mem_registered.mpr ⟨mem_of_get? found, registered⟩))

/-- A number that was asked for is below the band and nobody has it for himself. -/
theorem idObjection?_eq_none (unopposed : table.idObjection? handle id dynamicStart = none)
    (asked : id ≠ 0) :
    1 ≤ id ∧ id < dynamicStart ∧ table.uniqueHolderOfId? id handle = none := by
  unfold idObjection? at unopposed
  rw [if_neg asked] at unopposed
  split at unopposed
  · cases unopposed
  · next inside =>
    rcases not_not.mp inside with ⟨low, high⟩
    exact ⟨low, high, Option.map_eq_none_iff.mp unopposed⟩

theorem nameObjection?_eq_none {name : String} (unopposed : table.nameObjection? handle request = none)
    (unique : request.unique = true) (named : request.name = some name) :
    table.uniqueHolderOfName? name handle = none := by
  unfold nameObjection? at unopposed
  rw [unique, named] at unopposed
  cases holder : table.uniqueHolderOfName? name handle with
  | none => rfl
  | some rival => simp [holder] at unopposed

/-- The two ways to a number, and the test of the name that both go through. -/
theorem chooseId_ok (granted : table.chooseId pool handle request dynamicStart = (.ok id, next)) :
    ((1 ≤ id ∧ id < dynamicStart ∧ table.uniqueHolderOfId? id handle = none ∧ next = pool) ∨
      pool.allocate table.idsInUse = (.ok id, next)) ∧
    ∀ name, request.unique = true -> request.name = some name ->
      table.uniqueHolderOfName? name handle = none := by
  unfold chooseId at granted
  cases idObjection : table.idObjection? handle request.requestedId dynamicStart with
  | some rejection =>
      rw [idObjection] at granted
      cases granted
  | none =>
      cases nameObjection : table.nameObjection? handle request with
      | some rejection =>
          rw [idObjection, nameObjection] at granted
          cases granted
      | none =>
          simp only [idObjection, nameObjection] at granted
          refine ⟨?_, fun name unique named =>
            nameObjection?_eq_none nameObjection unique named⟩
          by_cases asked : request.requestedId ≠ 0
          · rw [if_pos asked] at granted
            cases granted
            have free := idObjection?_eq_none idObjection asked
            exact Or.inl ⟨free.1, free.2.1, free.2.2, rfl⟩
          · rw [if_neg asked] at granted
            rcases allocation : pool.allocate table.idsInUse with ⟨_ | allocated, after⟩
            · rw [allocation] at granted
              cases granted
            · rw [allocation] at granted
              cases granted
              exact Or.inr rfl

theorem chooseId_within (within : pool.Within)
    (chosen : table.chooseId pool handle request dynamicStart = (answer, next)) :
    next.Within ∧ pool.SameBand next := by
  have after : next = (table.chooseId pool handle request dynamicStart).2 := by rw [chosen]
  rw [after]
  unfold chooseId
  split
  · exact ⟨within, rfl, rfl⟩
  · split
    · exact ⟨within, rfl, rfl⟩
    · split
      · exact ⟨within, rfl, rfl⟩
      · exact IdentityPool.allocate_within within table.idsInUse

end ModuleTable

/-- Two modules are in each other's way: they have the same number, which is from
the band or which both want for themselves, or the same name, which both want for
themselves. -/
def Module.Clash (dynamicStart : ModuleId) (first second : Module) : Prop :=
  (first.id = second.id ∧
    (dynamicStart ≤ first.id ∨ (first.isUnique = true ∧ second.isUnique = true))) ∨
  (first.isUnique = true ∧ second.isUnique = true ∧
    ∃ name, first.name = some name ∧ second.name = some name)

theorem Module.Clash.symm {first second : Module} (clash : first.Clash dynamicStart second) :
    second.Clash dynamicStart first := by
  rcases clash with ⟨same, reason⟩ | ⟨one, two, name, first, second⟩
  · exact Or.inl ⟨same.symm, reason.imp (fun low => same ▸ low) And.symm⟩
  · exact Or.inr ⟨two, one, name, second, first⟩

namespace ModuleTable

variable {table after : ModuleTable} {handle other : Handle} {module rival : Module}
  {dynamicStart maxModules id : ModuleId} {pool next : IdentityPool} {request : ConnectRequest}

/-- Registered modules have numbers that can be addressed, and none is in the way
of another. -/
structure Distinct (table : ModuleTable) (dynamicStart maxModules : ModuleId) : Prop where
  ranged : ∀ handle module, table.get? handle = some module -> module.isRegistered = true ->
    1 ≤ module.id ∧ module.id < maxModules
  apart : ∀ handle module other rival, other ≠ handle ->
    table.get? handle = some module -> module.isRegistered = true ->
    table.get? other = some rival -> rival.isRegistered = true ->
    ¬ module.Clash dynamicStart rival

namespace Distinct

theorem empty : Distinct {} dynamicStart maxModules where
  ranged := by simp [get?]
  apart := by simp [get?]

/-- It is enough to look at the one record that is new or has changed. -/
theorem of_elsewhere (distinct : table.Distinct dynamicStart maxModules)
    (elsewhere : ∀ other, other ≠ handle -> after.get? other = table.get? other)
    (ranged : ∀ module, after.get? handle = some module -> module.isRegistered = true ->
      1 ≤ module.id ∧ module.id < maxModules)
    (apart : ∀ module other rival, after.get? handle = some module ->
      module.isRegistered = true -> other ≠ handle -> table.get? other = some rival ->
      rival.isRegistered = true -> ¬ module.Clash dynamicStart rival) :
    after.Distinct dynamicStart maxModules where
  ranged other module found registered := by
    by_cases here : other = handle
    · subst here
      exact ranged module found registered
    · rw [elsewhere other here] at found
      exact distinct.ranged other module found registered
  apart one module two rival different found registered foundRival registeredRival := by
    by_cases here : one = handle
    · subst here
      rw [elsewhere two different] at foundRival
      exact apart module two rival found registered different foundRival registeredRival
    · rw [elsewhere one here] at found
      by_cases there : two = handle
      · subst there
        intro clash
        exact apart rival one module foundRival registeredRival here found registered clash.symm
      · rw [elsewhere two there] at foundRival
        exact distinct.apart one module two rival different found registered foundRival
          registeredRival

theorem insert (distinct : table.Distinct dynamicStart maxModules) (consistent : table.Consistent)
    (peer : SocketAddress) : (table.insert peer).2.Distinct dynamicStart maxModules := by
  have blank : ∀ module, (table.insert peer).2.get? (table.lastHandle + 1) = some module ->
      module.isRegistered = false := by
    intro module found
    rw [get?_insert_self peer (consistent.get?_of_lt (Nat.lt_succ_self _))] at found
    rw [← Option.some.inj found]
  apply distinct.of_elsewhere fun other different => get?_insert_of_ne peer different
  · intro module found registered
    rw [blank module found] at registered
    cases registered
  · intro module other rival found registered
    rw [blank module found] at registered
    cases registered

theorem remove (distinct : table.Distinct dynamicStart maxModules) (handle : Handle) :
    (table.remove handle).Distinct dynamicStart maxModules := by
  apply distinct.of_elsewhere fun other different => get?_remove_of_ne different
  · intro module found
    rw [get?_remove_self] at found
    cases found
  · intro module other rival found
    rw [get?_remove_self] at found
    cases found

/-- A registered module changes in what it may change.  If that gives it a name,
then no other module has the name for itself. -/
theorem modify (distinct : table.Distinct dynamicStart maxModules) (change : Module -> Module)
    (found : table.get? handle = some module) (registered : module.isRegistered = true)
    (keeps : ∀ module, Module.Keeps module (change module))
    (named : (change module).name = module.name ∨ (module.isUnique = true ->
      ∃ name, (change module).name = some name ∧
        table.uniqueHolderOfName? name handle = none)) :
    (table.modify handle change).Distinct dynamicStart maxModules := by
  have here : (table.modify handle change).get? handle = some (change module) := by
    rw [get?_modify_self change fun module => (keeps module).handle, found, Option.map_some]
  apply distinct.of_elsewhere fun other different =>
    get?_modify_of_ne change (fun module => (keeps module).handle) different
  · intro changed now _
    rw [here] at now
    rw [← Option.some.inj now, (keeps module).id]
    exact distinct.ranged handle module found registered
  · intro changed other rival now _ different foundRival registeredRival clash
    have before := distinct.apart handle module other rival different found registered foundRival
      registeredRival
    rw [here] at now
    rw [← Option.some.inj now] at clash
    unfold Module.Clash at clash
    rw [(keeps module).id, (keeps module).isUnique] at clash
    rcases clash with sameId | ⟨unique, uniqueRival, name, newName, rivalName⟩
    · exact before (Or.inl sameId)
    · rcases named with unchanged | free
      · exact before (Or.inr ⟨unique, uniqueRival, name, unchanged ▸ newName, rivalName⟩)
      · rcases free unique with ⟨chosen, isChosen, nobody⟩
        have sameName : chosen = name := Option.some.inj (isChosen.symm.trans newName)
        exact uniqueHolderOfName?_eq_none nobody foundRival registeredRival different uniqueRival
          (sameName ▸ rivalName)

theorem enroll (distinct : table.Distinct dynamicStart maxModules)
    (found : table.get? handle = some module) (within : pool.Within)
    (band : pool.start = dynamicStart ∧ pool.stop = maxModules)
    (positive : 1 ≤ dynamicStart)
    (granted : table.chooseId pool handle request dynamicStart = (.ok id, next)) :
    (table.enroll handle id request).Distinct dynamicStart maxModules := by
  have here : (table.enroll handle id request).get? handle =
      some (module.admitted id request) := by
    rw [get?_enroll_self, found, Option.map_some]
  have bandFilled : dynamicStart < maxModules := by
    rw [← band.1, ← band.2]
    exact Int16.lt_of_le_of_lt within.start_le within.lt_stop
  rcases chooseId_ok granted with ⟨way, nameFree⟩
  apply distinct.of_elsewhere fun other different => get?_enroll_of_ne id request different
  · intro changed now _
    rw [here] at now
    rw [← Option.some.inj now]
    show 1 ≤ id ∧ id < maxModules
    rcases way with ⟨low, high, _, _⟩ | allocation
    · exact ⟨low, Int16.lt_trans high bandFilled⟩
    · rcases IdentityPool.allocate_ok within allocation with ⟨_, low, high⟩
      rw [band.1] at low
      rw [band.2] at high
      exact ⟨Int16.le_trans positive low, high⟩
  · intro changed other rival now _ different foundRival registeredRival clash
    rw [here] at now
    rw [← Option.some.inj now] at clash
    rcases clash with ⟨sameId, reason⟩ | ⟨unique, uniqueRival, name, newName, rivalName⟩
    · have same : rival.id = id := sameId.symm
      rcases way with ⟨_, high, free, _⟩ | allocation
      · rcases reason with low | ⟨_, uniqueRival⟩
        · exact Int16.lt_irrefl (Int16.lt_of_le_of_lt low high)
        · exact uniqueHolderOfId?_eq_none free foundRival registeredRival different uniqueRival same
      · have fresh := (IdentityPool.allocate_ok within allocation).1
        exact not_mem_idsInUse fresh foundRival registeredRival same
    · exact uniqueHolderOfName?_eq_none (nameFree name unique newName) foundRival registeredRival
        different uniqueRival rivalName

end Distinct

end ModuleTable

end MessageBus
