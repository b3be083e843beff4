import Mathlib
import MessageBus.Module.Admission

namespace MessageBus

open Wire

/-!
# What the table finds

The table is a list, but everything else looks at it through `get?`.  So each
operation on it is described here by what can be found afterwards, once under
the handle that it is about and once under every other.

`Consistent` is what holds of the table however it came about.  The handles
ascend, so a handle finds at most one record; the list of loggers and the
records agree about who is a logger; and a connection that has not registered
is still as blank as on its first day.  The last part is what makes a number of
zero mean that nobody was let in.
-/

namespace Module

/-- What no later request changes about a module: everything but its name, its
process and its losses. -/
structure Keeps (before after : Module) : Prop where
  handle : after.handle = before.handle
  peer : after.peer = before.peer
  id : after.id = before.id
  isLogger : after.isLogger = before.isLogger
  isDaemon : after.isDaemon = before.isDaemon
  isUnique : after.isUnique = before.isUnique
  isRegistered : after.isRegistered = before.isRegistered

theorem Keeps.refl (module : Module) : Keeps module module :=
  ⟨rfl, rfl, rfl, rfl, rfl, rfl, rfl⟩

theorem Keeps.trans {first second third : Module} (early : Keeps first second)
    (late : Keeps second third) : Keeps first third where
  handle := late.handle.trans early.handle
  peer := late.peer.trans early.peer
  id := late.id.trans early.id
  isLogger := late.isLogger.trans early.isLogger
  isDaemon := late.isDaemon.trans early.isDaemon
  isUnique := late.isUnique.trans early.isUnique
  isRegistered := late.isRegistered.trans early.isRegistered

end Module

namespace ModuleTable

variable {table : ModuleTable} {handle other : Handle} {module : Module}

theorem handle_of_get? (found : table.get? handle = some module) : module.handle = handle :=
  eq_of_beq (List.find?_some found :)

theorem mem_of_get? (found : table.get? handle = some module) : module ∈ table.modules :=
  List.mem_of_find?_eq_some found

theorem contains_iff : table.contains handle = true ↔ ∃ module, table.get? handle = some module :=
  Option.isSome_iff_exists

theorem get?_eq_none_iff : table.get? handle = none ↔ table.contains handle = false := by
  unfold contains
  cases table.get? handle <;> simp

theorem isRegistered_iff : table.isRegistered handle = true ↔
    ∃ module, table.get? handle = some module ∧ module.isRegistered = true := by
  unfold isRegistered
  cases table.get? handle <;> simp

theorem isRegistered_of_get? (found : table.get? handle = some module) :
    table.isRegistered handle = module.isRegistered := by
  unfold isRegistered
  rw [found]
  rfl

theorem isRegistered_of_gone (gone : table.get? handle = none) :
    table.isRegistered handle = false := by
  unfold isRegistered
  rw [gone]
  rfl

theorem isRegistered_congr {later : ModuleTable} (same : later.get? handle = table.get? handle) :
    later.isRegistered handle = table.isRegistered handle := by
  unfold isRegistered
  rw [same]

theorem mem_registered : module ∈ table.registered ↔
    module ∈ table.modules ∧ module.isRegistered = true :=
  List.mem_filter

/-! ## One record changed -/

theorem get?_modify (change : Module -> Module) (keeps : ∀ module, (change module).handle = module.handle) :
    (table.modify handle change).get? other =
      (table.get? other).map fun module =>
        if module.handle = handle then change module else module := by
  have same : ((fun module : Module => module.handle == other) ∘ fun module =>
      if module.handle = handle then change module else module) =
      fun module => module.handle == other := by
    funext module
    by_cases here : module.handle = handle
    · simp only [Function.comp, if_pos here, keeps]
    · simp only [Function.comp, if_neg here]
  unfold get? modify
  rw [List.find?_map, same]

theorem get?_modify_self (change : Module -> Module)
    (keeps : ∀ module, (change module).handle = module.handle) :
    (table.modify handle change).get? handle = (table.get? handle).map change := by
  rw [get?_modify change keeps]
  cases found : table.get? handle with
  | none => rfl
  | some module => simp only [Option.map_some, if_pos (handle_of_get? found)]

theorem get?_modify_of_ne (change : Module -> Module)
    (keeps : ∀ module, (change module).handle = module.handle) (different : other ≠ handle) :
    (table.modify handle change).get? other = table.get? other := by
  rw [get?_modify change keeps]
  cases found : table.get? other with
  | none => rfl
  | some module =>
      have elsewhere : module.handle ≠ handle := handle_of_get? found ▸ different
      simp only [Option.map_some, if_neg elsewhere]

theorem map_handle_modify (change : Module -> Module)
    (keeps : ∀ module, (change module).handle = module.handle) :
    (table.modify handle change).modules.map Module.handle = table.modules.map Module.handle := by
  unfold modify
  rw [List.map_map]
  apply List.map_congr_left
  intro module _
  by_cases here : module.handle = handle
  · simp only [Function.comp, if_pos here, keeps]
  · simp only [Function.comp, if_neg here]

/-! ## Records that come and go -/

theorem get?_remove_self : (table.remove handle).get? handle = none := by
  unfold get? remove
  rw [List.find?_eq_none]
  intro module kept
  have different := (List.mem_filter.mp kept).2
  simpa using different

theorem get?_remove_of_ne (different : other ≠ handle) :
    (table.remove handle).get? other = table.get? other := by
  unfold get? remove
  rw [List.find?_filter]
  congr 1
  funext module
  by_cases here : module.handle = other
  · simp [here, different]
  · simp [here]

/-- Only the record goes of somebody who is no logger. -/
theorem remove_of_not_logger (ordinary : handle ∉ table.loggers) :
    table.remove handle =
      { table with modules := table.modules.filter (·.handle ≠ handle) } := by
  have unlisted : table.loggers.filter (· ≠ handle) = table.loggers :=
    List.filter_eq_self.mpr fun other here =>
      decide_eq_true fun same => ordinary (same ▸ here)
  unfold remove
  rw [unlisted]

theorem get?_insert_of_ne (peer : SocketAddress) (different : other ≠ table.lastHandle + 1) :
    (table.insert peer).2.get? other = table.get? other := by
  unfold get? insert
  rw [List.find?_append]
  have elsewhere : (table.lastHandle + 1 == other) = false := by
    simpa using fun same : table.lastHandle + 1 = other => different same.symm
  simp [elsewhere]

theorem get?_insert_self (peer : SocketAddress) (fresh : table.get? (table.lastHandle + 1) = none) :
    (table.insert peer).2.get? (table.lastHandle + 1) =
      some { handle := table.lastHandle + 1, peer } := by
  unfold get? at fresh
  unfold get? insert
  rw [List.find?_append, fresh]
  simp

/-! ## Letting somebody in -/

end ModuleTable

/-- The record of a module that has been let in. -/
def Module.admitted (id : ModuleId) (request : ConnectRequest) (module : Module) : Module :=
  { module with
    id
    name := request.name
    pid := request.pid
    isLogger := request.logger
    isDaemon := request.daemon
    isUnique := request.unique
    isRegistered := true }

namespace ModuleTable

/-- The table after a connection was let in under a number. -/
def enroll (table : ModuleTable) (handle : Handle) (id : ModuleId) (request : ConnectRequest) :
    ModuleTable :=
  (table.register handle id request.logger).modify handle fun module =>
    { module with
      name := request.name
      pid := request.pid
      isDaemon := request.daemon
      isUnique := request.unique }

variable {table : ModuleTable} {handle other : Handle} {module : Module}

theorem modules_enroll (id : ModuleId) (request : ConnectRequest) :
    (table.enroll handle id request).modules =
      (table.modify handle (Module.admitted id request)).modules := by
  have twice : ((table.modify handle fun module =>
      { module with id, isLogger := request.logger, isRegistered := true }).modify handle
        fun module => { module with
          name := request.name
          pid := request.pid
          isDaemon := request.daemon
          isUnique := request.unique }).modules =
      (table.modify handle (Module.admitted id request)).modules := by
    simp only [modify, List.map_map]
    apply List.map_congr_left
    intro module _
    by_cases here : module.handle = handle
    · simp only [Function.comp, if_pos here, Module.admitted]
    · simp only [Function.comp, if_neg here]
  rw [← twice, enroll, register]
  by_cases logger : (request.logger && table.contains handle) = true
  · rw [if_pos logger]
    rfl
  · rw [if_neg logger]

theorem get?_enroll (id : ModuleId) (request : ConnectRequest) :
    (table.enroll handle id request).get? other =
      (table.modify handle (Module.admitted id request)).get? other := by
  unfold get?
  rw [modules_enroll]

theorem get?_enroll_self (id : ModuleId) (request : ConnectRequest) :
    (table.enroll handle id request).get? handle =
      (table.get? handle).map (Module.admitted id request) := by
  rw [get?_enroll]
  exact get?_modify_self _ fun _ => rfl

theorem get?_enroll_of_ne (id : ModuleId) (request : ConnectRequest) (different : other ≠ handle) :
    (table.enroll handle id request).get? other = table.get? other := by
  rw [get?_enroll]
  exact get?_modify_of_ne _ (fun _ => rfl) different

theorem lastHandle_enroll (id : ModuleId) (request : ConnectRequest) :
    (table.enroll handle id request).lastHandle = table.lastHandle := by
  unfold enroll register
  split <;> rfl

theorem mem_loggers_enroll (id : ModuleId) (request : ConnectRequest)
    (found : table.get? handle = some module) :
    other ∈ (table.enroll handle id request).loggers ↔
      (other = handle ∧ request.logger = true) ∨ other ∈ table.loggers := by
  have present : table.contains handle = true := contains_iff.mpr ⟨module, found⟩
  unfold enroll register
  cases request.logger with
  | true =>
      simp only [present, Bool.and_self, if_true, modify, Ascending.mem_insert, and_true]
  | false =>
      simp only [Bool.false_and, Bool.false_eq_true, if_false, modify, and_false, false_or]

/-! ## Who stays registered -/

theorem isRegistered_modify (change : Module -> Module)
    (keeps : ∀ module, Module.Keeps module (change module)) :
    (table.modify handle change).isRegistered other = table.isRegistered other := by
  unfold isRegistered
  rw [get?_modify change fun module => (keeps module).handle]
  cases table.get? other with
  | none => rfl
  | some module =>
      by_cases here : module.handle = handle
      · simp only [Option.map_some, if_pos here, (keeps module).isRegistered]
      · simp only [Option.map_some, if_neg here]

theorem isRegistered_enroll (id : ModuleId) (request : ConnectRequest)
    (registered : table.isRegistered other = true) :
    (table.enroll handle id request).isRegistered other = true := by
  rcases isRegistered_iff.mp registered with ⟨module, found, isRegistered⟩
  apply isRegistered_iff.mpr
  by_cases same : other = handle
  · subst same
    refine ⟨module.admitted id request, ?_, rfl⟩
    rw [get?_enroll_self, found, Option.map_some]
  · exact ⟨module, (get?_enroll_of_ne id request same).trans found, isRegistered⟩

/-! ## What holds of every table -/

/-- The table agrees with itself. -/
structure Consistent (table : ModuleTable) : Prop where
  ascending : (table.modules.map Module.handle).Pairwise (· < ·)
  bounded : ∀ module ∈ table.modules, module.handle ≤ table.lastHandle
  loggers : ∀ handle, handle ∈ table.loggers ↔
    ∃ module, table.get? handle = some module ∧
      module.isRegistered = true ∧ module.isLogger = true
  blank : ∀ handle module, table.get? handle = some module -> module.isRegistered = false ->
    module = { handle := module.handle, peer := module.peer }
  lossless : ∀ handle module, table.get? handle = some module -> module.isLogger = true ->
    module.dropCount = 0

namespace Consistent

theorem empty : Consistent {} where
  ascending := List.Pairwise.nil
  bounded := by simp
  loggers := by simp [get?]
  blank := by simp [get?]
  lossless := by simp [get?]

theorem eq_of_handle_eq (consistent : table.Consistent) {first second : Module}
    (one : first ∈ table.modules) (two : second ∈ table.modules)
    (same : first.handle = second.handle) : first = second :=
  List.inj_on_of_nodup_map consistent.ascending.nodup one two same

theorem get?_of_mem (consistent : table.Consistent) (here : module ∈ table.modules) :
    table.get? module.handle = some module := by
  cases found : table.get? module.handle with
  | none =>
      have absent := List.find?_eq_none.mp found module here
      simp at absent
  | some first =>
      have same := consistent.eq_of_handle_eq (mem_of_get? found) here (handle_of_get? found)
      rw [same]

theorem le_lastHandle (consistent : table.Consistent) (found : table.get? handle = some module) :
    handle ≤ table.lastHandle := by
  have bounded := consistent.bounded module (mem_of_get? found)
  rwa [handle_of_get? found] at bounded

/-- Nobody has a handle that was not given out yet. -/
theorem get?_of_lt (consistent : table.Consistent) (unused : table.lastHandle < handle) :
    table.get? handle = none := by
  cases found : table.get? handle with
  | none => rfl
  | some module => exact absurd (consistent.le_lastHandle found) (Nat.not_le_of_lt unused)

theorem mem_registered_iff (consistent : table.Consistent) : module ∈ table.registered ↔
    table.get? module.handle = some module ∧ module.isRegistered = true := by
  rw [mem_registered]
  constructor
  · rintro ⟨here, registered⟩
    exact ⟨consistent.get?_of_mem here, registered⟩
  · rintro ⟨found, registered⟩
    exact ⟨mem_of_get? found, registered⟩

theorem insert (consistent : table.Consistent) (peer : SocketAddress) :
    (table.insert peer).2.Consistent := by
  have fresh := consistent.get?_of_lt (Nat.lt_succ_self table.lastHandle)
  have looked : ∀ handle module, (table.insert peer).2.get? handle = some module ->
      table.get? handle = some module ∨ module = { handle := table.lastHandle + 1, peer } := by
    intro handle module found
    by_cases new : handle = table.lastHandle + 1
    · subst new
      rw [get?_insert_self peer fresh] at found
      exact Or.inr (Option.some.inj found).symm
    · rw [get?_insert_of_ne peer new] at found
      exact Or.inl found
  constructor
  · show ((table.modules ++ [_]).map Module.handle).Pairwise (· < ·)
    rw [List.map_append, List.pairwise_append]
    refine ⟨consistent.ascending, List.pairwise_singleton _ _, ?_⟩
    intro old among new last
    rcases List.mem_map.mp among with ⟨module, here, rfl⟩
    rw [List.mem_singleton.mp last]
    exact Nat.lt_succ_of_le (consistent.bounded module here)
  · intro module here
    rcases List.mem_append.mp here with old | new
    · exact Nat.le_succ_of_le (consistent.bounded module old)
    · rw [List.mem_singleton.mp new]
      exact Nat.le_refl _
  · intro handle
    show handle ∈ table.loggers ↔ _
    rw [consistent.loggers]
    constructor
    · rintro ⟨module, found, facts⟩
      have old : handle ≠ table.lastHandle + 1 :=
        Nat.ne_of_lt (Nat.lt_succ_of_le (consistent.le_lastHandle found))
      exact ⟨module, (get?_insert_of_ne peer old).trans found, facts⟩
    · rintro ⟨module, found, registered, logger⟩
      rcases looked handle module found with old | new
      · exact ⟨module, old, registered, logger⟩
      · simp [new] at registered
  · intro handle module found unregistered
    rcases looked handle module found with old | new
    · exact consistent.blank handle module old unregistered
    · rw [new]
  · intro handle module found logger
    rcases looked handle module found with old | new
    · exact consistent.lossless handle module old logger
    · rw [new]

theorem remove (consistent : table.Consistent) (handle : Handle) :
    (table.remove handle).Consistent := by
  have looked : ∀ other module, (table.remove handle).get? other = some module ->
      other ≠ handle ∧ table.get? other = some module := by
    intro other module found
    by_cases same : other = handle
    · subst same
      rw [get?_remove_self] at found
      cases found
    · rw [get?_remove_of_ne same] at found
      exact ⟨same, found⟩
  constructor
  · exact List.Pairwise.sublist (List.filter_sublist.map _) consistent.ascending
  · intro module here
    exact consistent.bounded module (List.mem_filter.mp here).1
  · intro other
    show other ∈ table.loggers.filter (· ≠ handle) ↔ _
    rw [List.mem_filter, decide_eq_true_eq, consistent.loggers]
    constructor
    · rintro ⟨⟨module, found, facts⟩, different⟩
      exact ⟨module, (get?_remove_of_ne different).trans found, facts⟩
    · rintro ⟨module, found, facts⟩
      have before := looked other module found
      exact ⟨⟨module, before.2, facts⟩, before.1⟩
  · intro other module found
    exact consistent.blank other module (looked other module found).2
  · intro other module found
    exact consistent.lossless other module (looked other module found).2

/-- A registered module changes in what it may change, without losing a frame
if it is a logger. -/
theorem modify (consistent : table.Consistent) (change : Module -> Module)
    (found : table.get? handle = some module) (registered : module.isRegistered = true)
    (keeps : ∀ module, Module.Keeps module (change module))
    (lossless : module.isLogger = true -> (change module).dropCount = module.dropCount) :
    (table.modify handle change).Consistent := by
  have keepsHandle : ∀ module, (change module).handle = module.handle :=
    fun module => (keeps module).handle
  have here : (table.modify handle change).get? handle = some (change module) := by
    rw [get?_modify_self change keepsHandle, found, Option.map_some]
  constructor
  · rw [map_handle_modify change keepsHandle]
    exact consistent.ascending
  · intro changed among
    rcases List.mem_map.mp among with ⟨old, before, rfl⟩
    have bound := consistent.bounded old before
    by_cases same : old.handle = handle
    · rw [if_pos same, keepsHandle]
      exact bound
    · rw [if_neg same]
      exact bound
  · intro other
    show other ∈ table.loggers ↔ _
    rw [consistent.loggers]
    by_cases same : other = handle
    · subst same
      simp [here, found, (keeps module).isRegistered, (keeps module).isLogger]
    · rw [get?_modify_of_ne change keepsHandle same]
  · intro other changed now unregistered
    by_cases same : other = handle
    · subst same
      rw [here] at now
      rw [← Option.some.inj now, (keeps module).isRegistered, registered] at unregistered
      cases unregistered
    · rw [get?_modify_of_ne change keepsHandle same] at now
      exact consistent.blank other changed now unregistered
  · intro other changed now logger
    by_cases same : other = handle
    · subst same
      rw [here] at now
      rw [← Option.some.inj now] at logger ⊢
      rw [(keeps module).isLogger] at logger
      exact (lossless logger).trans (consistent.lossless _ module found logger)
    · rw [get?_modify_of_ne change keepsHandle same] at now
      exact consistent.lossless other changed now logger

theorem enroll (consistent : table.Consistent) (id : ModuleId) (request : ConnectRequest)
    (found : table.get? handle = some module) (unregistered : module.isRegistered = false) :
    (table.enroll handle id request).Consistent := by
  have here : (table.enroll handle id request).get? handle =
      some (module.admitted id request) := by
    rw [get?_enroll_self, found, Option.map_some]
  have blank := consistent.blank handle module found unregistered
  constructor
  · rw [modules_enroll, map_handle_modify (Module.admitted id request) fun _ => rfl]
    exact consistent.ascending
  · intro changed among
    rw [modules_enroll] at among
    rw [lastHandle_enroll]
    rcases List.mem_map.mp among with ⟨old, before, rfl⟩
    have bound := consistent.bounded old before
    by_cases same : old.handle = handle
    · rw [if_pos same]
      exact bound
    · rw [if_neg same]
      exact bound
  · intro other
    rw [mem_loggers_enroll id request found, consistent.loggers]
    by_cases same : other = handle
    · subst same
      simp [here, found, unregistered, Module.admitted]
    · rw [get?_enroll_of_ne id request same]
      simp [same]
  · intro other changed now unregisteredNow
    by_cases same : other = handle
    · subst same
      rw [here] at now
      rw [← Option.some.inj now] at unregisteredNow
      cases unregisteredNow
    · rw [get?_enroll_of_ne id request same] at now
      exact consistent.blank other changed now unregisteredNow
  · intro other changed now logger
    by_cases same : other = handle
    · subst same
      rw [here] at now
      rw [← Option.some.inj now, blank]
      rfl
    · rw [get?_enroll_of_ne id request same] at now
      exact consistent.lossless other changed now logger

end Consistent

theorem isRegistered_insert (consistent : table.Consistent) (peer : SocketAddress)
    (registered : table.isRegistered handle = true) :
    (table.insert peer).2.isRegistered handle = true := by
  rcases isRegistered_iff.mp registered with ⟨module, found, isRegistered⟩
  have given := Nat.lt_succ_of_le (consistent.le_lastHandle found)
  rw [← get?_insert_of_ne peer (Nat.ne_of_lt given)] at found
  exact isRegistered_iff.mpr ⟨module, found, isRegistered⟩

end ModuleTable

end MessageBus
