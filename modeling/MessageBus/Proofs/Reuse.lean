import MessageBus.Proofs.Circle

namespace MessageBus

open Wire

/-!
# A number comes back as late as it can

The pool keeps no list of the numbers that have become free.  It keeps one number, the next to
be tried, and this alone makes a number that was given back wait for all others.  The reason is
that the tries of successive allocations are one walk around the band (`visited_allocations`):
an allocation begins where the one before has stopped, whether or not that one had found
anything, because a search without success has been once around.

A number is given at the last try of an allocation, so whoever gets it for the second time
ends a walk that has come back to where it was after the first time.  It has gone around at
least once, and every number of the band was tried on the way.  A number that is tried is given,
or passed because it is in use.

What a single allocation gives is said without the walk.  The `circle` of a pool is its band,
cut in two at the next number and put together again the other way round, and the number given
is the first of the circle that is not in use (`Within.allocate_eq`).
-/

namespace IdentityPool

variable {pool next : IdentityPool} {inUse : List ModuleId} {id other first stop : ModuleId}

/-! ## The order of the turns -/

/-- The numbers from one up to but not including another. -/
def between (first stop : ModuleId) : List ModuleId :=
  (List.range (stop.toInt - first.toInt).toNat).map fun offset : Nat =>
    Int16.ofInt (first.toInt + offset)

/-- The numbers of the band in the order in which they have their turn. -/
def circle (pool : IdentityPool) : List ModuleId :=
  between pool.cursor pool.stop ++ between pool.start pool.cursor

/-- The next numbers to be tried, so many of them, if none were taken on the way. -/
def tried (pool : IdentityPool) (tries : Nat) : List ModuleId :=
  (List.range tries).map fun earlier => (pool.moved earlier).cursor

/-- The pool whose next number is the one behind a given one, or the first of the band. -/
def behind (pool : IdentityPool) (id : ModuleId) : IdentityPool :=
  { pool with cursor := if id.toInt + 1 < pool.stop.toInt then id + 1 else pool.start }

@[simp] theorem length_tried (pool : IdentityPool) (tries : Nat) :
    (pool.tried tries).length = tries := by
  simp [tried]

theorem moved_add (pool : IdentityPool) (early late : Nat) :
    pool.moved (early + late) = (pool.moved early).moved late := by
  rw [Nat.add_comm]
  exact Function.iterate_add_apply ..

theorem tried_succ (pool : IdentityPool) (tries : Nat) :
    pool.tried (tries + 1) = pool.cursor :: pool.advance.tried tries := by
  simp only [tried, List.range_succ_eq_map, List.map_cons, List.map_map]
  rfl

theorem tried_add (pool : IdentityPool) (early late : Nat) :
    pool.tried (early + late) = pool.tried early ++ (pool.moved early).tried late := by
  simp only [tried, List.range_add, List.map_append, List.map_map, Function.comp_def, moved_add]

/-- Numbers that count up are those between the first of them and the one behind the last. -/
theorem between_eq_map {number : Nat -> ModuleId} {count : Nat}
    (counted : (stop.toInt - first.toInt).toNat = count)
    (ascending : ∀ offset < count, (number offset).toInt = first.toInt + offset) :
    between first stop = (List.range count).map number := by
  rw [between, counted]
  apply List.map_congr_left
  intro offset inside
  rw [← ascending offset (List.mem_range.mp inside), Int16.ofInt_toInt]

/-- The circle is what is tried on the way around. -/
theorem Within.circle_eq (within : pool.Within) : pool.circle = pool.tried pool.width := by
  have cursor := within.toInt_cursor
  have inside := within.place_lt
  have start := Int16.le_iff_toInt_le.mp within.start_le
  have stop := Int16.lt_iff_toInt_lt.mp within.lt_stop
  have upper : (pool.stop.toInt - pool.cursor.toInt).toNat = pool.width - pool.place := by
    unfold width place
    omega
  have lower : (pool.cursor.toInt - pool.start.toInt).toNat = pool.place := rfl
  have number : ∀ tries, (pool.moved tries).cursor.toInt =
      pool.start.toInt + ((pool.place + tries) % pool.width : Nat) := by
    intro tries
    rcases within.moved tries with ⟨stays, band, place⟩
    rw [stays.toInt_cursor, band.1, place]
  have ahead : between pool.cursor pool.stop = pool.tried (pool.width - pool.place) := by
    apply between_eq_map upper
    intro offset below
    rw [number, Nat.mod_eq_of_lt (by omega)]
    push_cast
    omega
  have back : between pool.start pool.cursor =
      (pool.moved (pool.width - pool.place)).tried pool.place := by
    apply between_eq_map lower
    intro offset below
    rw [← moved_add, number]
    have around : pool.place + (pool.width - pool.place + offset) = pool.width + offset := by
      omega
    rw [around, Nat.add_mod_left, Nat.mod_eq_of_lt (by omega)]
  calc pool.circle
      = pool.tried (pool.width - pool.place) ++
          (pool.moved (pool.width - pool.place)).tried pool.place := by rw [circle, ahead, back]
    _ = pool.tried (pool.width - pool.place + pool.place) := (tried_add ..).symm
    _ = pool.tried pool.width := by rw [Nat.sub_add_cancel (Nat.le_of_lt inside)]

theorem Within.mem_circle (within : pool.Within) :
    id ∈ pool.circle ↔ pool.start ≤ id ∧ id < pool.stop := by
  rw [within.circle_eq, tried, List.mem_map]
  constructor
  · rintro ⟨tries, _, rfl⟩
    rcases within.moved tries with ⟨stays, band, _⟩
    exact ⟨band.1 ▸ stays.start_le, band.2 ▸ stays.lt_stop⟩
  · rintro ⟨low, high⟩
    rcases within.exists_tried low high with ⟨tries, inTime, same⟩
    exact ⟨tries, List.mem_range.mpr inTime, same⟩

/-- Nobody has two turns on the way around. -/
theorem Within.nodup_circle (within : pool.Within) : pool.circle.Nodup := by
  rw [within.circle_eq, tried]
  apply List.Nodup.map_on _ List.nodup_range
  intro early hereEarly late hereLate same
  have placeOf : ∀ tries, (pool.moved tries).place = (pool.place + tries) % pool.width :=
    fun tries => (within.moved tries).2.2
  have samePlace : (pool.moved early).place = (pool.moved late).place := by
    have starts : (pool.moved early).start = (pool.moved late).start :=
      (within.moved early).2.1.1.trans (within.moved late).2.1.1.symm
    unfold place
    rw [same, starts]
  rw [placeOf, placeOf] at samePlace
  have sameTries : early ≡ late [MOD pool.width] := Nat.ModEq.add_left_cancel' pool.place samePlace
  exact sameTries.eq_of_lt_of_lt (List.mem_range.mp hereEarly) (List.mem_range.mp hereLate)

theorem toInt_behind (high : id < pool.stop) :
    (pool.behind id).cursor.toInt =
      if id.toInt + 1 = pool.stop.toInt then pool.start.toInt else id.toInt + 1 := by
  have stop := Int16.lt_iff_toInt_lt.mp high
  have succ := @toInt_cursor_succ { pool with cursor := id } high
  simp only [behind]
  split_ifs with below last last
  · omega
  · exact succ
  · rfl
  · omega

theorem SameBand.behind_eq (same : pool.SameBand next) (id : ModuleId) :
    next.behind id = pool.behind id := by
  simp only [behind, same.1, same.2]

/-- A try leaves the pool behind the number that was tried. -/
theorem Within.moved_succ (within : pool.Within) (tries : Nat) :
    pool.moved (tries + 1) = pool.behind (pool.moved tries).cursor := by
  rcases within.moved tries with ⟨_, ⟨start, stop⟩, _⟩
  calc pool.moved (tries + 1)
      = (pool.moved tries).advance := Function.iterate_succ_apply' ..
    _ = pool.behind (pool.moved tries).cursor := by
        simp only [IdentityPool.advance, behind, start, stop]

/-! ## One allocation -/

/-- A search stops at the first number that is not in use, and the pool has moved on by all that
was tried. -/
theorem search_eq (inUse : List ModuleId) (tries : Nat) (pool : IdentityPool) :
    let passed := (pool.tried tries).takeWhile inUse.contains
    let found := (pool.tried tries).find? fun id => !inUse.contains id
    let visited := passed ++ found.toList
    search inUse tries pool = (found, pool.moved visited.length) ∧
      visited = pool.tried visited.length := by
  induction tries generalizing pool with
  | zero => exact ⟨rfl, rfl⟩
  | succ tries ih =>
      rcases ih pool.advance with ⟨searched, visited⟩
      rw [search, tried_succ]
      by_cases used : inUse.contains pool.cursor = true
      · simp only [used, if_true, List.takeWhile_cons_of_pos, List.find?_cons, Bool.not_true,
          List.cons_append, List.length_cons, tried_succ]
        refine ⟨searched, ?_⟩
        rw [← visited]
      · simp only [used, if_false, List.takeWhile_cons_of_neg, List.find?_cons, Bool.false_eq_true,
          not_false_eq_true]
        exact ⟨rfl, rfl⟩

/-- An allocation gives the first number of the circle that is not in use, and the next one has
its turn behind it.  If there is none, it refuses and leaves the pool as it was. -/
theorem Within.allocate_eq (within : pool.Within) (inUse : List ModuleId) :
    pool.allocate inUse =
      match pool.circle.find? fun id => !inUse.contains id with
      | some id => (.ok id, pool.behind id)
      | none => (.error ⟨pool.start, pool.stop⟩, pool) := by
  rcases search_eq inUse pool.width pool with ⟨searched, visited⟩
  rw [← within.circle_eq] at searched visited
  rw [allocate, searched]
  cases found : pool.circle.find? fun id => !inUse.contains id with
  | none =>
      have all : pool.circle.takeWhile inUse.contains = pool.circle := by
        apply List.takeWhile_eq_self_iff.mpr
        intro id here
        simpa using List.find?_eq_none.mp found id here
      have length : pool.circle.length = pool.width := by rw [within.circle_eq, length_tried]
      simp only [all, Option.toList_none, List.append_nil, length, within.once_around]
  | some id =>
      rw [found] at visited
      simp only [Option.toList_some, List.length_append, List.length_singleton] at visited ⊢
      rw [tried_add] at visited
      have last : [id] = (pool.moved (pool.circle.takeWhile inUse.contains).length).tried 1 :=
        (List.append_inj visited (length_tried ..).symm).2
      have tried : id = (pool.moved (pool.circle.takeWhile inUse.contains).length).cursor :=
        (List.cons.inj last).1
      rw [within.moved_succ, ← tried]

/-- A pool refuses exactly if every number of its band is in use. -/
theorem Within.refuses_iff (within : pool.Within) (inUse : List ModuleId) :
    (∃ cause, (pool.allocate inUse).1 = .error cause) ↔
      ∀ id, pool.start ≤ id -> id < pool.stop -> id ∈ inUse := by
  have all : (pool.circle.find? fun id => !inUse.contains id) = none ↔
      ∀ id, pool.start ≤ id -> id < pool.stop -> id ∈ inUse := by
    simp [List.find?_eq_none, within.mem_circle]
  rw [← all, within.allocate_eq]
  cases pool.circle.find? fun id => !inUse.contains id <;> simp

/-! ## One allocation after the other -/

/-- A pool that is asked for a number, and the numbers that are in use then. -/
structure Allocation where
  pool : IdentityPool
  inUse : List ModuleId
deriving DecidableEq

namespace Allocation

/-- The number that is given, if one is. -/
def given? (allocation : Allocation) : Option ModuleId :=
  (allocation.pool.allocate allocation.inUse).1.toOption

/-- The numbers whose turn it was before, and that were in use. -/
def passed (allocation : Allocation) : List ModuleId :=
  allocation.pool.circle.takeWhile allocation.inUse.contains

/-- The numbers whose turn it was. -/
def visited (allocation : Allocation) : List ModuleId :=
  allocation.passed ++ allocation.given?.toList

/-- The pool behind the allocation. -/
def after (allocation : Allocation) : IdentityPool :=
  (allocation.pool.allocate allocation.inUse).2

variable {allocation : Allocation}

theorem mem_inUse_of_passed (passed : id ∈ allocation.passed) : id ∈ allocation.inUse := by
  simpa using List.mem_takeWhile_imp passed

/-- An allocation moves the pool on by the numbers whose turn it was. -/
theorem visited_eq (within : allocation.pool.Within) :
    allocation.visited = allocation.pool.tried allocation.visited.length ∧
      allocation.after = allocation.pool.moved allocation.visited.length := by
  rcases search_eq allocation.inUse allocation.pool.width allocation.pool with
    ⟨searched, visited⟩
  rw [← within.circle_eq] at searched visited
  have given : allocation.given? =
      allocation.pool.circle.find? fun id => !allocation.inUse.contains id := by
    rw [given?, within.allocate_eq]
    cases allocation.pool.circle.find? fun id => !allocation.inUse.contains id <;> rfl
  have after : allocation.after = (search allocation.inUse allocation.pool.width
      allocation.pool).2 := by
    rw [Allocation.after, allocate]
    cases search allocation.inUse allocation.pool.width allocation.pool with
    | mk found next => cases found <;> rfl
  rw [after, searched, Allocation.visited, given]
  exact ⟨visited, rfl⟩

/-- The pool that has given a number has the next one behind it. -/
theorem after_of_given (within : allocation.pool.Within) (given : allocation.given? = some id) :
    allocation.after = allocation.pool.behind id := by
  rw [given?, within.allocate_eq] at given
  rw [after, within.allocate_eq]
  cases found : allocation.pool.circle.find? fun id => !allocation.inUse.contains id with
  | none =>
      rw [found] at given
      cases given
  | some first =>
      rw [found] at given
      cases given
      rfl

end Allocation

/-- A pool that is asked for a number again and again, whatever is in use each time. -/
def allocations (pool : IdentityPool) : List (List ModuleId) -> List Allocation
  | [] => []
  | inUse :: rest => ⟨pool, inUse⟩ :: allocations (pool.allocate inUse).2 rest

/-- The pool behind all of it. -/
def afterAll (pool : IdentityPool) (uses : List (List ModuleId)) : IdentityPool :=
  uses.foldl (fun pool inUse => (pool.allocate inUse).2) pool

variable {uses : List (List ModuleId)}

theorem Within.afterAll (within : pool.Within) (uses : List (List ModuleId)) :
    (pool.afterAll uses).Within ∧ pool.SameBand (pool.afterAll uses) := by
  induction uses generalizing pool with
  | nil => exact ⟨within, rfl, rfl⟩
  | cons inUse rest ih =>
      rcases allocate_within within inUse with ⟨next, start, stop⟩
      rcases ih next with ⟨later, laterStart, laterStop⟩
      exact ⟨later, laterStart.trans start, laterStop.trans stop⟩

/-- What was done up to some allocation is itself a row of allocations, and so is what was done
from there on. -/
theorem exists_of_allocations_eq_append {early late : List Allocation}
    (split : pool.allocations uses = early ++ late) :
    ∃ usesEarly usesLate, early = pool.allocations usesEarly ∧
      late = (pool.afterAll usesEarly).allocations usesLate := by
  induction early generalizing pool uses with
  | nil => exact ⟨[], uses, rfl, split.symm⟩
  | cons allocation early ih =>
      cases uses with
      | nil => cases split
      | cons inUse rest =>
          rcases List.cons.inj split with ⟨rfl, later⟩
          rcases ih later with ⟨usesEarly, usesLate, rfl, rfl⟩
          exact ⟨inUse :: usesEarly, usesLate, rfl, rfl⟩

/-- An allocation in a row, with what was done before and what is done afterwards. -/
theorem exists_of_allocations_eq_cons {early late : List Allocation} {allocation : Allocation}
    (split : pool.allocations uses = early ++ allocation :: late) :
    ∃ usesEarly usesLate, early = pool.allocations usesEarly ∧
      allocation.pool = pool.afterAll usesEarly ∧
      late = allocation.after.allocations usesLate := by
  rcases exists_of_allocations_eq_append split with ⟨usesEarly, usesHere, before, here⟩
  cases usesHere with
  | nil => cases here
  | cons inUse usesLate =>
      rcases List.cons.inj here with ⟨rfl, later⟩
      exact ⟨usesEarly, usesLate, before, rfl, later⟩

/-- All allocations together try one number after the other. -/
theorem Within.visited_allocations (within : pool.Within) (uses : List (List ModuleId)) :
    let visited := (pool.allocations uses).flatMap Allocation.visited
    visited = pool.tried visited.length ∧ pool.afterAll uses = pool.moved visited.length := by
  induction uses generalizing pool with
  | nil => exact ⟨rfl, rfl⟩
  | cons inUse rest ih =>
      rcases @Allocation.visited_eq ⟨pool, inUse⟩ within with ⟨visited, after⟩
      rcases ih (allocate_within within inUse).1 with ⟨later, afterLater⟩
      dsimp only at visited after later afterLater ⊢
      rw [Allocation.after] at after
      rw [after] at later afterLater
      rw [allocations, List.flatMap_cons, after, List.length_append, tried_add, moved_add]
      constructor
      · rw [← visited, ← later]
      · rw [← afterLater, ← after]
        rfl

/-- A walk that ends where it began has been everywhere. -/
theorem Within.mem_tried_of_returned (within : pool.Within) {tries : Nat} (some : 0 < tries)
    (returned : pool.moved tries = pool) (low : pool.start ≤ id) (high : id < pool.stop) :
    id ∈ pool.tried tries := by
  have place : (pool.place + tries) % pool.width = pool.place % pool.width := by
    rw [← (within.moved tries).2.2, returned, Nat.mod_eq_of_lt within.place_lt]
  have around : pool.width ∣ tries := by
    apply Nat.modEq_zero_iff_dvd.mp
    exact Nat.ModEq.add_left_cancel' pool.place place
  have whole : pool.width ≤ tries := Nat.le_of_dvd some around
  rcases within.exists_tried low high with ⟨early, inTime, same⟩
  exact List.mem_map.mpr ⟨early, List.mem_range.mpr (Nat.lt_of_lt_of_le inTime whole), same⟩

/-- From behind a number to the next time that it is given, it was every number's turn. -/
theorem Within.mem_visited (within : pool.Within) (begun : pool.behind id = pool)
    {between later : List Allocation} {two : Allocation}
    (split : pool.allocations uses = between ++ two :: later) (again : two.given? = some id)
    (low : pool.start ≤ other) (high : other < pool.stop) :
    other ∈ between.flatMap Allocation.visited ++ two.visited := by
  rcases exists_of_allocations_eq_cons split with ⟨usesBetween, _, rfl, reached, _⟩
  rcases within.visited_allocations usesBetween with ⟨visited, moved⟩
  rcases within.afterAll usesBetween with ⟨stays, band⟩
  rw [← reached] at stays band moved
  rcases Allocation.visited_eq stays with ⟨last, after⟩
  generalize (pool.allocations usesBetween).flatMap Allocation.visited = before at visited moved ⊢
  have returned : pool.moved (before.length + two.visited.length) = pool := by
    rw [moved_add, ← moved, ← after, Allocation.after_of_given stays again, band.behind_eq, begun]
  have some : 0 < before.length + two.visited.length := by
    simp [Allocation.visited, again]
  have here := within.mem_tried_of_returned some returned low high
  rwa [tried_add, ← moved, ← visited, ← last] at here

/-- Between two allocations that give the same number, every other number was given, or was
passed because it was in use. -/
theorem Within.had_turn (within : pool.Within) {earlier between later : List Allocation}
    {one two : Allocation}
    (split : pool.allocations uses = earlier ++ one :: (between ++ two :: later))
    (given : one.given? = some id) (again : two.given? = some id)
    (low : pool.start ≤ other) (high : other < pool.stop) (different : other ≠ id) :
    (∃ allocation ∈ between, allocation.given? = some other) ∨
      ∃ allocation ∈ between ++ [two], other ∈ allocation.passed ∧ other ∈ allocation.inUse := by
  rcases exists_of_allocations_eq_cons split with ⟨usesEarlier, usesLater, _, reached, rest⟩
  rcases within.afterAll usesEarlier with ⟨stays, start, stop⟩
  rw [← reached] at stays start stop
  have after := Allocation.after_of_given stays given
  rw [after] at rest
  have begun : (one.pool.behind id).Within := after ▸ (allocate_within stays one.inUse).1
  have here : other ∈ (between ++ [two]).flatMap Allocation.visited := by
    rw [List.flatMap_append, List.flatMap_singleton]
    exact begun.mem_visited rfl rest.symm again (start ▸ low) (stop ▸ high)
  rcases List.mem_flatMap.mp here with ⟨allocation, among, visited⟩
  rcases List.mem_append.mp visited with passed | chosen
  · exact Or.inr ⟨allocation, among, passed, Allocation.mem_inUse_of_passed passed⟩
  · have chosen := Option.mem_toList.mp chosen
    rcases List.mem_append.mp among with inBetween | last
    · exact Or.inl ⟨allocation, inBetween, chosen⟩
    · cases List.mem_singleton.mp last
      exact absurd (Option.some.inj (chosen.symm.trans again)) different

/-- A pool that has been asked for any number of numbers, with whatever was in use each time, is
still inside its band, and no try leads beyond what a number can be.  It gives the first number
of its circle that is not in use and goes on behind that number, or at the first of the band; it
refuses exactly if every number of the band is in use, and is then the same as before.  And a
number is not given twice before every other one was given or was passed in use. -/
theorem allocates_in_turn {start stop : ModuleId} (nonempty : start < stop)
    (uses : List (List ModuleId)) :
    let pool := (new start stop).afterAll uses
    (pool.start = start ∧ pool.stop = stop ∧ start ≤ pool.cursor ∧ pool.cursor < stop) ∧
      (∀ tries, ((pool.moved tries).cursor + 1).toInt = (pool.moved tries).cursor.toInt + 1) ∧
      (pool.circle = between pool.cursor stop ++ between start pool.cursor ∧
        pool.circle.Nodup ∧ ∀ id, id ∈ pool.circle ↔ start ≤ id ∧ id < stop) ∧
      (∀ inUse, pool.allocate inUse =
        match pool.circle.find? fun id => !inUse.contains id with
        | some id => (.ok id, pool.behind id)
        | none => (.error ⟨start, stop⟩, pool)) ∧
      (∀ id, start ≤ id -> id < stop -> (pool.behind id).cursor.toInt =
        if id.toInt + 1 = stop.toInt then start.toInt else id.toInt + 1) ∧
      (∀ inUse, (∃ cause, (pool.allocate inUse).1 = .error cause) ↔
        ∀ id, start ≤ id -> id < stop -> id ∈ inUse) ∧
      ∀ earlier one between two later id,
        (new start stop).allocations uses = earlier ++ one :: (between ++ two :: later) ->
          one.given? = some id -> two.given? = some id ->
            ∀ other, start ≤ other -> other < stop -> other ≠ id ->
              (∃ allocation ∈ between, allocation.given? = some other) ∨
                ∃ allocation ∈ between ++ [two],
                  other ∈ allocation.passed ∧ other ∈ allocation.inUse := by
  intro pool
  have begun : (new start stop).Within := ⟨Int16.le_refl _, nonempty⟩
  rcases begun.afterAll uses with ⟨within, sameStart, sameStop⟩
  have sameStart : pool.start = start := sameStart
  have sameStop : pool.stop = stop := sameStop
  refine ⟨?inside, ?bounded, ?circle, ?allocates, ?wraps, ?refuses, ?turns⟩
  case inside => exact ⟨sameStart, sameStop, sameStart ▸ within.start_le, sameStop ▸ within.lt_stop⟩
  case bounded =>
    intro tries
    exact toInt_cursor_succ (within.moved tries).1.lt_stop
  case circle =>
    rw [← sameStart, ← sameStop]
    exact ⟨rfl, within.nodup_circle, fun id => within.mem_circle⟩
  case allocates =>
    rw [← sameStart, ← sameStop]
    exact within.allocate_eq
  case wraps =>
    intro id low high
    rw [toInt_behind (sameStop ▸ high), sameStart, sameStop]
  case refuses =>
    rw [← sameStart, ← sameStop]
    exact within.refuses_iff
  case turns =>
    intro earlier one between two later id split given again other low high different
    exact begun.had_turn split given again low high different

/-- In the last band of three numbers the first is given, is free again at once, and is given
again when the third was given and the second was found in use. -/
theorem allocates_in_turn_at_the_end :
    let whole : Allocation := ⟨new 32764 32767, []⟩
    let rest : Allocation := ⟨(new 32764 32767).behind 32764, [32765]⟩
    (32764 : ModuleId) < 32767 ∧
      (new 32764 32767).allocations [[], [32765], []] = [whole, rest, whole] ∧
      whole.given? = some 32764 ∧ rest.given? = some 32766 ∧
      ∃ allocation ∈ [rest] ++ [whole],
        (32765 : ModuleId) ∈ allocation.passed ∧ 32765 ∈ allocation.inUse := by
  intro whole rest
  have row : (new 32764 32767).allocations [[], [32765], []] = [whole, rest, whole] := by
    rfl
  have nonempty : (32764 : ModuleId) < 32767 := by decide
  have turns := (allocates_in_turn nonempty [[], [32765], []]).2.2.2.2.2.2
  have turn := turns [] whole [rest] whole [] 32764 row (by decide) (by decide) 32765
    (by decide) (by decide) (by decide)
  refine ⟨nonempty, row, by decide, by decide, turn.resolve_left ?_⟩
  rintro ⟨allocation, here, given⟩
  cases List.mem_singleton.mp here
  exact absurd given (by decide)

end IdentityPool

end MessageBus
