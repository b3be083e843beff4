import MessageBus.Proofs.Admission

namespace MessageBus

open Wire

/-!
# Once around the band

The pool tries one number after the other and gives up after as many tries as its band has
numbers.  Whether that is enough, and what a search without success leaves behind, are two
questions with one answer.  The `place` of a pool is how far its next number is from the first
of the band, and a try moves it on by one, around the band (`Within.place_advance`).  So as many
tries as the band is wide try every number of it (`Within.exists_tried`), and lead back to where
they began (`Within.once_around`).

A search that finds nothing has therefore seen that every number is in use, and the pool is the
same as before.
-/

namespace IdentityPool

variable {pool next : IdentityPool} {inUse : List ModuleId} {id : ModuleId} {cause : Exhausted}

/-- How far the next number to be tried is from the first of the band. -/
def place (pool : IdentityPool) : Nat :=
  (pool.cursor.toInt - pool.start.toInt).toNat

/-! ## Places -/

theorem Within.toInt_cursor (within : pool.Within) :
    pool.cursor.toInt = pool.start.toInt + pool.place := by
  have start := Int16.le_iff_toInt_le.mp within.start_le
  unfold place
  omega

theorem Within.place_lt (within : pool.Within) : pool.place < pool.width := by
  have start := Int16.le_iff_toInt_le.mp within.start_le
  have stop := Int16.lt_iff_toInt_lt.mp within.lt_stop
  unfold place width
  omega

/-- A try moves on by one, and from the last number to the first. -/
theorem Within.place_advance (within : pool.Within) :
    pool.advance.place = (pool.place + 1) % pool.width := by
  have cursor := within.toInt_cursor
  have inside := within.place_lt
  have wide : (pool.width : Int) = pool.stop.toInt - pool.start.toInt := by
    have start := Int16.le_iff_toInt_le.mp within.start_le
    have stop := Int16.lt_iff_toInt_lt.mp within.lt_stop
    unfold width
    omega
  by_cases below : pool.cursor.toInt + 1 < pool.stop.toInt
  · have succ := toInt_cursor_succ within.lt_stop
    have moved : pool.advance.place = pool.place + 1 := by
      have next : pool.advance.cursor = pool.cursor + 1 := if_pos below
      have first : pool.advance.start = pool.start := rfl
      unfold place at cursor ⊢
      rw [next, first, succ]
      omega
    rw [moved, Nat.mod_eq_of_lt (by omega)]
  · have last : pool.place + 1 = pool.width := by omega
    have next : pool.advance.cursor = pool.start := if_neg below
    have first : pool.advance.start = pool.start := rfl
    rw [last, Nat.mod_self]
    unfold place
    rw [next, first, Int.sub_self]
    rfl

theorem SameBand.width_eq (same : pool.SameBand next) : next.width = pool.width := by
  unfold width
  rw [same.1, same.2]

/-- A pool is known by its band and its place. -/
theorem Within.eq_of_place (within : pool.Within) (later : next.Within)
    (same : pool.SameBand next) (here : next.place = pool.place) : next = pool := by
  have cursor : next.cursor = pool.cursor := by
    apply Int16.toInt_inj.mp
    rw [later.toInt_cursor, within.toInt_cursor, same.1, here]
  calc next = ⟨next.start, next.stop, next.cursor⟩ := rfl
    _ = ⟨pool.start, pool.stop, pool.cursor⟩ := by rw [same.1, same.2, cursor]

/-! ## Several tries -/

/-- The pool after some tries. -/
def moved (pool : IdentityPool) (tries : Nat) : IdentityPool :=
  advance^[tries] pool

theorem Within.moved (within : pool.Within) (tries : Nat) :
    (pool.moved tries).Within ∧ pool.SameBand (pool.moved tries) ∧
      (pool.moved tries).place = (pool.place + tries) % pool.width := by
  induction tries with
  | zero => exact ⟨within, ⟨rfl, rfl⟩, (Nat.mod_eq_of_lt within.place_lt).symm⟩
  | succ tries ih =>
      rcases ih with ⟨stays, band, place⟩
      have last : pool.moved (tries + 1) = (pool.moved tries).advance :=
        Function.iterate_succ_apply' _ _ _
      rw [last]
      refine ⟨stays.advance, band, ?_⟩
      rw [stays.place_advance, band.width_eq, place, Nat.mod_add_mod, Nat.add_assoc]

/-- As many tries as the band has numbers lead back. -/
theorem Within.once_around (within : pool.Within) : pool.moved pool.width = pool := by
  rcases within.moved pool.width with ⟨stays, band, place⟩
  apply within.eq_of_place stays band
  rw [place, Nat.add_mod_right, Nat.mod_eq_of_lt within.place_lt]

/-- As many tries as the band has numbers try each of them. -/
theorem Within.exists_tried (within : pool.Within) (low : pool.start ≤ id) (high : id < pool.stop) :
    ∃ tries < pool.width, (pool.moved tries).cursor = id := by
  have start := Int16.le_iff_toInt_le.mp low
  have stop := Int16.lt_iff_toInt_lt.mp high
  have inside := within.place_lt
  -- From the pool's place to the place of the number, the short way or around the end.
  let goal := (id.toInt - pool.start.toInt).toNat
  have within_goal : goal < pool.width := by
    show (id.toInt - pool.start.toInt).toNat < (pool.stop.toInt - pool.start.toInt).toNat
    omega
  let tries := (goal + pool.width - pool.place) % pool.width
  rcases within.moved tries with ⟨stays, band, place⟩
  have arrived : (pool.place + tries) % pool.width = goal := by
    show (pool.place + (goal + pool.width - pool.place) % pool.width) % pool.width = goal
    have around : pool.place + (goal + pool.width - pool.place) = goal + pool.width := by omega
    rw [Nat.add_mod_mod, around, Nat.add_mod_right, Nat.mod_eq_of_lt within_goal]
  refine ⟨tries, Nat.mod_lt _ (Nat.zero_lt_of_lt inside), ?_⟩
  apply Int16.toInt_inj.mp
  rw [stays.toInt_cursor, place, arrived, band.1]
  show pool.start.toInt + ((id.toInt - pool.start.toInt).toNat : Int) = id.toInt
  omega

/-! ## Searches without success -/

theorem search_eq_none (tries : Nat) (missed : (search inUse tries pool).1 = none) :
    (search inUse tries pool).2 = pool.moved tries ∧
      ∀ earlier < tries, (pool.moved earlier).cursor ∈ inUse := by
  induction tries generalizing pool with
  | zero => exact ⟨rfl, fun _ none => absurd none (Nat.not_lt_zero _)⟩
  | succ tries ih =>
      unfold search at missed ⊢
      split at missed
      · next used =>
        rw [if_pos used]
        rcases ih missed with ⟨after, tried⟩
        refine ⟨after, fun earlier before => ?_⟩
        cases earlier with
        | zero => exact List.contains_iff_mem.mp used
        | succ earlier => exact tried earlier (Nat.lt_of_succ_lt_succ before)
      · cases missed

/-- A pool that refuses is the same as before, and every number of its band is in use. -/
theorem allocate_error (within : pool.Within)
    (refused : pool.allocate inUse = (.error cause, next)) :
    next = pool ∧ ∀ id, pool.start ≤ id -> id < pool.stop -> id ∈ inUse := by
  unfold allocate at refused
  rcases searched : pool.search inUse pool.width with ⟨_ | found, after⟩
  · rw [searched] at refused
    cases refused
    rcases search_eq_none pool.width (congrArg Prod.fst searched) with ⟨circled, tried⟩
    rw [searched, within.once_around] at circled
    refine ⟨circled, fun id low high => ?_⟩
    rcases within.exists_tried low high with ⟨tries, inTime, same⟩
    exact same ▸ tried tries inTime
  · rw [searched] at refused
    cases refused

end IdentityPool

end MessageBus
