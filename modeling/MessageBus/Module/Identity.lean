import MessageBus.Protocol

namespace MessageBus

open Wire

/-!
# Numbers for modules that asked for none

The manager hands out the numbers of a band in a circle.  It goes on where it
stopped, so a number that has become free is not given again before the rest of
the band has had its turn.
-/

/-- The numbers from `start` up to but not including `stop`, and the next one to
be tried. -/
structure IdentityPool where
  start : ModuleId
  stop : ModuleId
  cursor : ModuleId
deriving DecidableEq, Repr

/-- Every number of a band is held by somebody. -/
structure Exhausted where
  start : ModuleId
  stop : ModuleId
deriving DecidableEq, Repr

namespace Exhausted

def message (refusal : Exhausted) : String :=
  s!"All dynamic module ids in [{refusal.start}, {refusal.stop}) are in use"

end Exhausted

namespace IdentityPool

def new (start stop : ModuleId) : IdentityPool :=
  ⟨start, stop, start⟩

/-- How many numbers the band has. -/
def width (pool : IdentityPool) : Nat :=
  (pool.stop.toInt - pool.start.toInt).toNat

/-- The pool after its next number has been tried. -/
def advance (pool : IdentityPool) : IdentityPool :=
  { pool with
    cursor := if pool.cursor.toInt + 1 < pool.stop.toInt then pool.cursor + 1 else pool.start }

/-- The first of the next `tries` numbers that is not in use. -/
def search (inUse : List ModuleId) : (tries : Nat) -> IdentityPool ->
    Option ModuleId × IdentityPool
  | 0, pool => (none, pool)
  | tries + 1, pool =>
      if inUse.contains pool.cursor then search inUse tries pool.advance
      else (some pool.cursor, pool.advance)

/-- The next number that is not in use, with the pool behind it. -/
def allocate (pool : IdentityPool) (inUse : List ModuleId) :
    Except Exhausted ModuleId × IdentityPool :=
  match pool.search inUse pool.width with
  | (some id, next) => (.ok id, next)
  | (none, next) => (.error ⟨pool.start, pool.stop⟩, next)

end IdentityPool

end MessageBus
