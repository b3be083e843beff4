import MessageBus.Module.Identity
import MessageBus.Module.Table
import MessageBus.Request
import MessageBus.Text.Quoted

namespace MessageBus

open Wire Text

/-!
# Letting a module in

A module that asks for a number must ask for one that the manager does not hand
out itself, and no module that has its number for itself may hold it.  A module
that wants its name for itself must be the only such one of that name.  The
pool is touched last, so a refusal leaves it as it was.
-/

/-- Why a module was not let in. -/
inductive Rejection where
  | outsideStaticRange (requested dynamicStart : ModuleId)
  | idInUse (requested : ModuleId) (holder : String)
  | nameInUse (name : String)
  | exhausted (cause : Exhausted)
deriving DecidableEq, Repr

namespace Rejection

def message : Rejection -> String
  | .outsideStaticRange requested dynamicStart =>
      s!"requested id {requested} is outside the static range [1, {dynamicStart})"
  | .idInUse requested holder => s!"id {requested} is held by unique module {holder}"
  | .nameInUse name => s!"name {quoted name} is held by another unique module"
  | .exhausted cause => cause.message

end Rejection

/-- What speaks against a number that was asked for. -/
def ModuleTable.idObjection? (table : ModuleTable) (handle : Handle) (requested : ModuleId)
    (dynamicStart : ModuleId) : Option Rejection :=
  if requested = 0 then none
  else if ¬ (1 <= requested ∧ requested < dynamicStart) then
    some (.outsideStaticRange requested dynamicStart)
  else (table.uniqueHolderOfId? requested handle).map fun holder =>
    .idInUse requested holder.label

/-- What speaks against a name that is wanted alone. -/
def ModuleTable.nameObjection? (table : ModuleTable) (handle : Handle)
    (request : ConnectRequest) : Option Rejection := do
  let name ← if request.unique then request.name else none
  let _ ← table.uniqueHolderOfName? name handle
  return .nameInUse name

/-- The number for a module that presents itself, with the pool behind it. -/
def ModuleTable.chooseId (table : ModuleTable) (pool : IdentityPool) (handle : Handle)
    (request : ConnectRequest) (dynamicStart : ModuleId) :
    Except Rejection ModuleId × IdentityPool :=
  match table.idObjection? handle request.requestedId dynamicStart with
  | some rejection => (.error rejection, pool)
  | none =>
      match table.nameObjection? handle request with
      | some rejection => (.error rejection, pool)
      | none =>
          if request.requestedId ≠ 0 then (.ok request.requestedId, pool)
          else
            let (allocated, pool) := pool.allocate table.idsInUse
            (allocated.mapError .exhausted, pool)

end MessageBus
