import MessageBus.Address
import MessageBus.Subscriptions

namespace MessageBus

open Wire

/-!
# The modules on the bus

One record for each connection, in the order in which they came.  A connection
becomes a module by registering; until then it has no number, and nothing is
delivered to it.  Handles are counted up and never given twice, so a report
about a connection that is gone finds nothing, rather than a newer connection.
-/

structure Module where
  handle : Handle
  peer : SocketAddress
  /-- The number on the bus; zero until the module is registered. -/
  id : ModuleId := 0
  name : Option String := none
  pid : Int32 := 0
  isLogger : Bool := false
  isDaemon : Bool := false
  isUnique : Bool := false
  isRegistered : Bool := false
  /-- The deliveries that were dropped because the module's queue was full. -/
  dropCount : Nat := 0
deriving DecidableEq, Repr

namespace Module

/-- How a log line calls the module. -/
def label (module : Module) : String :=
  let name := module.name.getD "module"
  s!"{name}(id={module.id}, {module.peer.text})"

end Module

/-- The connections in ascending order of their handles, and the loggers among
them. -/
structure ModuleTable where
  modules : List Module := []
  loggers : List Handle := []
  lastHandle : Handle := 0
deriving DecidableEq, Repr

namespace ModuleTable

def get? (table : ModuleTable) (handle : Handle) : Option Module :=
  table.modules.find? (·.handle == handle)

def contains (table : ModuleTable) (handle : Handle) : Bool :=
  (table.get? handle).isSome

/-- The table with a new connection, and the handle that it was given. -/
def insert (table : ModuleTable) (peer : SocketAddress) : Handle × ModuleTable :=
  let handle := table.lastHandle + 1
  (handle, { table with
    modules := table.modules ++ [{ handle, peer }]
    lastHandle := handle })

/-- One record changed, if it is there. -/
def modify (table : ModuleTable) (handle : Handle) (change : Module -> Module) : ModuleTable :=
  { table with modules := table.modules.map fun module =>
      if module.handle = handle then change module else module }

/-- A connection forgotten. -/
def remove (table : ModuleTable) (handle : Handle) : ModuleTable :=
  { table with
    modules := table.modules.filter (·.handle ≠ handle)
    loggers := table.loggers.filter (· ≠ handle) }

/-- A connection becomes a module with the given number. -/
def register (table : ModuleTable) (handle : Handle) (id : ModuleId) (isLogger : Bool) :
    ModuleTable :=
  let changed := table.modify handle fun module =>
    { module with id, isLogger, isRegistered := true }
  if isLogger && table.contains handle then
    { changed with loggers := Ascending.insert handle table.loggers }
  else changed

/-- The registered modules, in the order of their handles. -/
def registered (table : ModuleTable) : List Module :=
  table.modules.filter (·.isRegistered)

def isRegistered (table : ModuleTable) (handle : Handle) : Bool :=
  ((table.get? handle).map (·.isRegistered)).getD false

/-- The numbers that registered modules hold. -/
def idsInUse (table : ModuleTable) : List ModuleId :=
  table.registered.map (·.id)

/-- The first registered module, other than one of them, that has its number
for itself and has this one. -/
def uniqueHolderOfId? (table : ModuleTable) (id : ModuleId) (except : Handle) : Option Module :=
  table.registered.find? fun module =>
    module.isUnique && module.id == id && module.handle != except

/-- The first registered module, other than one of them, that has its name for
itself and has this one. -/
def uniqueHolderOfName? (table : ModuleTable) (name : String) (except : Handle) :
    Option Module :=
  table.registered.find? fun module =>
    module.isUnique && module.handle != except && module.name == some name

end ModuleTable

end MessageBus
