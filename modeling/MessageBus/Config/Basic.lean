import MessageBus.Duration
import MessageBus.Schema

namespace MessageBus

open Wire

/-!
# What an operator decides

The settings of a manager, in sections.  Every setting has a default, so a
configuration says only what differs from an ordinary bus.

Not every combination can work.  `Config.validate` refuses the ones that cannot,
and everything else in the manager relies on a configuration that it has
accepted: the bands of numbers are then in order and inside the tables that the
reports have room for, and no queue or period is empty.
-/

/-- Who the manager is. -/
structure ManagerSettings where
  name : String := "message_manager"
  hostId : HostId := 0
deriving DecidableEq, Repr

/-- Where it listens and how messages are framed there. -/
structure TransportSettings where
  address : String := "0.0.0.0"
  port : UInt16 := 7111
  timecode : Bool := false
  maxPayloadBytes : Nat := Limit.payload
deriving DecidableEq, Repr

/-- The bands of numbers.  Modules ask for numbers below `dynamicStart`; the
manager hands out the numbers from there up to but not including `maxModules`. -/
structure IdentitySettings where
  dynamicStart : ModuleId := ModuleId.dynamicStart
  maxModules : ModuleId := Int16.ofNat Limit.modules
  maxHosts : HostId := Limit.hosts
deriving DecidableEq, Repr

/-- How much is kept waiting, and for how long. -/
structure DeliverySettings where
  outboundQueueDepth : Nat := 1024
  eventQueueDepth : Nat := 8192
  eventBatchSize : Nat := 256
  /-- How long a delivery may wait for a logger; without it, as long as it takes. -/
  loggerWriteTimeout : Option Milliseconds := none
deriving DecidableEq, Repr

/-- When reports are due. -/
structure DiagnosticsSettings where
  timingEnabled : Bool := true
  timingInterval : Milliseconds := 1000
  trafficInterval : Milliseconds := 10000
  directoryInterval : Milliseconds := 5000
  pollInterval : Milliseconds := 200
deriving DecidableEq, Repr

/-- A message type of an application. -/
structure SchemaSettings where
  id : MessageType
  name : String
  size : Nat
  hash : Option Int32 := none
  /-- The text to take the hash of, if there is no hash. -/
  definition : Option String := none
deriving DecidableEq, Repr

namespace SchemaSettings

def entry (schema : SchemaSettings) : SchemaEntry where
  id := schema.id
  name := schema.name
  size := schema.size
  hash :=
    match schema.hash, schema.definition with
    | some hash, _ => hash
    | none, some definition => definitionHash definition
    | none, none => 0

end SchemaSettings

structure Config where
  manager : ManagerSettings := {}
  transport : TransportSettings := {}
  identity : IdentitySettings := {}
  delivery : DeliverySettings := {}
  diagnostics : DiagnosticsSettings := {}
  schemas : List SchemaSettings := []
deriving DecidableEq, Repr

/-! ## What cannot work -/

inductive ConfigError where
  | dynamicStartTooLow (value : ModuleId)
  | maxModulesOutOfRange (dynamicStart value : ModuleId)
  | negativeMaxHosts
  | emptyQueue
  | emptyBatch
  | emptyInterval
  | doubleHash (schema : String)
  /-- The text is no TOML, or a setting in it has the wrong type. -/
  | unparsable
  /-- There is no such file, or it is no text. -/
  | unreadable
deriving DecidableEq, Repr

namespace ConfigError

def detail : ConfigError -> String
  | .dynamicStartTooLow value => s!"identity.dynamic_start must be at least 2, got {value}"
  | .maxModulesOutOfRange dynamicStart value =>
      s!"identity.max_modules must lie in ({dynamicStart}, {Limit.modules}], got {value}"
  | .negativeMaxHosts => "identity.max_hosts must not be negative"
  | .emptyQueue => "queue depths must be greater than zero"
  | .emptyBatch => "delivery.event_batch_size must be greater than zero"
  | .emptyInterval => "diagnostic intervals must be greater than zero"
  | .doubleHash schema => s!"schema {schema} sets both hash and definition"
  | .unparsable => "Failed to parse config"
  | .unreadable => "Failed to read config file"

end ConfigError

/-- Why a manager does not come up. -/
inductive StartupError where
  | configuration (cause : ConfigError)
  /-- The address could not be listened at. -/
  | bind (address : String)
deriving DecidableEq, Repr

namespace StartupError

def message : StartupError -> String
  | .configuration cause => s!"Configuration error: {cause.detail}"
  | .bind address => s!"Failed to bind {address}"

end StartupError

namespace Config

/-- The first schema that gives its hash twice. -/
def doubleHash? (config : Config) : Option SchemaSettings :=
  config.schemas.find? fun schema => schema.hash.isSome && schema.definition.isSome

/-- The first thing that cannot work. -/
def objection? (config : Config) : Option ConfigError :=
  let identity := config.identity
  let delivery := config.delivery
  let diagnostics := config.diagnostics
  if identity.dynamicStart < 2 then
    some (.dynamicStartTooLow identity.dynamicStart)
  else if identity.maxModules <= identity.dynamicStart ∨
      (Limit.modules : Int) < identity.maxModules.toInt then
    some (.maxModulesOutOfRange identity.dynamicStart identity.maxModules)
  else if identity.maxHosts < 0 then
    some .negativeMaxHosts
  else if delivery.outboundQueueDepth = 0 ∨ delivery.eventQueueDepth = 0 then
    some .emptyQueue
  else if delivery.eventBatchSize = 0 then
    some .emptyBatch
  else if diagnostics.pollInterval = 0 ∨ diagnostics.timingInterval = 0 ∨
      diagnostics.trafficInterval = 0 ∨ diagnostics.directoryInterval = 0 then
    some .emptyInterval
  else config.doubleHash?.map fun schema => .doubleHash schema.name

def validate (config : Config) : Except ConfigError Unit :=
  match config.objection? with
  | some error => .error error
  | none => .ok ()

/-- The address to listen at, as text. -/
def bindAddress (config : Config) : String :=
  s!"{config.transport.address}:{config.transport.port}"

def format (config : Config) : Format :=
  Format.ofTimecodeFlag config.transport.timecode

/-- Everything the manager knows about message types: what the bus defines, and
what the configuration adds or replaces. -/
def knownSchemas (config : Config) : Schemas :=
  Schemas.core.insertAll (config.schemas.map SchemaSettings.entry)

end Config

end MessageBus
