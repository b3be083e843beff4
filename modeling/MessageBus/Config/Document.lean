import MessageBus.Config.Basic
import MessageBus.Toml.Document

namespace MessageBus

open Toml Wire

/-!
# Configuration files

A configuration file is a TOML document with one table for each section.  What a
file does not mention keeps its default, and what it mentions without need is
ignored.  A section may also be an array, which gives the settings in their
order; whoever writes that gives up names and need not give all of them.

A value of the wrong type is refused, and so is a number that its setting cannot
hold.  A schema has no defaults for its type, its name and its size.
-/

namespace Toml

/-- The settings of a section by name, if the value can be a section.  A moment
is a section in which nothing is set. -/
def Value.settings? (names : List String) : Value -> Option (String -> Option Value)
  | .table _ entries => some fun name => Entries.get? entries name
  | .moment => some fun _ => none
  | value => value.elements?.map fun elements name => (names.zip elements).lookup name

/-- An integer within bounds. -/
def Value.bounded? (least largest : Int) : Value -> Option Int
  | .integer number => if least <= number ∧ number <= largest then some number else none
  | _ => none

def Value.natural? (value : Value) : Option Nat :=
  (value.bounded? 0 Int64.maxValue.toInt).map Int.toNat

def Value.int16? (value : Value) : Option Int16 :=
  (value.bounded? Int16.minValue.toInt Int16.maxValue.toInt).map Int16.ofInt

def Value.int32? (value : Value) : Option Int32 :=
  (value.bounded? Int32.minValue.toInt Int32.maxValue.toInt).map Int32.ofInt

def Value.uint16? (value : Value) : Option UInt16 :=
  (value.bounded? 0 65535).map fun number => UInt16.ofNat number.toNat

def Value.boolean? : Value -> Option Bool
  | .boolean flag => some flag
  | _ => none

def Value.text? : Value -> Option String
  | .text content => some content
  | _ => none

/-- What a setting is set to, or its default. -/
def setting (read? : Value -> Option α) (default : α) : Option Value -> Option α
  | none => some default
  | some value => read? value

/-- What a setting is set to, which has no default. -/
def required (read? : Value -> Option α) (value : Option Value) : Option α :=
  value.bind read?

end Toml

def ManagerSettings.ofValue? (value : Value) : Option ManagerSettings := do
  let settings ← value.settings? ["name", "host_id"]
  let default : ManagerSettings := {}
  return {
    name := ← setting Value.text? default.name (settings "name")
    hostId := ← setting Value.int16? default.hostId (settings "host_id") }

def TransportSettings.ofValue? (value : Value) : Option TransportSettings := do
  let settings ← value.settings? ["address", "port", "timecode", "max_payload_bytes"]
  let default : TransportSettings := {}
  return {
    address := ← setting Value.text? default.address (settings "address")
    port := ← setting Value.uint16? default.port (settings "port")
    timecode := ← setting Value.boolean? default.timecode (settings "timecode")
    maxPayloadBytes :=
      ← setting Value.natural? default.maxPayloadBytes (settings "max_payload_bytes") }

def IdentitySettings.ofValue? (value : Value) : Option IdentitySettings := do
  let settings ← value.settings? ["dynamic_start", "max_modules", "max_hosts"]
  let default : IdentitySettings := {}
  return {
    dynamicStart := ← setting Value.int16? default.dynamicStart (settings "dynamic_start")
    maxModules := ← setting Value.int16? default.maxModules (settings "max_modules")
    maxHosts := ← setting Value.int16? default.maxHosts (settings "max_hosts") }

def DeliverySettings.ofValue? (value : Value) : Option DeliverySettings := do
  let settings ← value.settings?
    ["outbound_queue_depth", "event_queue_depth", "event_batch_size", "logger_write_timeout_ms"]
  let default : DeliverySettings := {}
  return {
    outboundQueueDepth :=
      ← setting Value.natural? default.outboundQueueDepth (settings "outbound_queue_depth")
    eventQueueDepth :=
      ← setting Value.natural? default.eventQueueDepth (settings "event_queue_depth")
    eventBatchSize :=
      ← setting Value.natural? default.eventBatchSize (settings "event_batch_size")
    loggerWriteTimeout :=
      ← setting (fun value => value.natural?.map some) default.loggerWriteTimeout
        (settings "logger_write_timeout_ms") }

def DiagnosticsSettings.ofValue? (value : Value) : Option DiagnosticsSettings := do
  let settings ← value.settings?
    ["timing_enabled", "timing_interval_ms", "traffic_interval_ms", "directory_interval_ms",
      "poll_interval_ms"]
  let default : DiagnosticsSettings := {}
  return {
    timingEnabled := ← setting Value.boolean? default.timingEnabled (settings "timing_enabled")
    timingInterval :=
      ← setting Value.natural? default.timingInterval (settings "timing_interval_ms")
    trafficInterval :=
      ← setting Value.natural? default.trafficInterval (settings "traffic_interval_ms")
    directoryInterval :=
      ← setting Value.natural? default.directoryInterval (settings "directory_interval_ms")
    pollInterval :=
      ← setting Value.natural? default.pollInterval (settings "poll_interval_ms") }

namespace SchemaSettings

def settingNames : List String :=
  ["id", "name", "size", "hash", "definition"]

/-- A schema written as an array has to give everything. -/
def isComplete (value : Value) : Bool :=
  match value.elements? with
  | some elements => settingNames.length <= elements.length
  | none => true

def ofValue? (value : Value) : Option SchemaSettings := do
  let settings ← value.settings? settingNames
  if !isComplete value then none
  else return {
    id := ← required Value.int32? (settings "id")
    name := ← required Value.text? (settings "name")
    size := ← required Value.natural? (settings "size")
    hash := ← setting (fun value => value.int32?.map some) none (settings "hash")
    definition := ← setting (fun value => value.text?.map some) none (settings "definition") }

end SchemaSettings

namespace Config

def ofEntries? (entries : Entries) : Option Config := do
  return {
    manager := ← setting ManagerSettings.ofValue? {} (Entries.get? entries "manager")
    transport := ← setting TransportSettings.ofValue? {} (Entries.get? entries "transport")
    identity := ← setting IdentitySettings.ofValue? {} (Entries.get? entries "identity")
    delivery := ← setting DeliverySettings.ofValue? {} (Entries.get? entries "delivery")
    diagnostics :=
      ← setting DiagnosticsSettings.ofValue? {} (Entries.get? entries "diagnostics")
    schemas :=
      ← setting (fun value => value.elements?.bind fun elements =>
          elements.mapM SchemaSettings.ofValue?) [] (Entries.get? entries "schemas") }

/-- The configuration that a document describes, if it can work. -/
def ofToml (document : String) : Except ConfigError Config :=
  match (Toml.parse? document).bind ofEntries? with
  | none => .error .unparsable
  | some config => do
      config.validate
      return config

end Config

end MessageBus
