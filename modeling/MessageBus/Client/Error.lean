import MessageBus.Duration
import MessageBus.Error
import MessageBus.Text.Field

namespace MessageBus

open Wire Text

/-!
# What can go wrong for a client

A client sees two kinds of trouble.  Its own requests can be impossible, which it
notices before anything is sent, and the connection can fail it.  A message that
disagrees with the client's schemas is of neither kind: the connection lives on,
and only this message is lost.
-/

inductive ClientError where
  /-- Nobody answers at the address. -/
  | managerNotFound (address : String)
  /-- Somebody answers, but the stream to there cannot be set up. -/
  | unusable (cause : Fault)
  | notConnected
  /-- The stream ended, broke, or can no longer be cut into messages. -/
  | connectionLost (cause : ProtocolError)
  | acknowledgementTimeout (limit : Milliseconds)
  | invalidDestinationModule (module : ModuleId)
  | invalidDestinationHost (host : HostId)
  /-- The number is not one that a module may ask for. -/
  | invalidModuleId (id limit : ModuleId)
  | payloadTooLarge (size limit : Nat)
  | emptyName
  /-- A message did not match the client's schemas. -/
  | outOfSync (cause : ProtocolError)
  | textTooLong (refusal : TooLong)
deriving DecidableEq, Repr

namespace ClientError

/-- What an error of the stream means to a client. -/
def ofProtocolError (error : ProtocolError) : ClientError :=
  if error.isFatal then .connectionLost error else .outOfSync error

def message : ClientError -> String
  | .managerNotFound address => s!"No message manager responding at {address}"
  | .unusable cause => s!"IO error: {cause.text}"
  | .notConnected => "Not connected to a message manager"
  | .connectionLost _ => "Connection to message manager lost"
  | .acknowledgementTimeout limit =>
      s!"No acknowledgement from message manager within {limit.text}"
  | .invalidDestinationModule module => s!"Invalid destination module id {module}"
  | .invalidDestinationHost host => s!"Invalid destination host id {host}"
  | .invalidModuleId id limit => s!"Module id {id} must be >= 0 and < {limit}"
  | .payloadTooLarge size limit => s!"Payload of {size} bytes exceeds the {limit} byte limit"
  | .emptyName => "Invalid module name: name must not be empty"
  | .outOfSync cause => s!"Message definitions out of sync: {cause.message}"
  | .textTooLong refusal => refusal.message

end ClientError

end MessageBus
