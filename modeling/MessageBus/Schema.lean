import MessageBus.Checksum
import MessageBus.Error
import MessageBus.Payload.Catalog

namespace MessageBus

open Wire

/-!
# Schemas

What a bus knows about message types: the exact payload size and, if it is
known, the hash of the payload's definition.  A type that is not listed may
carry anything.

The hash is compared only when both sides have one.  A zero stands for "not
known", on either side, so a peer that does not tag its messages is not turned
away; the size is compared always.
-/

/-- The number that stands for a definition text in a header. -/
def definitionHash (definition : String) : Int32 :=
  (Crc32.checksum (Text.encodeUtf8 definition)).toInt32

namespace Payload

/-- The hash that tags messages with this payload. -/
def hash (α : Type) [Payload α] : Int32 :=
  definitionHash (definition α)

end Payload

/-- What is known about one message type. -/
structure SchemaEntry where
  id : MessageType
  name : String
  size : Nat
  /-- The expected hash; zero switches the comparison off. -/
  hash : Int32
deriving DecidableEq, Repr

namespace SchemaEntry

def ofPayload (kind : PayloadKind) : SchemaEntry :=
  ⟨kind.messageType, kind.name, kind.size, definitionHash kind.definition⟩

/-- A type without payload is defined by its name alone. -/
def signal (id : MessageType) (name : String) : SchemaEntry :=
  ⟨id, name, 0, definitionHash name⟩

end SchemaEntry

/-- The known types, one entry for each, in ascending order. -/
structure Schemas where
  entries : List SchemaEntry
deriving DecidableEq, Repr

namespace Schemas

def empty : Schemas := ⟨[]⟩

/-- Put an entry into its place, over one of the same type. -/
def insertEntry (entry : SchemaEntry) : List SchemaEntry -> List SchemaEntry
  | [] => [entry]
  | first :: rest =>
      if entry.id < first.id then entry :: first :: rest
      else if entry.id = first.id then entry :: rest
      else first :: insertEntry entry rest

def insert (schemas : Schemas) (entry : SchemaEntry) : Schemas :=
  ⟨insertEntry entry schemas.entries⟩

def insertAll (schemas : Schemas) (entries : List SchemaEntry) : Schemas :=
  entries.foldl insert schemas

def get? (schemas : Schemas) (id : MessageType) : Option SchemaEntry :=
  schemas.entries.find? (·.id == id)

def size (schemas : Schemas) : Nat :=
  schemas.entries.length

/-- The types without payload that the bus defines. -/
def signals : List SchemaEntry :=
  [.signal MessageType.exit "EXIT",
    .signal MessageType.kill "KILL",
    .signal MessageType.acknowledge "ACKNOWLEDGE",
    .signal MessageType.disconnect "DISCONNECT",
    .signal MessageType.loggerExit "LM_EXIT",
    .signal MessageType.messageLogSaved "MESSAGE_LOG_SAVED",
    .signal MessageType.loggerReady "LM_READY"]

/-- Everything that the bus itself defines. -/
def core : Schemas :=
  empty.insertAll (signals ++ PayloadKind.all.map .ofPayload)

/-- Compare a header with what is known about its type. -/
def validate (schemas : Schemas) (header : Header) : Except ProtocolError Unit :=
  match schemas.get? header.messageType with
  | none => .ok ()
  | some entry =>
      let got := header.payloadLength
      if header.dataBytes < 0 || got != entry.size then
        .error (.sizeMismatch header.messageType entry.size got)
      else if header.version != 0 && entry.hash != 0 && header.version != entry.hash then
        .error (.versionMismatch header.messageType entry.hash header.version)
      else .ok ()

end Schemas

end MessageBus
