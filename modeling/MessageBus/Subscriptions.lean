import MessageBus.Index
import MessageBus.Protocol

namespace MessageBus

open Wire

/-!
# Who wants which messages

A module either wants everything or wants a set of types.  The two exclude each
other: asking for everything drops the single types, and as long as a module
has everything, asking for or giving up a single type means nothing.

Delivery asks for the modules of a type and removal asks for the types of a
module, so both directions are kept.  `byType` and `byModule` are the same
relation, once from each side, and a module in `everything` is in neither.
-/

/-- Names a connection for as long as the manager runs; never given twice. -/
abbrev Handle := Nat

structure Subscriptions where
  byType : Index MessageType Handle := {}
  everything : List Handle := []
  byModule : Index Handle MessageType := {}
deriving DecidableEq, Repr

namespace Subscriptions

/-- What a request did. -/
inductive Change where
  | added
  | removed
  /-- It asked for what was so already, or for something that everything covers. -/
  | unchanged
deriving DecidableEq, Repr

def wantsEverything (subscriptions : Subscriptions) (handle : Handle) : Bool :=
  subscriptions.everything.contains handle

/-- Whether a module wants messages of a type, by whatever subscription. -/
def wants (subscriptions : Subscriptions) (handle : Handle) (messageType : MessageType) : Bool :=
  subscriptions.wantsEverything handle || subscriptions.byType.has messageType handle

/-- The types that a module asked for one by one, in ascending order. -/
def typesOf (subscriptions : Subscriptions) (handle : Handle) : List MessageType :=
  subscriptions.byModule.get handle

/-- The modules that want a type: those that asked for it, then those that want
everything, each in ascending order. -/
def subscribers (subscriptions : Subscriptions) (messageType : MessageType) : List Handle :=
  subscriptions.byType.get messageType ++ subscriptions.everything

/-- The single types of a module dropped. -/
def dropTypes (subscriptions : Subscriptions) (handle : Handle) : Subscriptions :=
  { subscriptions with
    byType := (subscriptions.typesOf handle).foldl
      (fun index messageType => index.erase messageType handle) subscriptions.byType
    byModule := subscriptions.byModule.eraseKey handle }

def subscribe (subscriptions : Subscriptions) (handle : Handle) (messageType : MessageType) :
    Change × Subscriptions :=
  if messageType = MessageType.everything then
    let left := subscriptions.dropTypes handle
    (if subscriptions.wantsEverything handle then .unchanged else .added,
      { left with everything := Ascending.insert handle left.everything })
  else if subscriptions.wantsEverything handle then (.unchanged, subscriptions)
  else
    (if subscriptions.byType.has messageType handle then .unchanged else .added,
      { subscriptions with
        byType := subscriptions.byType.insert messageType handle
        byModule := subscriptions.byModule.insert handle messageType })

def unsubscribe (subscriptions : Subscriptions) (handle : Handle) (messageType : MessageType) :
    Change × Subscriptions :=
  if messageType = MessageType.everything then
    (if subscriptions.wantsEverything handle then .removed else .unchanged,
      { subscriptions with everything := subscriptions.everything.filter (· ≠ handle) })
  else if subscriptions.wantsEverything handle then (.unchanged, subscriptions)
  else
    (if subscriptions.byType.has messageType handle then .removed else .unchanged,
      { subscriptions with
        byType := subscriptions.byType.erase messageType handle
        byModule := subscriptions.byModule.erase handle messageType })

/-- Everything about a module forgotten. -/
def remove (subscriptions : Subscriptions) (handle : Handle) : Subscriptions :=
  { subscriptions.dropTypes handle with
    everything := subscriptions.everything.filter (· ≠ handle) }

end Subscriptions

end MessageBus
