import MessageBus.Client.Basic

namespace MessageBus

open Wire

/-!
# Taking messages

`Client.next` is the one way in which a message leaves the inbox or the pending
messages.  The two kinds of taking are built on it: reading the next message
that the client wants, and looking for an acknowledgement.  Each looks only at
what is there.  If that is not enough, the search ends with `nothing`, and
whether to wait is another matter.

A search for an acknowledgement holds the messages it has passed, and whoever
ends the search puts them back in front.
-/

namespace Client

/-- What became of a search. -/
inductive Search where
  | found (message : Message)
  | failed (error : ClientError)
  /-- Nothing is left to look at. -/
  | nothing
deriving DecidableEq, Repr

/-- The number of messages that were not taken for good. -/
def unread (client : Client) : Nat :=
  client.pending.length + (client.line.map (·.inbox.length)).getD 0

/-- A message that was taken from the inbox, if it agrees with the schemas. -/
def check (client : Client) (message : Message) : Search :=
  if client.settings.isChecking then
    match client.settings.schemas.validate message.header with
    | .ok _ => .found message
    | .error error => .failed (.outOfSync error)
  else .found message

/-- Take the next message.  What ends the stream ends the line, too. -/
def next (client : Client) : Search × Client :=
  match client.pending with
  | message :: pending => (.found message, { client with pending })
  | [] =>
      match client.line with
      | none => (.failed .notConnected, client)
      | some line =>
          match line.inbox with
          | [] => (.nothing, client)
          | arrival :: inbox =>
              let taken := { client with line := some { line with inbox } }
              match arrival with
              | .message message => (client.check message, taken)
              | .failure error =>
                  (.failed (.ofProtocolError error), if error.isFatal then client.letGo else taken)

theorem unread_next_lt {client after : Client} {message : Message}
    (taken : client.next = (.found message, after)) : after.unread < client.unread := by
  unfold next at taken
  split at taken
  · next pending here =>
    obtain rfl := (Prod.mk.inj taken).2
    simp [unread, here]
  · next none_pending =>
    split at taken
    · simp at taken
    · next line here =>
      split at taken
      · simp at taken
      · next arrival inbox full =>
        split at taken
        · obtain rfl := (Prod.mk.inj taken).2
          simp [unread, here, full]
        · simp at taken

/-- Read the next message that the client wants; those before it are lost. -/
def read (client : Client) : Search × Client :=
  match _taken : client.next with
  | (.found message, after) =>
      if after.accepts message.messageType then (.found message, after) else after.read
  | stopped => stopped
termination_by client.unread
decreasing_by exact unread_next_lt _taken

/-- Look for an acknowledgement, with the messages passed so far and with those
passed in the end, in their order. -/
def findAcknowledgement (client : Client) (held : List Message) :
    Search × List Message × Client :=
  match _taken : client.next with
  | (.found message, after) =>
      if message.messageType = MessageType.acknowledge then (.found message, held, after)
      else after.findAcknowledgement (held ++ [message])
  | (stopped, after) => (stopped, held, after)
termination_by client.unread
decreasing_by exact unread_next_lt _taken

/-- Put messages in front of all others. -/
def putBack (client : Client) (held : List Message) : Client :=
  { client with pending := held ++ client.pending }

end Client

end MessageBus
