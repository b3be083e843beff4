import MessageBus.Client.Inbox

namespace MessageBus

open Wire

/-!
# Calls

A call is a list of steps.  Most steps are done at once; those that need the
world outside (somebody at an address, room for a frame, a message that has not
arrived, the time) suspend the call with what it needs and with the steps behind it.
Whoever runs the client satisfies the need and gives the call a `Signal`, and the
call goes on.  So a call that waits is an ordinary value, and everything that
can happen while it waits can be said before it goes on.

The first step that fails ends the call, and what was done before stays done.  A
client that could not be let in therefore keeps its line, except that saying
goodbye always ends in `hangUp`.
-/

namespace Client

/-- What an acknowledgement is wanted for. -/
inductive Purpose where
  /-- To be let in. -/
  | enrollment
  /-- To go on. -/
  | progress
  /-- To be the call's answer. -/
  | answer
deriving DecidableEq, Repr

inductive Step where
  | letGo
  | dial (address : String)
  | present (introduction : Introduction)
  | send (message : Message) (module : ModuleId) (host : HostId)
  | mark (messageType : MessageType) (standing : Standing)
  | acknowledged (purpose : Purpose) (limit : Milliseconds)
  | read (limit : Option Milliseconds)
  | discard (limit : Milliseconds)
  | hangUp
deriving DecidableEq, Repr

/-! ## What can be called -/

inductive Call where
  | connect (address : String) (introduction : Introduction)
  | disconnect
  | subscribe (types : List MessageType)
  | unsubscribe (types : List MessageType)
  | pause (types : List MessageType)
  | resume (types : List MessageType)
  /-- Give up every subscription, the paused ones too. -/
  | unsubscribeAll
  /-- Tell the manager that the module is up. -/
  | announceReady
  | rename (name : String)
  | send (message : Message) (module : ModuleId) (host : HostId)
  /-- Wait for a message that the client wants, for good if there is no limit. -/
  | read (limit : Option Milliseconds)
  | awaitAcknowledgement (limit : Milliseconds)
  /-- Drop what has arrived. -/
  | discard (limit : Milliseconds)
deriving DecidableEq, Repr

/-- What a call answers. -/
inductive Reply where
  | done
  | message (message : Message)
  | nothing
  /-- Whether everything was dropped. -/
  | emptied (isEmpty : Bool)
deriving DecidableEq, Repr

/-- Send a request to the manager. -/
def request [Payload α] (client : Client) (payload : α) : Step :=
  .send (Message.ofPayload client.clock payload) 0 0

/-- Wait for the manager to carry a request out. -/
def confirmation (client : Client) (purpose : Purpose) : Step :=
  .acknowledged purpose client.settings.ackTimeout

/-- Ask for the same about one type after the other.  The client takes note as
soon as the request is out, before it is confirmed. -/
def changeStanding [Payload α] (client : Client) (types : List MessageType)
    (payload : MessageType -> α) (standing : Standing) : Except ClientError (List Step) :=
  if client.isConnected then
    .ok (types.flatMap fun messageType =>
      [client.request (payload messageType), .mark messageType standing,
        client.confirmation .progress])
  else .error .notConnected

/-- The steps of a call, or what is wrong with it from the start. -/
def steps (client : Client) : Call -> Except ClientError (List Step)
  | .connect address introduction =>
      .ok [.letGo, .dial address, .present introduction, client.confirmation .enrollment]
  | .disconnect =>
      let goodbye := Message.signal client.clock MessageType.disconnect
      .ok (if client.isConnected then [.send goodbye 0 0, .hangUp] else [.hangUp])
  | .subscribe types => client.changeStanding types Subscribe.mk .subscribed
  | .unsubscribe types => client.changeStanding types Unsubscribe.mk .unknown
  | .pause types => client.changeStanding types PauseSubscription.mk .paused
  | .resume types => client.changeStanding types ResumeSubscription.mk .subscribed
  | .unsubscribeAll =>
      client.changeStanding (Ascending.union client.subscribed client.paused) Unsubscribe.mk
        .unknown
  | .announceReady => .ok [client.request (ModuleReady.mk client.pid)]
  | .rename name =>
      if name.isEmpty then .error .emptyName
      else match Text.Field.ofText? Limit.nameWidth name with
        | .error refusal => .error (.textTooLong refusal)
        | .ok name => .ok [client.request (ClientSetName.mk name), client.confirmation .progress]
  | .send message module host => .ok [.send message module host]
  | .read limit => .ok [.read limit]
  | .awaitAcknowledgement limit => .ok [.acknowledged .answer limit]
  | .discard limit => .ok [.discard limit]

/-! ## Doing the steps -/

/-- What a call waits for. -/
inductive Need where
  | server (address : String)
  /-- Room for a frame on the stream. -/
  | room (frame : Bytes)
  /-- A message that the client wants. -/
  | message (deadline : Option Milliseconds)
  /-- An acknowledgement; the messages that came instead are held. -/
  | acknowledgement (purpose : Purpose) (limit deadline : Milliseconds) (held : List Message)
  /-- To know whether there is time left to drop more. -/
  | time (deadline : Milliseconds)
deriving DecidableEq, Repr

/-- Where a call has got to. -/
inductive Progress where
  | finished (result : Except ClientError Reply)
  | waiting (need : Need) (rest : List Step)

/-- End a call that cannot go on, of which some steps are left. -/
def fail (client : Client) (error : ClientError) (rest : List Step) : Progress × Client :=
  (.finished (.error error), if rest.contains .hangUp then client.hangUp else client)

/-- Wait for room for a message's frame, if it may be sent. -/
def post (client : Client) (message : Message) (module : ModuleId) (host : HostId)
    (rest : List Step) : Progress × Client :=
  match client.frame message module host with
  | .error error => client.fail error rest
  | .ok frame => (.waiting (.room frame) rest, client)

/-- Present the module on a new line. -/
def introduce (client : Client) (introduction : Introduction) (rest : List Step) :
    Progress × Client :=
  let client := client.present introduction
  let { isLogger, isDaemon, isUnique, name } := introduction
  match Connect.ofFlags? isLogger isDaemon isUnique client.pid name with
  | .error refusal => client.fail (.textTooLong refusal) rest
  | .ok request => client.post (Message.ofPayload client.clock request) 0 0 rest

/-- Read, and go on with the message that was found or without any. -/
def afterRead (client : Client) (rest : List Step) (found : Message -> Progress)
    (nothing : Progress) : Progress × Client :=
  match client.read with
  | (.found message, client) => (found message, client)
  | (.failed error, client) => client.fail error rest
  | (.nothing, client) => (nothing, client)

/-- Read, or wait for something to read. -/
def seekMessage (client : Client) (deadline : Option Milliseconds) (rest : List Step) :
    Progress × Client :=
  client.afterRead rest (fun message => .finished (.ok (.message message)))
    (.waiting (.message deadline) rest)

/-- Drop the next message that the client wants, and those before it.  Whether to
drop another one depends on the time, which is looked at after each. -/
def dropMessage (client : Client) (deadline : Milliseconds) (rest : List Step) :
    Progress × Client :=
  client.afterRead rest (fun _ => .waiting (.time deadline) rest)
    (.finished (.ok (.emptied true)))

/-- Look for an acknowledgement.  If there is one and there are steps to be done
after it, no progress is reported. -/
def seekAcknowledgement (client : Client) (purpose : Purpose) (limit deadline : Milliseconds)
    (held : List Message) (rest : List Step) : Option Progress × Client :=
  match client.findAcknowledgement held with
  | (.found message, held, client) =>
      let client := client.putBack held
      match purpose with
      | .enrollment => (none, client.enroll message)
      | .progress => (none, client)
      | .answer => (some (.finished (.ok (.message message))), client)
  | (.failed error, held, client) =>
      let (progress, client) := (client.putBack held).fail error rest
      (some progress, client)
  | (.nothing, held, client) =>
      (some (.waiting (.acknowledgement purpose limit deadline held) rest), client)

/-- Do steps until the call has ended or has to wait. -/
def perform (now : Milliseconds) : List Step -> Client -> Progress × Client
  | [], client => (.finished (.ok .done), client)
  | .letGo :: rest, client => perform now rest { client.letGo with pending := [] }
  | .dial address :: rest, client => (.waiting (.server address) rest, client)
  | .present introduction :: rest, client => client.introduce introduction rest
  | .send message module host :: rest, client => client.post message module host rest
  | .mark messageType standing :: rest, client =>
      perform now rest (client.mark messageType standing)
  | .acknowledged purpose limit :: rest, client =>
      match client.seekAcknowledgement purpose limit (now + limit) [] rest with
      | (some progress, client) => (progress, client)
      | (none, client) => perform now rest client
  | .read limit :: rest, client => client.seekMessage (limit.map (now + ·)) rest
  | .discard limit :: rest, client => client.dropMessage (now + limit) rest
  | .hangUp :: rest, client => perform now rest client.hangUp

/-- Begin a call. -/
def begin (now : Milliseconds) (client : Client) (call : Call) : Progress × Client :=
  match client.steps call with
  | .error error => client.fail error []
  | .ok steps => perform now steps client

/-! ## Going on -/

/-- What has happened to the need of a call that waits. -/
inductive Signal where
  | answered (server : SocketAddress)
  | unanswered
  /-- Somebody has answered, and the stream could not be set up. -/
  | unusable (cause : Fault)
  | written
  | broken (cause : ProtocolError)
  /-- Something lies in the inbox. -/
  | arrived
  /-- The deadline is not over. -/
  | inTime
  /-- The deadline is over. -/
  | expired
deriving DecidableEq, Repr

/-- Go on with a call that waited.  A signal that has nothing to do with its need
changes nothing. -/
def proceed (now : Milliseconds) (client : Client) (need : Need) (rest : List Step)
    (signal : Signal) : Progress × Client :=
  match need, signal with
  | .server _, .answered server => perform now rest (client.pickUp server)
  | .server address, .unanswered => client.fail (.managerNotFound address) rest
  | .server _, .unusable cause => client.fail (.unusable cause) rest
  | .room _, .written => perform now rest client.advance
  | .room _, .broken cause => client.letGo.fail (.connectionLost cause) rest
  | .message deadline, .arrived => client.seekMessage deadline rest
  | .message _, .expired => (.finished (.ok .nothing), client)
  | .acknowledgement purpose limit deadline held, .arrived =>
      match client.seekAcknowledgement purpose limit deadline held rest with
      | (some progress, client) => (progress, client)
      | (none, client) => perform now rest client
  | .acknowledgement _ limit _ held, .expired =>
      (client.putBack held).fail (.acknowledgementTimeout limit) rest
  | .time deadline, .inTime => client.dropMessage deadline rest
  | .time _, .expired => (.finished (.ok (.emptied false)), client)
  | need, _ => (.waiting need rest, client)

end Client

end MessageBus
