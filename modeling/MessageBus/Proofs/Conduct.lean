import Mathlib
import MessageBus.Proofs.Scanning

namespace MessageBus

open Wire

/-!
# What a call can do to its client

There are many calls, and a call can wait in many places.  But all that a call does to its
client between two such places is a row of few deeds: it looks along the line and puts
messages back, gives up the line, presents itself, is let in, takes note of a type, or
forgets the connection.  None of them sends anything.  What remains is done from outside:
somebody answers, or a frame has gone out (`Client.satisfy`).

`Client.conducted_perform` and `Client.conducted_proceed` say this once for all calls, and
where the call stops.  If it stops to send a frame, the frame is that of a message which
one of its steps was to send, or that of its introduction, and it is the frame that the
client would make now.  Whatever each deed preserves is therefore preserved by every call.
-/

namespace Client

variable {client between after : Client} {message : Message} {rest steps : List Step}
  {result : Progress × Client}

/-! ## Looking sends nothing -/

theorem messageCount_next (client : Client) : client.next.2.messageCount = client.messageCount := by
  unfold next
  split
  · rfl
  · split
    · rfl
    · split
      · rfl
      · dsimp only
        split
        · rfl
        · split <;> rfl

theorem messageCount_scan (ends : Message -> Bool) (client : Client) :
    (client.scan ends).2.2.messageCount = client.messageCount := by
  fun_induction scan ends client with
  | case1 client message after taken found =>
      have kept := messageCount_next client
      rwa [taken] at kept
  | case2 client message after taken other search passed last walked ih =>
      have kept := messageCount_next client
      rw [taken] at kept
      rw [walked] at ih
      exact ih.trans kept
  | case3 client stopped after other taken =>
      have kept := messageCount_next client
      rwa [taken] at kept

/-! ## Deeds -/

/-- One thing that a call does to its client. -/
inductive Deed : Client -> Client -> Prop where
  | looks {client after : Client} {search : Search} (looked : Looked client search after)
      (messageCount : after.messageCount = client.messageCount) : Deed client after
  | putsBack (client : Client) (held : List Message) : Deed client (client.putBack held)
  | letsGo (client : Client) : Deed client client.letGo
  /-- What was put back belonged to an earlier connection. -/
  | forgets (client : Client) : Deed client { client with pending := [] }
  | presents (client : Client) (introduction : Introduction) :
      Deed client (client.present introduction)
  | enrolls (client : Client) (acknowledgement : Message) :
      Deed client (client.enroll acknowledgement)
  | marks (client : Client) (messageType : MessageType) (standing : Standing) :
      Deed client (client.mark messageType standing)
  | hangsUp (client : Client) : Deed client client.hangUp

/-- One deed after the other. -/
abbrev Deeds : Client -> Client -> Prop :=
  Relation.ReflTransGen Deed

namespace Deeds

theorem refl (client : Client) : Deeds client client :=
  Relation.ReflTransGen.refl

theorem one (deed : Deed client after) : Deeds client after :=
  Relation.ReflTransGen.single deed

/-- What each deed preserves is preserved. -/
theorem preserve {holds : Client -> Prop} (deeds : Deeds client after)
    (each : ∀ {client after : Client}, Deed client after -> holds client -> holds after)
    (before : holds client) : holds after := by
  induction deeds with
  | refl => exact before
  | tail early deed ih => exact each deed ih

theorem scan (ends : Message -> Bool) (client : Client) :
    Deeds client (client.scan ends).2.2 :=
  one (.looks (looked_scan ends client) (messageCount_scan ends client))

end Deeds

/-- No deed uses up a number. -/
theorem Deed.messageCount (deed : Deed client after) :
    after.messageCount = client.messageCount := by
  cases deed with
  | looks looked messageCount => exact messageCount
  | marks messageType standing => cases standing <;> rfl
  | putsBack | letsGo | forgets | presents | enrolls | hangsUp => rfl

theorem Deed.settings (deed : Deed client after) : after.settings = client.settings := by
  cases deed with
  | looks looked messageCount => exact (congrArg Client.settings looked.bare :)
  | marks messageType standing => cases standing <;> rfl
  | putsBack | letsGo | forgets | presents | enrolls | hangsUp => rfl

theorem Deeds.messageCount (deeds : Deeds client after) :
    after.messageCount = client.messageCount :=
  deeds.preserve (fun deed same => deed.messageCount.trans same) rfl

theorem Deeds.settings (deeds : Deeds client after) : after.settings = client.settings :=
  deeds.preserve (fun deed same => deed.settings.trans same) rfl

/-! ## Where a call stops -/

/-- Whether a call that goes on looks along the line again. -/
def Need.looks : Need -> Bool
  | .message _ | .acknowledgement _ _ _ _ | .time _ => true
  | .server _ | .room _ => false

/-- Where a call stops that has these steps to do, and what it leaves of them. -/
inductive Halts (steps : List Step) (client : Client) : Progress -> Prop where
  | finished (result : Except ClientError Reply) : Halts steps client (.finished result)
  | dialling {address : String} {rest : List Step} (left : .dial address :: rest <:+ steps) :
      Halts steps client (.waiting (.server address) rest)
  | looking {need : Need} {rest : List Step} (looks : need.looks = true)
      (left : rest <:+ steps) : Halts steps client (.waiting need rest)
  | sending {message : Message} {module : ModuleId} {host : HostId} {frame : Bytes}
      {rest : List Step} (left : .send message module host :: rest <:+ steps)
      (framed : client.frame message module host = .ok frame) :
      Halts steps client (.waiting (.room frame) rest)
  | presenting {before : Client} {introduction : Introduction} {request : Connect}
      {frame : Bytes} {rest : List Step} (left : .present introduction :: rest <:+ steps)
      (presented : client = before.present introduction)
      (framed : client.frame (Message.ofPayload client.clock request) 0 0 = .ok frame) :
      Halts steps client (.waiting (.room frame) rest)

/-- Fewer steps are part of more. -/
theorem Halts.mono {fewer : List Step} {progress : Progress} (halts : Halts fewer client progress)
    (part : fewer <:+ steps) : Halts steps client progress := by
  cases halts with
  | finished ended => exact .finished ended
  | dialling left => exact .dialling (left.trans part)
  | looking looks left => exact .looking looks (left.trans part)
  | sending left framed => exact .sending (left.trans part) framed
  | presenting left presented framed => exact .presenting (left.trans part) presented framed

/-- A call has done some of its steps, and has stopped. -/
structure Conducted (steps : List Step) (client : Client) (result : Progress × Client) :
    Prop where
  deeds : Deeds client result.2
  halts : Halts steps result.2 result.1

namespace Conducted

theorem trans (early : Deeds client between) (late : Conducted steps between result) :
    Conducted steps client result :=
  ⟨early.trans late.deeds, late.halts⟩

theorem mono {fewer : List Step} (conducted : Conducted fewer client result)
    (part : fewer <:+ steps) : Conducted steps client result :=
  ⟨conducted.deeds, conducted.halts.mono part⟩

theorem finished (deeds : Deeds client after) (ended : Except ClientError Reply) :
    Conducted steps client (.finished ended, after) :=
  ⟨deeds, .finished ended⟩

theorem fail (client : Client) (error : ClientError) (rest : List Step) :
    Conducted steps client (client.fail error rest) := by
  unfold Client.fail
  split
  · exact finished (.one (.hangsUp client)) _
  · exact finished (.refl client) _

theorem post (client : Client) (message : Message) (module : ModuleId) (host : HostId)
    (rest : List Step) :
    Conducted (.send message module host :: rest) client
      (client.post message module host rest) := by
  unfold Client.post
  cases framed : client.frame message module host with
  | error error => exact fail client error rest
  | ok frame => exact ⟨.refl client, .sending (List.suffix_refl _) framed⟩

theorem introduce (client : Client) (introduction : Introduction) (rest : List Step) :
    Conducted (.present introduction :: rest) client (client.introduce introduction rest) := by
  refine .trans (.one (.presents client introduction)) ?_
  unfold Client.introduce
  dsimp only
  split
  · exact fail _ _ rest
  · next request built =>
    unfold Client.post
    cases framed : (client.present introduction).frame
        (Message.ofPayload (client.present introduction).clock request) 0 0 with
    | error error => exact fail _ error rest
    | ok frame => exact ⟨.refl _, .presenting (List.suffix_refl _) rfl framed⟩

theorem afterRead (client : Client) {found : Message -> Progress} {nothing : Progress}
    (stops : ∀ message after, Halts rest after (found message))
    (runsOut : ∀ after, Halts rest after nothing) :
    Conducted rest client (client.afterRead rest found nothing) := by
  have deeds : Deeds client client.read.2 := by
    rw [read_eq]
    exact .scan _ client
  unfold Client.afterRead
  generalize client.read = result at deeds
  rcases result with ⟨search, after⟩
  cases search with
  | found message => exact ⟨deeds, stops message after⟩
  | failed error => exact .trans deeds (fail after error rest)
  | nothing => exact ⟨deeds, runsOut after⟩

theorem seekMessage (client : Client) (deadline : Option Milliseconds) (rest : List Step) :
    Conducted rest client (client.seekMessage deadline rest) :=
  afterRead client (fun _ _ => .finished _) fun _ => .looking rfl (List.suffix_refl _)

theorem dropMessage (client : Client) (deadline : Milliseconds) (rest : List Step) :
    Conducted rest client (client.dropMessage deadline rest) :=
  afterRead client (fun _ _ => .looking rfl (List.suffix_refl _)) fun _ => .finished _

/-- A call that looks for an acknowledgement goes on behind it, or waits, or ends. -/
theorem seekAcknowledgement (client : Client) (now : Milliseconds) (purpose : Purpose)
    (limit deadline : Milliseconds) (held : List Message) (rest : List Step)
    (later : ∀ client, Conducted rest client (perform now rest client)) :
    Conducted rest client
      (match client.seekAcknowledgement purpose limit deadline held rest with
        | (some progress, client) => (progress, client)
        | (none, client) => perform now rest client) := by
  have deeds : Deeds client (client.findAcknowledgement held).2.2 := by
    rw [findAcknowledgement_eq]
    exact .scan _ client
  unfold Client.seekAcknowledgement
  generalize client.findAcknowledgement held = result at deeds
  rcases result with ⟨search, passed, after⟩
  have back : Deeds client (after.putBack passed) := deeds.tail (.putsBack after passed)
  cases search with
  | found message =>
      cases purpose with
      | enrollment => exact .trans (back.tail (.enrolls _ message)) (later _)
      | progress => exact .trans back (later _)
      | answer => exact finished back _
  | failed error => exact .trans back (fail _ error rest)
  | nothing => exact ⟨deeds, .looking rfl (List.suffix_refl _)⟩

end Conducted

/-- What a call does that has these steps to do. -/
theorem conducted_perform (now : Milliseconds) (steps : List Step) (client : Client) :
    Conducted steps client (perform now steps client) := by
  induction steps generalizing client with
  | nil => exact .finished (.refl client) _
  | cons step rest ih =>
      have part : rest <:+ step :: rest := List.suffix_cons step rest
      cases step with
      | letGo =>
          have deeds : Deeds client { client.letGo with pending := [] } :=
            (Deeds.one (.letsGo client)).tail (.forgets client.letGo)
          exact .trans deeds ((ih _).mono part)
      | dial address => exact ⟨.refl client, .dialling (List.suffix_refl _)⟩
      | present introduction => exact .introduce client introduction rest
      | send message module host => exact .post client message module host rest
      | mark messageType standing =>
          exact .trans (.one (.marks client messageType standing)) ((ih _).mono part)
      | acknowledged purpose limit =>
          exact (Conducted.seekAcknowledgement client now purpose limit _ [] rest ih).mono part
      | read limit => exact (Conducted.seekMessage client _ rest).mono part
      | discard limit => exact (Conducted.dropMessage client _ rest).mono part
      | hangUp => exact .trans (.one (.hangsUp client)) ((ih _).mono part)

/-- The client when somebody has answered or a frame has gone out, if that is what it waited
for. -/
def satisfy (client : Client) : Need -> Signal -> Client
  | .server _, .answered server => client.pickUp server
  | .room _, .written => client.advance
  | _, _ => client

/-- A call goes on with the steps behind its need, unless the signal has nothing to do with the
need. -/
theorem conducted_proceed (now : Milliseconds) (client : Client) (need : Need)
    (rest : List Step) (signal : Signal) :
    (client.proceed now need rest signal = (.waiting need rest, client) ∧
        client.satisfy need signal = client) ∨
      Conducted rest (client.satisfy need signal) (client.proceed now need rest signal) := by
  cases need with
  | server address =>
      cases signal with
      | answered server => exact Or.inr (conducted_perform now rest (client.pickUp server))
      | unanswered => exact Or.inr (.fail client _ rest)
      | unusable cause => exact Or.inr (.fail client _ rest)
      | written | broken | arrived | inTime | expired => exact Or.inl ⟨rfl, rfl⟩
  | room frame =>
      cases signal with
      | written => exact Or.inr (conducted_perform now rest client.advance)
      | broken cause => exact Or.inr (.trans (.one (.letsGo client)) (.fail client.letGo _ rest))
      | answered | unanswered | unusable | arrived | inTime | expired =>
          exact Or.inl ⟨rfl, rfl⟩
  | message deadline =>
      cases signal with
      | arrived => exact Or.inr (.seekMessage client deadline rest)
      | expired => exact Or.inr (.finished (.refl client) _)
      | answered | unanswered | unusable | written | broken | inTime => exact Or.inl ⟨rfl, rfl⟩
  | acknowledgement purpose limit deadline held =>
      cases signal with
      | arrived =>
          exact Or.inr (.seekAcknowledgement client now purpose limit deadline held rest
            (conducted_perform now rest))
      | expired =>
          exact Or.inr (.trans (.one (.putsBack client held)) (.fail _ _ rest))
      | answered | unanswered | unusable | written | broken | inTime => exact Or.inl ⟨rfl, rfl⟩
  | time deadline =>
      cases signal with
      | inTime => exact Or.inr (.dropMessage client deadline rest)
      | expired => exact Or.inr (.finished (.refl client) _)
      | answered | unanswered | unusable | written | broken | arrived => exact Or.inl ⟨rfl, rfl⟩

/-- A call begins with its steps, or is wrong from the start. -/
theorem conducted_begin (now : Milliseconds) (client : Client) (call : Call) :
    (∃ error, client.begin now call = (.finished (.error error), client)) ∨
      ∃ steps, client.steps call = .ok steps ∧
        Conducted steps client (client.begin now call) := by
  unfold Client.begin
  cases begun : client.steps call with
  | error error => exact Or.inl ⟨error, fail_eq client error List.not_mem_nil⟩
  | ok steps => exact Or.inr ⟨steps, rfl, conducted_perform now steps client⟩

end Client

end MessageBus
