import MessageBus.Proofs.Enrollment
import MessageBus.Proofs.Errands

namespace MessageBus

open Wire

/-!
# What becomes of what arrives

A session is what a client does on one connection, from the moment when it is put through:
it makes calls, things arrive, and the calls go on, in any order.  It ends when the line is
given up, by a call to connect or to disconnect or by a frame that cannot be written.  A
line that is lost because of what was read from it does not end the session, since what was
put back can still be read.

Here a session keeps a ledger, in which each turn gives places to what its errand has come upon.
The client itself keeps two buffers and no ledger, and a call that waits holds a third.
`Client.Session.Reachable.accounted` says that they agree: those that wait are, in order,
what the call holds, what was put back, and the inbox.  So nothing is lost and nothing is seen
twice, in whatever way the waits have ended, and what is read is read in the order of
arrival.
-/

namespace Client

/-- A connection of a client, with a record of what has become of what has arrived on it. -/
structure Session where
  client : Client
  progress : Progress
  /-- What has arrived, the first first. -/
  arrived : List Arrival := []
  ledger : List Entry := []
  /-- What was read, the first first. -/
  read : List Arrival := []

namespace Session

inductive Turn where
  | arrives (arrivals : List Arrival)
  | begins (now : Milliseconds) (call : Call)
  | goesOn (now : Milliseconds) (signal : Signal)

def Turn.arrivals : Turn -> List Arrival
  | .arrives arrivals => arrivals
  | .begins _ _ | .goesOn _ _ => []

/-- Whether it is a turn of the client. -/
def Turn.isOwn : Turn -> Bool
  | .arrives _ => false
  | .begins _ _ | .goesOn _ _ => true

/-- What has arrived and was not taken, with what the call holds. -/
def line (session : Session) : List Arrival :=
  session.progress.held.map .message ++ session.client.inLine

/-- What a turn looks for. -/
def errand? (session : Session) : Turn -> Option Errand
  | .arrives _ => none
  | .begins now call => Errand.ofCall? session.client now call
  | .goesOn now signal =>
      match session.progress with
      | .waiting need rest => Errand.ofNeed? now rest need signal
      | .finished _ => none

/-- The places that a turn gives to what is in line. -/
def places (session : Session) (turn : Turn) : List Place :=
  placesFor (session.errand? turn) session.client session.line

/-- What the client does in a turn. -/
def result (session : Session) : Turn -> Progress × Client
  | .arrives arrivals => (session.progress, session.client.deliver arrivals)
  | .begins now call => session.client.begin now call
  | .goesOn now signal => meet (session.progress, session.client) (.goesOn now signal)

def step (session : Session) (turn : Turn) : Session where
  client := (session.result turn).2
  progress := (session.result turn).1
  arrived := session.arrived ++ turn.arrivals
  ledger := Ledger.settle (session.places turn) session.ledger ++ Ledger.enter turn.arrivals
  read := session.read ++ Ledger.readings (session.places turn) session.line

/-- Nothing arrives without a line or behind the end of the stream, there is one call at a time,
and none gives up the line. -/
def Permits (session : Session) : Turn -> Prop
  | .arrives arrivals =>
      session.client.isConnected = true ∧ IsUnbroken (session.arrived ++ arrivals)
  | .begins _ call => session.progress.isFinished = true ∧ call.keepsLine = true
  | .goesOn _ signal => session.progress.isFinished = false ∧ signal.keepsLine = true

instance (session : Session) : (turn : Turn) -> Decidable (session.Permits turn)
  | .arrives _ => inferInstanceAs (Decidable (_ ∧ _))
  | .begins _ _ => inferInstanceAs (Decidable (_ ∧ _))
  | .goesOn _ _ => inferInstanceAs (Decidable (_ ∧ _))

/-- A session begins when somebody has answered a call to connect. -/
def opened (client : Client) (now : Milliseconds) (address : String) (introduction : Introduction)
    (server : SocketAddress) : Session where
  client := (client.dialled now address introduction server).2
  progress := (client.dialled now address introduction server).1

def run (session : Session) (turns : List Turn) : Session :=
  turns.foldl step session

def PermitsAll (session : Session) : List Turn -> Prop
  | [] => True
  | turn :: rest => session.Permits turn ∧ (session.step turn).PermitsAll rest

instance decidablePermitsAll (session : Session) :
    (turns : List Turn) -> Decidable (session.PermitsAll turns)
  | [] => inferInstanceAs (Decidable True)
  | turn :: rest =>
      have := decidablePermitsAll (session.step turn) rest
      inferInstanceAs (Decidable (_ ∧ _))

inductive Reachable : Session -> Prop where
  | opened (client : Client) (now : Milliseconds) (address : String)
      (introduction : Introduction) (server : SocketAddress) :
      Reachable (opened client now address introduction server)
  | step {session : Session} {turn : Turn} (reachable : Reachable session)
      (permitted : session.Permits turn) : Reachable (session.step turn)

/-! ## The ledger is kept -/

variable {session : Session}

/-- The ledger of a session is true of its client. -/
structure Kept (session : Session) : Prop where
  engaged : Engaged session.progress
  quiet : Quiet session.progress.held session.client
  arrived : session.ledger.map Entry.arrival = session.arrived
  waiting : Ledger.waiting session.ledger = session.line
  inTurn : Ledger.InTurn session.ledger
  read : session.read = Ledger.read session.ledger
  unbroken : IsUnbroken session.arrived

namespace Kept

/-- What stands in line is unbroken, because all of it has arrived. -/
theorem unbroken_inLine (kept : Kept session) : IsUnbroken session.client.inLine := by
  have part : session.client.inLine.Sublist session.arrived := by
    rw [← kept.arrived]
    refine List.Sublist.trans ?_ (Ledger.waiting_sublist session.ledger)
    rw [kept.waiting]
    exact List.sublist_append_right _ _
  exact kept.unbroken.sublist part

theorem opened (client : Client) (now : Milliseconds) (address : String)
    (introduction : Introduction) (server : SocketAddress) :
    Kept (opened client now address introduction server) := by
  let fresh : Client := { client.letGo with pending := [] }
  have quiet : Quiet [] ((fresh.pickUp server).present introduction) :=
    fun _ absent => absurd absent List.not_mem_nil
  have started : ∃ progress, client.dialled now address introduction server =
      (progress, (fresh.pickUp server).present introduction) ∧ Rests progress := by
    have begun : client.dialled now address introduction server =
        (fresh.pickUp server).introduce introduction
          ([] ++ [.acknowledged .enrollment client.settings.ackTimeout]) := rfl
    rw [begun]
    unfold introduce
    dsimp only
    split
    · exact ⟨_, fail_eq _ _ (by simp), rests_of_error rfl⟩
    · exact rests_post (.awaiting .nothing .done) _ _ _ _
  rcases started with ⟨progress, started, rests⟩
  unfold Session.opened
  rw [started]
  exact
    { engaged := rests.engaged
      quiet := by rw [rests.held]; exact quiet
      arrived := rfl
      waiting := by unfold line; rw [rests.held]; rfl
      inTurn := .nil
      read := rfl
      unbroken := .nil }

/-- What a turn of the client does. -/
theorem turned (kept : Kept session) {turn : Turn} (permitted : session.Permits turn)
    (isOwn : turn.isOwn = true) :
    Turned session.client session.progress.held (session.errand? turn) (session.result turn) := by
  have quiet := kept.quiet
  have engaged := kept.engaged
  unfold errand? result
  cases turn with
  | arrives arrivals => cases isOwn
  | begins now call =>
      rcases permitted with ⟨finished, keeps⟩
      cases same : session.progress with
      | waiting need rest =>
          rw [same] at finished
          cases finished
      | finished result =>
          rw [same] at quiet
          exact turned_begin quiet kept.unbroken_inLine now keeps
  | goesOn now signal =>
      rcases permitted with ⟨waits, keeps⟩
      cases same : session.progress with
      | finished result =>
          rw [same] at waits
          cases waits
      | waiting need rest =>
          rw [same] at engaged quiet
          exact turned_proceed engaged quiet kept.unbroken_inLine now keeps

theorem isWhole_places (session : Session) (turn : Turn) :
    Ledger.IsWhole (session.places turn) := by
  unfold places placesFor
  split
  · exact Or.inl (List.forall_mem_nil _)
  · exact Errand.isWhole_places _ _ _

theorem own (kept : Kept session) {turn : Turn} (permitted : session.Permits turn)
    (isOwn : turn.isOwn = true) : Kept (session.step turn) := by
  have turned := kept.turned permitted isOwn
  have silent : turn.arrivals = [] := by
    cases turn with
    | arrives arrivals => cases isOwn
    | begins now call => rfl
    | goesOn now signal => rfl
  have ledger : (session.step turn).ledger =
      Ledger.settle (session.places turn) session.ledger := by
    unfold step
    rw [silent]
    exact List.append_nil _
  have arrived : (session.step turn).arrived = session.arrived := by
    unfold step
    rw [silent]
    exact List.append_nil _
  refine ⟨turned.engaged, turned.quiet, ?_, ?_, ?_, ?_, ?_⟩
  · rw [ledger, arrived, Ledger.arrivals_settle]
    exact kept.arrived
  · rw [ledger, Ledger.waiting_settle, kept.waiting]
    exact turned.line.symm
  · rw [ledger]
    exact kept.inTurn.settle (isWhole_places session turn)
  · rw [ledger, Ledger.read_settle kept.inTurn, kept.waiting, ← kept.read]
    rfl
  · rw [arrived]
    exact kept.unbroken

theorem arrives (kept : Kept session) {arrivals : List Arrival}
    (permitted : session.Permits (.arrives arrivals)) :
    Kept (session.step (.arrives arrivals)) := by
  rcases permitted with ⟨connected, unbroken⟩
  have ledger : (session.step (.arrives arrivals)).ledger =
      session.ledger ++ Ledger.enter arrivals :=
    congrArg (· ++ Ledger.enter arrivals) (Ledger.settle_nil session.ledger)
  have read : (session.step (.arrives arrivals)).read = session.read :=
    (congrArg (session.read ++ ·) (Ledger.readings_nil session.line)).trans (List.append_nil _)
  have line : (session.step (.arrives arrivals)).line = session.line ++ arrivals := by
    unfold Session.line
    rw [List.append_assoc, ← inLine_deliver connected]
    rfl
  refine ⟨kept.engaged, kept.quiet, ?_, ?_, ?_, ?_, unbroken⟩
  · rw [ledger, List.map_append, kept.arrived, Ledger.arrivals_enter]
    rfl
  · rw [ledger, Ledger.waiting_append, kept.waiting, Ledger.waiting_enter, line]
  · rw [ledger]
    exact kept.inTurn.enter arrivals
  · have unread : Ledger.read (Ledger.enter arrivals) = [] :=
      Ledger.read_of_others (Ledger.isRead_enter arrivals)
    rw [ledger, read, Ledger.read_append, unread, List.append_nil]
    exact kept.read

end Kept

theorem Reachable.kept (reachable : session.Reachable) : Kept session := by
  induction reachable with
  | opened client now address introduction server =>
      exact .opened client now address introduction server
  | @step session turn reachable permitted ih =>
      cases turn with
      | arrives arrivals => exact ih.arrives permitted
      | begins now call => exact ih.own permitted rfl
      | goesOn now signal => exact ih.own permitted rfl

theorem Reachable.run (reachable : session.Reachable) {turns : List Turn}
    (permitted : session.PermitsAll turns) : (session.run turns).Reachable := by
  induction turns generalizing session with
  | nil => exact reachable
  | cons turn rest ih => exact ih (reachable.step permitted.1) permitted.2

/-- Whatever a client has done on a connection, all that has arrived has one place each, and
those that wait are what the call holds, what was put back, and what is unread.  What was read
was read in the order of arrival.  No acknowledgement is held or was put back.  And a turn
answers what it has come upon in line: a reading the first message that is wanted, a wait the
first acknowledgement, and either of them, if it comes before, what has to be reported. -/
theorem Reachable.accounted (reachable : session.Reachable) :
    session.ledger.map Entry.arrival = session.arrived ∧
      Ledger.waiting session.ledger = session.line ∧
      session.read = Ledger.read session.ledger ∧
      Ledger.InTurn session.ledger ∧
      (∀ message ∈ session.progress.held ++ session.client.pending, message.isAnswer = false) ∧
      ∀ turn : Turn, session.Permits turn -> turn.isOwn = true ->
        Deals session.client session.line (session.errand? turn) (session.places turn)
          (session.result turn).1 := by
  have kept := reachable.kept
  exact ⟨kept.arrived, kept.waiting, kept.read, kept.inTurn,
    fun message here => (kept.quiet message here).2,
    fun turn permitted isOwn => (kept.turned permitted isOwn).deals⟩

/-- A logger that was let in while messages came in, has read one of them, and has waited for
an acknowledgement that did not come. -/
def expectant : Session :=
  let note (messageType : MessageType) : Message :=
    { header := { messageType }, timecode := none, payload := [] }
  let caller : Client := { settings := {}, pid := 1, clock := {}, moduleId := 0 }
  let called := opened caller 0 "127.0.0.1:7111" { isLogger := true } ⟨.v4 [127, 0, 0, 1], 7111, 0⟩
  called.run
    [.goesOn 0 .written,
      .arrives [.message (note 5), .message (note MessageType.acknowledge), .message (note 6)],
      .goesOn 0 .arrived, .begins 0 (.read none), .begins 0 (.awaitAcknowledgement 10),
      .goesOn 10 .expired]

theorem accounted_of_expectant :
    let next := Turn.begins 10 (.read none)
    expectant.ledger.map Entry.place = [.returned, .consumed, .waiting] ∧
      Ledger.waiting expectant.ledger = expectant.line ∧
      expectant.client.pending.map Message.messageType = [6] ∧
      expectant.places next = [.returned] ∧
      Deals expectant.client expectant.line (expectant.errand? next) (expectant.places next)
        (expectant.result next).1 := by
  intro next
  have reached : expectant.Reachable := (Reachable.opened _ _ _ _ _).run (by decide +kernel)
  have accounted := reached.accounted
  exact ⟨by decide +kernel, accounted.2.1, by decide +kernel, by decide +kernel,
    accounted.2.2.2.2.2 next (by decide +kernel) rfl⟩

end Session

end Client

end MessageBus
