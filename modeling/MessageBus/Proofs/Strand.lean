import MessageBus.Proofs.Numbering
import MessageBus.Proofs.Isolation
import MessageBus.Network.Basic

namespace MessageBus

open Wire

/-!
# What one writer puts on the wire

A `Strand` is one connection of a service that runs in a network, together with three accounts
that nobody in the network keeps: which frames its queue has taken, which bytes the other end has
taken off the stream, and which events its writer has reported.  Whatever happens around it, a
strand is in order: what is on the wire, together with what its writer still has to write, are
the frames of the queue, one after the other, each with its number (`Strand.InOrder`).

The stream may take any number of bytes at a time, and may fail before any byte.  The failure is
reported once, and from then on the strand stays as it is.
-/

namespace Outbound

/-- The writer's count behind some frames. -/
def countAfter (count : Int32) (outbounds : List Outbound) : Int32 :=
  outbounds.foldl (fun count outbound => (outbound.numbered count).2) count

theorem numberAll_append (count : Int32) (first second : List Outbound) :
    numberAll count (first ++ second) =
      numberAll count first ++ numberAll (countAfter count first) second := by
  induction first generalizing count with
  | nil => rfl
  | cons outbound rest ih => exact congrArg (List.cons _) (ih _)

theorem countAfter_append (count : Int32) (first second : List Outbound) :
    countAfter count (first ++ second) = countAfter (countAfter count first) second :=
  List.foldl_append

end Outbound

namespace Writer

/-- The count behind everything that waits in the queue. -/
def lastCount (writer : Writer) : Int32 :=
  Outbound.countAfter writer.count writer.queue

theorem lastCount_write (writer : Writer) (room : Nat) :
    (writer.write room).2.lastCount = writer.lastCount := by
  rcases writer with ⟨queue, count, current⟩
  unfold write lastCount
  induction queue generalizing room count current with
  | nil => rfl
  | cons outbound rest ih =>
      unfold writeQueue
      split
      · exact ih ..
      · rfl

theorem lastCount_push (writer : Writer) (outbound : Outbound) :
    (writer.push outbound).lastCount = Outbound.countAfter writer.lastCount [outbound] :=
  Outbound.countAfter_append ..

theorem remaining_push (writer : Writer) (outbound : Outbound) :
    (writer.push outbound).remaining =
      writer.remaining ++ (Outbound.numberAll writer.lastCount [outbound]).flatten := by
  unfold remaining push lastCount
  rw [Outbound.numberAll_append, List.flatten_append, List.append_assoc]

theorem remaining_of_isIdle {writer : Writer} (idle : writer.isIdle = true) :
    writer.remaining = [] := by
  unfold isIdle at idle
  rcases Bool.and_eq_true_iff.mp idle with ⟨current, queue⟩
  rw [remaining, List.isEmpty_iff.mp current, List.isEmpty_iff.mp queue]
  rfl

/-- The stream gets as much as it has room for. -/
theorem write_eq_take (writer : Writer) (room : Nat) :
    (writer.write room).1 = writer.remaining.take room := by
  rcases writer with ⟨queue, count, current⟩
  unfold write remaining
  induction queue generalizing room count current with
  | nil => simp [writeQueue, Outbound.numberAll]
  | cons outbound rest ih =>
      unfold writeQueue
      split
      · next fits =>
        have later := ih (room - current.length) (outbound.numbered count).2
          (outbound.numbered count).1
        dsimp only at later fits ⊢
        rw [later, Outbound.numberAll, List.flatten_cons]
        generalize (outbound.numbered count).1 ++
          (Outbound.numberAll (outbound.numbered count).2 rest).flatten = left
        calc current ++ left.take (room - current.length)
            = current.take room ++ left.take (room - current.length) := by
              rw [List.take_of_length_le fits]
          _ = (current ++ left).take room := List.take_append.symm
      · next large =>
        rw [List.take_append_of_le_length (Nat.le_of_not_le large)]

end Writer

/-! ## Connections of a service -/

namespace Service

variable {service next : Service} {handle other : Handle} {events : List Event} {worker : Worker}

def connection? (service : Service) (handle : Handle) : Option Connection :=
  service.connections.find? (·.handle = handle)

/-- The events that the loop has not taken yet, in the channel and in line for it. -/
def reported (service : Service) : List Event :=
  service.channel ++ service.line.map Prod.snd

theorem reported_post (service : Service) (worker : Worker) (events : List Event) :
    (service.post worker events).reported = service.reported ++ events := by
  unfold post reported room
  cases service.line with
  | nil => simp [List.splitAt_eq]
  | cons first rest => simp [List.splitAt_eq, Function.comp_def]

/-- A change of the connections of one handle, seen from any handle. -/
theorem find?_map_if {connections : List Connection} {change : Connection -> Connection}
    (keeps : ∀ connection, (change connection).handle = connection.handle) :
    (connections.map fun connection =>
      if connection.handle = other then change connection else connection).find?
        (·.handle = handle) =
      (connections.find? (·.handle = handle)).map fun connection =>
        if connection.handle = other then change connection else connection := by
  have sameHandle : ∀ connection : Connection,
      (if connection.handle = other then change connection else connection).handle =
        connection.handle := by
    intro connection
    split
    · exact keeps connection
    · rfl
  rw [List.find?_map]
  simp only [Function.comp_def, sameHandle]

theorem handle_of_connection? {connection : Connection}
    (found : service.connection? handle = some connection) : connection.handle = handle := by
  simpa using List.find?_some found

theorem connection?_change_self {change : Connection -> Connection}
    (keeps : ∀ connection, (change connection).handle = connection.handle)
    {connection : Connection} (found : service.connection? handle = some connection) :
    (service.change handle change).connection? handle = some (change connection) := by
  refine (find?_map_if keeps).trans ?_
  have here : service.connections.find? (·.handle = handle) = some connection := found
  rw [here, Option.map_some, if_pos (handle_of_connection? found)]

theorem connection?_change_of_ne {change : Connection -> Connection}
    (keeps : ∀ connection, (change connection).handle = connection.handle)
    (different : other ≠ handle) :
    (service.change other change).connection? handle = service.connection? handle := by
  refine (find?_map_if keeps).trans ?_
  unfold connection?
  cases found : service.connections.find? (·.handle = handle) with
  | none => rfl
  | some connection =>
      have here : connection.handle = handle := by simpa using List.find?_some found
      rw [Option.map_some, if_neg]
      rw [here]
      exact different.symm

end Service

/-! ## Links of a network -/

namespace Link

variable {links : Array Link} {index other : Nat} {change : Link -> Link}

theorem getD_modify_self (inside : index < links.size) :
    (links.modify index change).getD index { capacity := 0 } =
      change (links.getD index { capacity := 0 }) := by
  rw [Array.getD_eq_getD_getElem?, Array.getD_eq_getD_getElem?, Array.getElem?_modify, if_pos rfl,
    Array.getElem?_eq_getElem inside]
  rfl

theorem getD_modify_of_ne (different : other ≠ index) :
    (links.modify other change).getD index { capacity := 0 } =
      links.getD index { capacity := 0 } := by
  simp [Array.getD_eq_getD_getElem?, Array.getElem?_modify, different]

end Link

/-! ## The turn of one writer -/

namespace Network

variable {service next : Service} {links nextLinks : Array Link} {connection : Connection}
  {moved : Bool}

/-- What a writer does when it is its turn: it has nothing to write, or finds that the other end
is gone, or writes as much as there is room for. -/
inductive Turn (service : Service) (links : Array Link) (connection : Connection) :
    Service -> Array Link -> Prop where
  | rested (nothing : connection.isBroken = true ∨ connection.writer.isIdle = true) :
      Turn service links connection service links
  | failed (whole : connection.isBroken = false)
      (gone : (links.getD connection.link { capacity := 0 }).isGone .caller = true) :
      Turn service links connection (service.fail connection.handle (.ofFault .brokenPipe))
        (links.modify connection.link (·.stopWriting .answerer))
  | wrote {room : Nat} (whole : connection.isBroken = false)
      (there : (links.getD connection.link { capacity := 0 }).isGone .caller = false)
      (room_eq : room = (links.getD connection.link { capacity := 0 }).room .answerer) :
      Turn service links connection
        (service.change connection.handle fun other =>
          { other with writer := (connection.writer.write room).2 })
        (links.modify connection.link (·.write .answerer (connection.writer.write room).1))

theorem turn_of_writeAll
    (wrote : writeAll service links [connection] = (moved, next, nextLinks)) :
    Turn service links connection next nextLinks := by
  unfold writeAll at wrote
  dsimp only at wrote
  split at wrote
  · next nothing =>
    cases wrote
    exact .rested (Bool.or_eq_true_iff.mp nothing)
  · next busy =>
    have whole := (Bool.or_eq_false_iff.mp (Bool.eq_false_of_not_eq_true busy)).1
    split at wrote
    · next gone =>
      cases wrote
      exact .failed whole gone
    · next there =>
      cases wrote
      exact .wrote whole (Bool.eq_false_of_not_eq_true there) rfl

namespace Turn

variable {handle : Handle} {index : Nat}

theorem size (turn : Turn service links connection next nextLinks) :
    nextLinks.size = links.size := by
  cases turn with
  | rested nothing => rfl
  | failed whole gone => exact Array.size_modify
  | wrote whole there room_eq => exact Array.size_modify

/-- Reports are only added. -/
theorem exists_reported (turn : Turn service links connection next nextLinks) :
    ∃ reported, next.reported = service.reported ++ reported := by
  cases turn with
  | rested nothing => exact ⟨[], (List.append_nil _).symm⟩
  | failed whole gone => exact ⟨_, Service.reported_post ..⟩
  | wrote whole there room_eq => exact ⟨[], (List.append_nil _).symm⟩

theorem connection?_of_ne (turn : Turn service links connection next nextLinks)
    (different : connection.handle ≠ handle) :
    next.connection? handle = service.connection? handle := by
  cases turn with
  | rested nothing => rfl
  | failed whole gone =>
      refine Service.connection?_change_of_ne ?_ different
      exact fun _ => rfl
  | wrote whole there room_eq =>
      refine Service.connection?_change_of_ne ?_ different
      exact fun _ => rfl

theorem link_of_ne (turn : Turn service links connection next nextLinks)
    (different : connection.link ≠ index) :
    nextLinks.getD index { capacity := 0 } = links.getD index { capacity := 0 } := by
  cases turn with
  | rested nothing => rfl
  | failed whole gone => exact Link.getD_modify_of_ne different
  | wrote whole there room_eq => exact Link.getD_modify_of_ne different

end Turn

/-- The writers have their turns one after the other. -/
theorem writeAll_cons (service : Service) (links : Array Link) (connection : Connection)
    (rest : List Connection) :
    writeAll service links (connection :: rest) =
      let first := writeAll service links [connection]
      let later := writeAll first.2.1 first.2.2 rest
      (first.1 || later.1, later.2) := by
  simp only [writeAll, Bool.or_false]

end Network

/-! ## One strand -/

/-- A service in a network, with accounts of what became of one connection. -/
structure Strand where
  service : Service
  links : Array Link
  /-- The frames that the connection's queue has taken. -/
  queued : List Outbound := []
  /-- The bytes that the other end has taken off the stream. -/
  heard : Bytes := []
  /-- What the connection's writer has reported. -/
  reports : List Event := []

namespace Strand

def link (strand : Strand) (index : Nat) : Link :=
  strand.links.getD index { capacity := 0 }

/-- Everything that was put on the wire. -/
def wire (strand : Strand) (index : Nat) : Bytes :=
  strand.heard ++ ((strand.link index).incoming .caller).contents

/-- What the frames of the queue are on the wire. -/
def due (strand : Strand) : Bytes :=
  (Outbound.numberAll 0 strand.queued).flatten

/-- What can happen to the strand of a connection and its link: a frame is offered to some queue,
the writer has a turn, the other end reads, or something happens that concerns neither the writer
nor what is on the wire. -/
inductive Step (handle : Handle) (index : Nat) (before : Strand) : Strand -> Prop where
  | offered {module : Module} {outbound : Outbound} {isOver : Bool} {outcome : Outcome}
      {queues : Service.Queues}
      (offered : Service.Queues.offer before.service.settings
        { connections := before.service.connections, isOver } module outbound =
          some (outcome, queues)) :
      Step handle index before
        { before with
          service := { before.service with connections := queues.connections }
          queued :=
            if module.handle = handle ∧ outcome = .delivered then before.queued ++ [outbound]
            else before.queued }
  | written {connection : Connection} {moved : Bool} {service : Service} {links : Array Link}
      {reported : List Event} (found : before.service.connection? handle = some connection)
      (wrote : Network.writeAll before.service before.links [connection] =
        (moved, service, links))
      (reports : service.reported = before.service.reported ++ reported) :
      Step handle index before
        { before with service, links, reports := before.reports ++ reported }
  | heard {bytes rest : Bytes}
      (there : ((before.link index).incoming .caller).contents = bytes ++ rest) :
      Step handle index before
        { before with
          links := before.links.modify index (·.leave .caller rest)
          heard := before.heard ++ bytes }
  | elsewhere {service : Service} {links : Array Link}
      (same : ∀ connection, before.service.connection? handle = some connection ->
        ∃ later, service.connection? handle = some later ∧ later.link = connection.link ∧
          later.writer = connection.writer ∧ later.isBroken = connection.isBroken)
      (inside : index < links.size)
      (still : ((links.getD index { capacity := 0 }).incoming .caller).contents =
        ((before.link index).incoming .caller).contents) :
      Step handle index before { before with service, links }

/-- Any number of such steps. -/
abbrev Run (handle : Handle) (index : Nat) : Strand -> Strand -> Prop :=
  Relation.ReflTransGen (Step handle index)

/-- The connection has been accepted, and nothing was put into its queue. -/
structure IsFresh (handle : Handle) (index : Nat) (strand : Strand) : Prop where
  accepted : ∃ connection, strand.service.connection? handle = some connection ∧
    connection.link = index ∧ connection.writer = {} ∧ connection.isBroken = false
  inside : index < strand.links.size
  silent : strand.wire index = []
  queued : strand.queued = []
  reports : strand.reports = []

/-- The record of the connection agrees with the accounts. -/
structure InOrder (handle : Handle) (index : Nat) (strand : Strand) (connection : Connection) :
    Prop where
  found : strand.service.connection? handle = some connection
  linked : connection.link = index
  inside : index < strand.links.size
  count : connection.isBroken = false ->
    connection.writer.lastCount = Outbound.countAfter 0 strand.queued
  whole : connection.isBroken = false ->
    strand.wire index ++ connection.writer.remaining = strand.due ∧ strand.reports = []
  broken : connection.isBroken = true ->
    strand.wire index <+: strand.due ∧ ∃ cause, strand.reports = [.ended handle cause]

/-- What stays as it is once the stream has failed. -/
def Ends (index : Nat) (before after : Strand) : Prop :=
  after.wire index = before.wire index ∧ after.queued = before.queued ∧
    after.reports = before.reports

variable {handle : Handle} {index : Nat} {before after strand : Strand}
  {connection : Connection}

theorem IsFresh.inOrder (fresh : strand.IsFresh handle index) :
    ∃ connection, strand.InOrder handle index connection := by
  rcases fresh.accepted with ⟨connection, found, linked, idle, whole⟩
  have due : strand.due = [] := by rw [Strand.due, fresh.queued]; rfl
  refine ⟨connection, found, linked, fresh.inside, fun _ => ?_, fun _ => ⟨?_, fresh.reports⟩, ?_⟩
  · rw [idle, fresh.queued]
    rfl
  · rw [fresh.silent, idle, due]
    rfl
  · intro broken
    rw [whole] at broken
    cases broken

theorem wire_write (strand : Strand) (inside : index < strand.links.size) (bytes : Bytes) :
    ({ strand with links := strand.links.modify index (·.write .answerer bytes) } : Strand).wire
      index = strand.wire index ++ bytes := by
  rw [Strand.wire, Strand.link, Link.getD_modify_self inside, Strand.wire, Strand.link,
    List.append_assoc, ← Pipe.contents_write]
  rfl

/-- The accounts still agree, and if the stream has failed then nothing was added to them. -/
def KeepsOrder (handle : Handle) (index : Nat) (before : Strand) (connection : Connection)
    (after : Strand) : Prop :=
  ∃ later, after.InOrder handle index later ∧
    (connection.isBroken = true -> later.isBroken = true ∧ Ends index before after)

/-- What concerns neither the writer nor any of the accounts keeps the order. -/
theorem InOrder.of_same (order : before.InOrder handle index connection) {later : Connection}
    (found : after.service.connection? handle = some later) (link : later.link = connection.link)
    (writer : later.writer = connection.writer) (isBroken : later.isBroken = connection.isBroken)
    (inside : index < after.links.size) (ends : Ends index before after) :
    KeepsOrder handle index before connection after := by
  rcases ends with ⟨wire, queued, reports⟩
  have due : after.due = before.due := by
    unfold due
    rw [queued]
  refine ⟨later, ⟨found, link.trans order.linked, inside, ?count, ?whole, ?broken⟩,
    fun broken => ⟨isBroken.trans broken, wire, queued, reports⟩⟩
  case count =>
    rw [isBroken, writer, queued]
    exact order.count
  case whole =>
    rw [isBroken, wire, writer, due, reports]
    exact order.whole
  case broken =>
    rw [isBroken, wire, due, reports]
    exact order.broken

/-! ## What every step keeps up -/

/-- A queue takes a frame only while its stream is whole, and at the end. -/
theorem InOrder.offered (order : before.InOrder handle index connection) {module : Module}
    {outbound : Outbound} {isOver : Bool} {outcome : Outcome} {queues : Service.Queues}
    (offered : Service.Queues.offer before.service.settings
      { connections := before.service.connections, isOver } module outbound =
        some (outcome, queues)) :
    KeepsOrder handle index before connection
      { before with
        service := { before.service with connections := queues.connections }
        queued :=
          if module.handle = handle ∧ outcome = .delivered then before.queued ++ [outbound]
          else before.queued } := by
  have answers := Service.Queues.answers_of_offer offered
  generalize queues.connections = connections at answers
  have found : before.service.connections.find? (·.handle = handle) = some connection :=
    order.found
  cases answers with
  | full | closed | timedOut =>
      refine order.of_same found rfl rfl rfl order.inside ⟨rfl, if_neg ?_, rfl⟩
      rintro ⟨_, delivered⟩
      cases delivered
  | @taken other foundOther whole room =>
      let push (connection : Connection) : Connection :=
        { connection with writer := connection.writer.push outbound }
      have pushed : (before.service.change module.handle push).connection? handle = _ :=
        Service.find?_map_if fun _ => rfl
      rw [found, Option.map_some, Service.handle_of_connection? order.found] at pushed
      by_cases own : module.handle = handle
      · subst own
        obtain rfl : other = connection := Option.some.inj (foundOther.symm.trans found)
        rw [if_pos rfl] at pushed
        have count := order.count whole
        rw [if_pos ⟨rfl, rfl⟩]
        have stays : ¬ other.isBroken = true :=
          fun broken => Bool.false_ne_true (whole.symm.trans broken)
        refine ⟨push other, ⟨pushed, order.linked, order.inside, fun _ => ?_, fun _ => ⟨?_, ?_⟩,
          fun broken => absurd broken stays⟩, fun broken => absurd broken stays⟩
        · rw [Outbound.countAfter_append, ← count]
          exact Writer.lastCount_push ..
        · rw [due, Outbound.numberAll_append, List.flatten_append, ← count]
          show before.wire index ++ (other.writer.push outbound).remaining = before.due ++ _
          rw [Writer.remaining_push, ← List.append_assoc, (order.whole whole).1]
        · exact (order.whole whole).2
      · rw [if_neg (Ne.symm own)] at pushed
        refine order.of_same pushed rfl rfl rfl order.inside ⟨rfl, if_neg ?_, rfl⟩
        exact fun both => own both.1

/-- The writer's turn. -/
theorem InOrder.written (order : before.InOrder handle index connection) {moved : Bool}
    {service : Service} {links : Array Link} {reported : List Event}
    (wrote : Network.writeAll before.service before.links [connection] = (moved, service, links))
    (reports : service.reported = before.service.reported ++ reported) :
    KeepsOrder handle index before connection
      { before with service, links, reports := before.reports ++ reported } := by
  obtain rfl := order.linked
  cases Network.turn_of_writeAll wrote with
  | rested nothing =>
      have silent : reported = [] := List.append_right_eq_self.mp reports.symm
      refine order.of_same order.found rfl rfl rfl order.inside ⟨rfl, rfl, ?_⟩
      rw [silent, List.append_nil]
  | failed whole gone =>
      let failed (connection : Connection) : Connection :=
        { connection with writer := {}, isBroken := true }
      have handle_eq := Service.handle_of_connection? order.found
      have found : (before.service.change connection.handle failed).connection? handle =
          some (failed connection) := by
        rw [handle_eq]
        refine Service.connection?_change_self ?_ order.found
        exact fun _ => rfl
      have told : reported =
          [.ended connection.handle (ProtocolError.ofFault .brokenPipe).message] :=
        List.append_cancel_left (reports.symm.trans (Service.reported_post ..))
      rcases order.whole whole with ⟨all, quiet⟩
      have wire : ({ before with
          links := before.links.modify connection.link (·.stopWriting .answerer) } :
            Strand).wire connection.link = before.wire connection.link := by
        rw [Strand.wire, Strand.link, Link.getD_modify_self order.inside]
        rfl
      refine ⟨failed connection, ⟨found, order.linked, ?_, ?_, ?_, fun _ => ⟨?_, ?_⟩⟩, ?_⟩
      · rw [Array.size_modify]
        exact order.inside
      · exact fun unbroken => absurd unbroken Bool.true_eq_false.mp
      · exact fun unbroken => absurd unbroken Bool.true_eq_false.mp
      · exact ⟨connection.writer.remaining, (congrArg (· ++ _) wire).trans all⟩
      · rw [told, quiet, handle_eq]
        exact ⟨_, rfl⟩
      · exact fun broken => absurd (whole.symm.trans broken) Bool.false_ne_true
  | @wrote room whole there room_eq =>
      let wrote (other : Connection) : Connection :=
        { other with writer := (connection.writer.write room).2 }
      have found : (before.service.change connection.handle wrote).connection? handle =
          some (wrote connection) := by
        rw [Service.handle_of_connection? order.found]
        refine Service.connection?_change_self ?_ order.found
        exact fun _ => rfl
      have silent : reported = [] := List.append_right_eq_self.mp reports.symm
      rcases order.whole whole with ⟨all, quiet⟩
      have wire := wire_write before order.inside (connection.writer.write room).1
      refine ⟨wrote connection, ⟨found, order.linked, ?_, fun _ => ?_, fun _ => ⟨?_, ?_⟩, ?_⟩, ?_⟩
      · rw [Array.size_modify]
        exact order.inside
      · exact (Writer.lastCount_write ..).trans (order.count whole)
      · refine (congrArg (· ++ _) wire).trans ?_
        rw [List.append_assoc, Writer.write_append_remaining]
        exact all
      · rw [silent, quiet]
        rfl
      · exact fun broken => absurd (whole.symm.trans broken) Bool.false_ne_true
      · exact fun broken => absurd (whole.symm.trans broken) Bool.false_ne_true

/-- The other end takes bytes off the stream. -/
theorem InOrder.heard (order : before.InOrder handle index connection) {bytes rest : Bytes}
    (there : ((before.link index).incoming .caller).contents = bytes ++ rest) :
    KeepsOrder handle index before connection
      { before with
        links := before.links.modify index (·.leave .caller rest)
        heard := before.heard ++ bytes } := by
  refine order.of_same order.found rfl rfl rfl ?_ ⟨?_, rfl, rfl⟩
  · rw [Array.size_modify]
    exact order.inside
  · have left : ((((before.links.modify index (·.leave .caller rest)).getD index
        { capacity := 0 }).incoming .caller).contents) = rest := by
      rw [Link.getD_modify_self order.inside]
      exact Pipe.contents_leave _ rest
    rw [wire, wire, there, ← List.append_assoc]
    exact congrArg (_ ++ ·) left

theorem Step.keepsOrder (step : Step handle index before after)
    (order : before.InOrder handle index connection) :
    KeepsOrder handle index before connection after := by
  cases step with
  | offered answer => exact order.offered answer
  | written found wrote reports =>
      obtain rfl := Option.some.inj (order.found.symm.trans found)
      exact order.written wrote reports
  | heard there => exact order.heard there
  | elsewhere same inside still =>
      rcases same connection order.found with ⟨later, found, link, writer, isBroken⟩
      exact order.of_same found link writer isBroken inside ⟨congrArg (_ ++ ·) still, rfl, rfl⟩

theorem Run.keepsOrder (run : Run handle index before after)
    (order : before.InOrder handle index connection) :
    KeepsOrder handle index before connection after := by
  induction run with
  | refl => exact ⟨connection, order, fun broken => ⟨broken, rfl, rfl, rfl⟩⟩
  | tail _ step ih =>
      rcases ih with ⟨between, orderBetween, early⟩
      rcases step.keepsOrder orderBetween with ⟨later, orderAfter, late⟩
      refine ⟨later, orderAfter, fun broken => ?_⟩
      rcases early broken with ⟨still, wire, queued, reports⟩
      rcases late still with ⟨last, wireLate, queuedLate, reportsLate⟩
      exact ⟨last, wireLate.trans wire, queuedLate.trans queued, reportsLate.trans reports⟩

/-! ## A round of all writers -/

/-- No two connections have the same handle or the same link. -/
structure AreApart (connections : List Connection) : Prop where
  handles : (connections.map Connection.handle).Nodup
  links : (connections.map Connection.link).Nodup

/-- What the writers of some connections do one after the other, as one strand sees it. -/
theorem exists_run_of_writeAll {connections : List Connection}
    (distinct : (connections.map Connection.handle).Nodup)
    (own : ∀ other ∈ connections, other.handle = handle ->
      before.service.connection? handle = some other)
    (others : ∀ other ∈ connections, other.handle ≠ handle -> other.link ≠ index)
    (inside : index < before.links.size) :
    let written := Network.writeAll before.service before.links connections
    ∃ reports, Run handle index before
      { before with service := written.2.1, links := written.2.2, reports } := by
  induction connections generalizing before with
  | nil => exact ⟨before.reports, .refl⟩
  | cons other rest ih =>
      rcases List.nodup_cons.mp distinct with ⟨notAgain, distinctRest⟩
      rcases List.forall_mem_cons.mp own with ⟨ownFirst, ownRest⟩
      rcases List.forall_mem_cons.mp others with ⟨othersFirst, othersRest⟩
      rw [Network.writeAll_cons]
      rcases wrote : Network.writeAll before.service before.links [other] with
        ⟨moved, service, links⟩
      have turn := Network.turn_of_writeAll wrote
      have insideNext : index < links.size := turn.size ▸ inside
      by_cases mine : other.handle = handle
      · rcases turn.exists_reported with ⟨reported, reports⟩
        have step : Step handle index before
            { before with service, links, reports := before.reports ++ reported } :=
          .written (ownFirst mine) wrote reports
        have notMine : ∀ later ∈ rest, later.handle = handle ->
            service.connection? handle = some later := fun later here same =>
          absurd (List.mem_map.mpr ⟨later, here, same.trans mine.symm⟩) notAgain
        rcases @ih { before with service, links, reports := before.reports ++ reported }
          distinctRest notMine othersRest insideNext with ⟨reports, run⟩
        exact ⟨reports, .head step run⟩
      · have same := turn.connection?_of_ne mine
        have step : Step handle index before { before with service, links } := by
          refine .elsewhere (fun connection found => ?_) insideNext ?_
          · exact ⟨connection, same.trans found, rfl, rfl, rfl⟩
          · rw [turn.link_of_ne (othersFirst mine)]
            rfl
        rcases @ih { before with service, links } distinctRest
          (fun later here mine => same.trans (ownRest later here mine)) othersRest insideNext with
          ⟨reports, run⟩
        exact ⟨reports, .head step run⟩

/-- A round of the service's writers is a run of every strand. -/
theorem InOrder.exists_run_of_round (order : strand.InOrder handle index connection)
    (apart : AreApart strand.service.connections) :
    let written := Network.writeAll strand.service strand.links strand.service.connections
    ∃ reports, Run handle index strand
      { strand with service := written.2.1, links := written.2.2, reports } := by
  have here : connection ∈ strand.service.connections := List.mem_of_find?_eq_some order.found
  have mine := Service.handle_of_connection? order.found
  apply exists_run_of_writeAll apart.handles
  · intro other there same
    rw [List.inj_on_of_nodup_map apart.handles there here (same.trans mine.symm)]
    exact order.found
  · intro other there different same
    apply different
    rw [List.inj_on_of_nodup_map apart.links there here (same.trans order.linked.symm), mine]
  · exact order.inside

/-- While the other end is there, a turn of the writer adds to the wire what there is room for. -/
theorem InOrder.wire_written (order : strand.InOrder handle index connection)
    (whole : connection.isBroken = false) (there : (strand.link index).isGone .caller = false) :
    let written := Network.writeAll strand.service strand.links [connection]
    ({ strand with service := written.2.1, links := written.2.2 } : Strand).wire index =
      strand.wire index ++
        connection.writer.remaining.take ((strand.link index).room .answerer) := by
  rcases wrote : Network.writeAll strand.service strand.links [connection] with
    ⟨moved, service, links⟩
  obtain rfl := order.linked
  cases Network.turn_of_writeAll wrote with
  | rested nothing =>
      have idle := nothing.resolve_left (Bool.eq_false_iff.mp whole)
      rw [Writer.remaining_of_isIdle idle, List.take_nil, List.append_nil]
  | failed _ gone => exact absurd (there.symm.trans gone) Bool.false_ne_true
  | wrote _ _ room_eq =>
      subst room_eq
      rw [← Writer.write_eq_take]
      exact wire_write strand order.inside _

/-- From the moment when a connection is accepted, however its stream takes the bytes and
whatever happens around it, what is on the wire and what the writer has left to write are
together the frames of the queue with their numbers; nothing is reported, and as long as the
other end is there every turn writes as much as there is room for.  When the stream has failed, a
beginning of this is on the wire, the failure was reported once, and nothing changes any more.
The number of a frame of the manager's own is how many such frames there are up to it, its lowest
four bytes replace the second four of the frame, and the other frames are as they were.  If the
frames were made of messages then these are read at the other end, however they arrive, with the
numbers of the manager's own going up by one. -/
theorem written_in_order {start : Strand} (fresh : start.IsFresh handle index)
    (run : Run handle index start strand) :
    (∃ connection, strand.service.connection? handle = some connection ∧
      (connection.isBroken = false ->
        strand.wire index ++ connection.writer.remaining = strand.due ∧ strand.reports = [] ∧
          (connection.writer.isIdle = true -> strand.wire index = strand.due) ∧
          ((strand.link index).isGone .caller = false ->
            let written := Network.writeAll strand.service strand.links [connection]
            ({ strand with service := written.2.1, links := written.2.2 } : Strand).wire index =
              strand.wire index ++
                connection.writer.remaining.take ((strand.link index).room .answerer))) ∧
      (connection.isBroken = true ->
        strand.wire index <+: strand.due ∧ (∃ cause, strand.reports = [.ended handle cause]) ∧
          ∀ later, Run handle index strand later -> Ends index strand later)) ∧
      (AreApart strand.service.connections ->
        let written := Network.writeAll strand.service strand.links strand.service.connections
        ∃ reports, Run handle index strand
          { strand with service := written.2.1, links := written.2.2, reports }) ∧
      strand.due = (strand.queued.mapIdx fun place outbound => outbound.stamped
        (Provenance.running (strand.queued.map Outbound.provenance) place)).flatten ∧
      (∀ (outbound : Outbound) (number : Nat), outbound.stamped number =
        if outbound.provenance = .originated ∧ 8 ≤ outbound.frame.length then
          outbound.frame.take 4 ++ littleEndian 4 number ++ outbound.frame.drop 8
        else outbound.frame) ∧
      (((strand.queued.map Outbound.provenance).mapIdx fun place provenance =>
        (provenance, Provenance.running (strand.queued.map Outbound.provenance) place)).filter
          (·.1 = .originated)).map Prod.snd =
            List.range' 1 ((strand.queued.map Outbound.provenance).count .originated) ∧
      ∀ (letters : List Letter) (format : Format) (limit : Nat) (clock : Nat -> UInt64)
        (pieces : List Bytes), strand.queued = letters.map (Letter.outbound format) ->
          (∀ letter ∈ letters, letter.IsLegible limit) -> (∀ piece ∈ pieces, piece ≠ []) ->
            pieces.flatten = strand.due ->
              Frame.readStream clock (.start format limit) (pieces.map .bytes) =
                ⟨letters.mapIdx fun place letter => (letter.sent format
                    (Provenance.running (letters.map Letter.provenance) place)).atTime
                      (clock place), .ofFault .earlyEnd, 0⟩ := by
  rcases fresh.inOrder with ⟨accepted, orderStart⟩
  rcases run.keepsOrder orderStart with ⟨connection, order, _⟩
  refine ⟨⟨connection, order.found, ?whole, ?broken⟩, order.exists_run_of_round, ?numbers, ?stamps,
    Provenance.filter_running _, ?read⟩
  case whole =>
    intro whole
    rcases order.whole whole with ⟨all, quiet⟩
    refine ⟨all, quiet, fun idle => ?_, order.wire_written whole⟩
    rw [← all, Writer.remaining_of_isIdle idle, List.append_nil]
  case broken =>
    intro broken
    rcases order.broken broken with ⟨begun, reported⟩
    refine ⟨begun, reported, fun later rest => ?_⟩
    rcases rest.keepsOrder order with ⟨_, _, ends⟩
    exact (ends broken).2
  case numbers =>
    rw [due, Outbound.numberAll_zero]
  case stamps => exact Outbound.stamped_eq
  case read =>
    intro letters format limit clock pieces framed legible nonempty whole
    have read := Letter.readBytes_letters format clock 0 legible
    simp only [Nat.zero_add] at read
    rw [Frame.readStream_pieces clock _ nonempty, whole, due, framed]
    exact read

/-- A strand of one connection, without its events. -/
def narrow (queued : List Outbound) (writer : Writer) (link : Link) : Strand where
  service :=
    { broker := (Bus.vacant 1).broker
      connections := [{ handle := 1, link := 0, reader := none, writer }] }
  links := #[link]
  queued

/-- A short frame of the manager's own. -/
def short (byte : UInt8) : Outbound :=
  ⟨.originated, [byte, 0, 0, 0, 9, 9, 9, 9]⟩

/-- The link that the writer has filled. -/
def filled : Link :=
  { capacity := 12 : Link }.write .answerer [7, 0, 0, 0, 1, 0, 0, 0, 8, 0, 0, 0]

/-- The stream holds twelve of the sixteen bytes of two frames, and the other end goes without
reading. -/
theorem written_in_order_of_narrow :
    ∃ strand, Run 1 0 (narrow [] {} { capacity := 12 }) strand ∧
      strand.due = [7, 0, 0, 0, 1, 0, 0, 0, 8, 0, 0, 0, 2, 0, 0, 0] ∧
      strand.wire 0 = [7, 0, 0, 0, 1, 0, 0, 0, 8, 0, 0, 0] ∧
      (∃ cause, strand.reports = [.ended 1 cause]) ∧
      ∀ later, Run 1 0 strand later -> Ends 0 strand later := by
  have fresh : (narrow [] {} { capacity := 12 }).IsFresh 1 0 :=
    ⟨⟨_, rfl, rfl, rfl, rfl⟩, by decide, rfl, rfl, rfl⟩
  have offeredOne : Step 1 0 (narrow [] {} { capacity := 12 })
      (narrow [short 7] { queue := [short 7] } { capacity := 12 }) :=
    @Step.offered 1 0 (narrow [] {} { capacity := 12 })
      { handle := 1, peer := ⟨.v4 [127, 0, 0, 1], 7111, 0⟩ } (short 7) false .delivered _ rfl
  have offeredTwo : Step 1 0 (narrow [short 7] { queue := [short 7] } { capacity := 12 })
      (narrow [short 7, short 8] { queue := [short 7, short 8] } { capacity := 12 }) :=
    @Step.offered 1 0 (narrow [short 7] { queue := [short 7] } { capacity := 12 })
      { handle := 1, peer := ⟨.v4 [127, 0, 0, 1], 7111, 0⟩ } (short 8) false .delivered _ rfl
  have wrote : Step 1 0
      (narrow [short 7, short 8] { queue := [short 7, short 8] } { capacity := 12 })
      (narrow [short 7, short 8] { count := 2, current := [2, 0, 0, 0] } filled) :=
    @Step.written 1 0
      (narrow [short 7, short 8] { queue := [short 7, short 8] } { capacity := 12 }) _ true
      (narrow [] { count := 2, current := [2, 0, 0, 0] } filled).service #[filled] [] rfl rfl rfl
  have gone : Step 1 0
      (narrow [short 7, short 8] { count := 2, current := [2, 0, 0, 0] } filled)
      (narrow [short 7, short 8] { count := 2, current := [2, 0, 0, 0] } (filled.drop .caller)) :=
    .elsewhere (fun connection found => ⟨connection, found, rfl, rfl, rfl⟩) (by decide) rfl
  have failed :=
    @Step.written 1 0
      (narrow [short 7, short 8] { count := 2, current := [2, 0, 0, 0] } (filled.drop .caller)) _
      true
      ((narrow [] { count := 2, current := [2, 0, 0, 0] } filled).service.fail 1
        (.ofFault .brokenPipe))
      #[(filled.drop .caller).stopWriting .answerer]
      [.ended 1 (ProtocolError.ofFault .brokenPipe).message] rfl rfl rfl
  have run := (((((Relation.ReflTransGen.refl : Run 1 0 _ _).tail offeredOne).tail
    offeredTwo).tail wrote).tail gone).tail failed
  rcases (written_in_order fresh run).1 with ⟨connection, found, whole, broken⟩
  have isBroken : connection.isBroken = true := by
    cases found
    rfl
  exact ⟨_, run, rfl, rfl, (broken isBroken).2⟩

end Strand

end MessageBus
