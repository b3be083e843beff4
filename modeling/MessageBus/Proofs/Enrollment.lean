import MessageBus.Proofs.Exchange
import MessageBus.Proofs.Orderly

namespace MessageBus

open Wire History

/-!
# How a client learns its number

A client that leaves the choice of its number to the manager is not told the number in so
many words.  It takes it from the first acknowledgement that comes in after it has
presented itself, and does not ask whom that acknowledgement is for.  A module that was let
in as a logger sees the acknowledgements of all others as well, so this is only sound
because its own is the first frame that it is offered at all.

The two halves are independent.  On the side of the client, whatever comes in and in
whatever portions, a call that succeeds has taken the number in the first acknowledgement
(`Client.enrolled_of_success`).  On the side of the manager, that is the acknowledgement of
the admission (`Bus.Orderly.answer_of_offers`).
-/

namespace Client

/-- What happens to a client that makes a call. -/
inductive Happening where
  | goesOn (now : Milliseconds) (signal : Signal)
  | arrives (arrivals : List Arrival)

def Happening.arrivals : Happening -> List Arrival
  | .goesOn _ _ => []
  | .arrives arrivals => arrivals

/-- A call that waits goes on; what arrives lies in the inbox. -/
def meet : Progress × Client -> Happening -> Progress × Client
  | (.waiting need rest, client), .goesOn now signal => client.proceed now need rest signal
  | (.finished result, client), .goesOn _ _ => (.finished result, client)
  | (progress, client), .arrives arrivals => (progress, client.deliver arrivals)

/-- A client that has called the manager at an address, and has been put through. -/
def dialled (client : Client) (now : Milliseconds) (address : String)
    (introduction : Introduction) (server : SocketAddress) : Progress × Client :=
  meet (client.begin now (.connect address introduction)) (.goesOn now (.answered server))

/-- What has arrived, the first first. -/
def arrived (happenings : List Happening) : List Arrival :=
  happenings.flatMap Happening.arrivals

/-- The messages among it. -/
def heard (happenings : List Happening) : List Message :=
  (arrived happenings).filterMap Arrival.message?

/-- A client on a new line that has presented itself and is not let in yet. -/
structure Presents (presented : Client) (server : SocketAddress) (client : Client) : Prop where
  bare : client.bare = presented.bare
  server? : client.server? = some server
  pending : client.pending = []

/-- A call that is to enroll a client, and all that has arrived since it was put through.
Everything that has arrived is in line or held, and apart from that nothing has become of the
client before the call succeeds.  When it succeeds, the client has taken the first
acknowledgement, and the line is what has arrived without it.  If it fails then the error tells
whether the line is still there. -/
inductive Enrolling (presented : Client) (server : SocketAddress) (arrived : List Arrival) :
    Progress × Client -> Prop where
  | presenting {client : Client} {frame : Bytes} {limit : Milliseconds}
      (presents : presented.Presents server client) (all : client.inLine = arrived) :
      Enrolling presented server arrived
        (.waiting (.room frame) [.acknowledged .enrollment limit], client)
  | awaiting {client : Client} {limit deadline : Milliseconds} {held : List Message}
      (presents : presented.Presents server client)
      (others : ∀ message ∈ held, message.isAnswer = false)
      (all : held.map .message ++ client.inLine = arrived) :
      Enrolling presented server arrived
        (.waiting (.acknowledgement .enrollment limit deadline held) [], client)
  | enrolled {client : Client} {answer : Message} {later : List Arrival} {reply : Reply}
      (bare : client.bare = (presented.enroll answer).bare) (isAnswer : answer.isAnswer = true)
      (others : ∀ message ∈ client.pending, message.isAnswer = false)
      (all : arrived = client.pending.map .message ++ .message answer :: later)
      (line : client.line = some { server, inbox := later }) :
      Enrolling presented server arrived (.finished (.ok reply), client)
  | failed {error : ClientError} {client : Client} (bare : client.bare = presented.bare)
      (server?_eq : client.server? = if error.keepsLine then some server else none) :
      Enrolling presented server arrived (.finished (.error error), client)

variable {client presented : Client} {server : SocketAddress} {arrivals : List Arrival}
  {state : Progress × Client}

/-! ## The line of a client -/

theorem isConnected_eq (client : Client) : client.isConnected = client.server?.isSome := by
  unfold isConnected server?
  cases client.line <;> rfl

theorem server?_deliver (client : Client) (arrivals : List Arrival) :
    (client.deliver arrivals).server? = client.server? := by
  unfold server? deliver
  cases client.line <;> rfl

theorem inLine_deliver (connected : client.isConnected = true) (arrivals : List Arrival) :
    (client.deliver arrivals).inLine = client.inLine ++ arrivals := by
  rcases Option.isSome_iff_exists.mp connected with ⟨line, present⟩
  simp [inLine, deliver, present]

/-- A request to the manager can be sent, if there is a line. -/
theorem frame_request [Payload α] (connected : client.isConnected = true) (payload : α)
    (small : Payload.size α ≤ Limit.clientPayload) :
    ∃ frame, client.frame (Message.ofPayload client.clock payload) 0 0 = .ok frame := by
  let request := Message.ofPayload client.clock payload
  have fits : ¬Limit.clientPayload < request.payload.length :=
    Nat.not_lt.mpr ((Payload.length_encode payload).trans_le small)
  have module : isModuleAddress 0 = true := by decide
  have host : isHostAddress 0 = true := by decide
  refine ⟨(client.stamp request 0 0).encode client.settings.format client.clock.timecode, ?_⟩
  unfold Client.frame
  simp only [connected, module, host, Bool.not_true, Bool.false_eq_true, if_false]
  exact if_neg fits

namespace Presents

theorem isConnected (presents : presented.Presents server client) :
    client.isConnected = true := by
  rw [isConnected_eq, presents.server?]
  rfl

/-- As nothing was put back, all that is in line is in the inbox. -/
theorem line (presents : presented.Presents server client) :
    client.line = some { server, inbox := client.inLine } := by
  have leads := presents.server?
  unfold Client.server? at leads
  unfold inLine
  rw [presents.pending]
  rcases Option.map_eq_some_iff.mp leads with ⟨line, connected, rfl⟩
  rw [connected]
  rfl

theorem deliver (presents : presented.Presents server client) (arrivals : List Arrival) :
    presented.Presents server (client.deliver arrivals) where
  bare := presents.bare
  server? := (server?_deliver client arrivals).trans presents.server?
  pending := presents.pending

/-- A search without a failure leaves the client as it was. -/
theorem of_looked (presents : presented.Presents server client) {search : Search}
    {after : Client} (looked : Looked client search after) (keeps : search.keepsLine = true) :
    presented.Presents server after where
  bare := looked.bare.trans presents.bare
  server? := by rw [looked.server?, keeps, if_pos rfl, presents.server?]
  pending := List.subset_nil.mp (presents.pending ▸ looked.pending)

end Presents

/-! ## One step of the call -/

/-- The call looks for an acknowledgement, and is done if there is one. -/
theorem enrolling_seek (presents : presented.Presents server client)
    (now limit deadline : Milliseconds) {held : List Message}
    (others : ∀ message ∈ held, message.isAnswer = false)
    (all : held.map .message ++ client.inLine = arrivals) :
    Enrolling presented server arrivals
      (match client.seekAcknowledgement .enrollment limit deadline held [] with
        | (some progress, client) => (progress, client)
        | (none, client) => perform now [] client) := by
  have searched := searched client held
  have looked := looked_findAcknowledgement client held
  unfold seekAcknowledgement
  generalize client.findAcknowledgement held = result at searched looked
  cases searched with
  | @found message passed after isAnswer rest line =>
      have found := presents.of_looked looked rfl
      have taken : arrivals =
          (held ++ passed).map .message ++ .message message :: after.inLine := by
        rw [← all, line, List.map_append, List.append_assoc]
      have back : ((after.putBack (held ++ passed)).enroll message).pending = held ++ passed :=
        (congrArg (held ++ passed ++ ·) found.pending).trans (List.append_nil _)
      refine .enrolled ?bare isAnswer ?others ?all found.line
      case bare => exact (congrArg (fun client => (client.enroll message).bare) found.bare :)
      case others =>
        rw [back]
        exact List.forall_mem_append.mpr ⟨others, rest⟩
      case all =>
        rw [back]
        exact taken
  | @nothing passed after rest line empty =>
      refine .awaiting (presents.of_looked looked rfl)
        (List.forall_mem_append.mpr ⟨others, rest⟩) ?_
      rw [← all, line, empty, List.append_nil, List.map_append]
  | @failed error passed after rest =>
      have leads := looked.server?
      rw [presents.server?] at leads
      exact .failed (looked.bare.trans presents.bare) leads

theorem enrolling_dialled (client : Client) (now : Milliseconds) (address : String)
    (introduction : Introduction) (server : SocketAddress) :
    Enrolling (client.present introduction) server []
      (client.dialled now address introduction server) := by
  let fresh : Client := { client.letGo with pending := [] }
  have begun : client.dialled now address introduction server =
      (fresh.pickUp server).introduce introduction
        [.acknowledged .enrollment client.settings.ackTimeout] := rfl
  rw [begun]
  unfold introduce
  dsimp only
  split
  · exact .failed rfl rfl
  · next request built =>
    have connected : ((fresh.pickUp server).present introduction).isConnected = true := rfl
    rcases frame_request connected request (by decide) with ⟨frame, framed⟩
    unfold post
    rw [framed]
    exact .presenting ⟨rfl, rfl, rfl⟩ rfl

theorem enrolling_meet (enrolling : Enrolling presented server arrivals state)
    (happening : Happening) :
    Enrolling presented server (arrivals ++ happening.arrivals) (meet state happening) := by
  cases happening with
  | goesOn now signal =>
      rw [show arrivals ++ Happening.arrivals (.goesOn now signal) = arrivals from
        List.append_nil _]
      cases enrolling with
      | @presenting client frame limit presents all =>
          cases signal with
          | written =>
              have advanced : presented.Presents server client.advance :=
                ⟨presents.bare, presents.server?, presents.pending⟩
              exact enrolling_seek advanced now limit (now + limit)
                (fun _ absent => absurd absent List.not_mem_nil) all
          | broken cause => exact .failed presents.bare rfl
          | answered | unanswered | unusable | arrived | inTime | expired =>
              exact .presenting presents all
      | @awaiting client limit deadline held presents others all =>
          cases signal with
          | arrived => exact enrolling_seek presents now limit deadline others all
          | expired => exact .failed presents.bare presents.server?
          | answered | unanswered | unusable | written | broken | inTime =>
              exact .awaiting presents others all
      | enrolled bare isAnswer others all line => exact .enrolled bare isAnswer others all line
      | failed bare leads => exact .failed bare leads
  | arrives new =>
      cases enrolling with
      | presenting presents all =>
          exact .presenting (presents.deliver new)
            ((inLine_deliver presents.isConnected new).trans (congrArg (· ++ new) all))
      | awaiting presents others all =>
          refine .awaiting (presents.deliver new) others ?_
          rw [inLine_deliver presents.isConnected, ← List.append_assoc, all]
          rfl
      | @enrolled client answer later reply bare isAnswer others all line =>
          have longer : arrivals ++ new =
              client.pending.map .message ++ .message answer :: (later ++ new) := by
            rw [all, List.append_assoc, List.cons_append]
          refine .enrolled bare isAnswer others longer ?_
          exact congrArg (Option.map fun line => { line with inbox := line.inbox ++ new }) line
      | failed bare leads => exact .failed bare ((server?_deliver _ new).trans leads)

/-! ## The whole call -/

theorem enrolling_foldl (enrolling : Enrolling presented server arrivals state)
    (happenings : List Happening) :
    Enrolling presented server (arrivals ++ arrived happenings) (happenings.foldl meet state) := by
  induction happenings generalizing arrivals state with
  | nil => rwa [show arrivals ++ arrived [] = arrivals from List.append_nil _]
  | cons happening rest ih =>
      have later := ih (enrolling_meet enrolling happening)
      rwa [List.append_assoc] at later

/-- When a client that has asked for no number has been let in, it has the number in the first
acknowledgement that it has heard. -/
theorem enrolled_of_success (chosen : client.settings.moduleId = 0) {now : Milliseconds}
    {address : String} {introduction : Introduction} {server : SocketAddress}
    {happenings : List Happening}
    (succeeded : (happenings.foldl meet
      (client.dialled now address introduction server)).1.hasSucceeded = true) :
    ∃ answer, (heard happenings).find? Message.isAnswer = some answer ∧
      (happenings.foldl meet (client.dialled now address introduction server)).2.moduleId =
        answer.header.destinationModule := by
  have enrolling := enrolling_foldl (enrolling_dialled client now address introduction server)
    happenings
  generalize happenings.foldl meet (client.dialled now address introduction server) = state
    at succeeded enrolling
  cases enrolling with
  | presenting | awaiting | failed => cases succeeded
  | @enrolled after answer later reply bare isAnswer others all line =>
      have unnumbered : (client.present introduction).moduleId = 0 := if_pos chosen
      refine ⟨answer, ?_, (congrArg Client.moduleId bare).trans (if_pos unnumbered)⟩
      have split : heard happenings =
          after.pending ++ answer :: later.filterMap Arrival.message? := by
        unfold heard
        rw [← List.nil_append (arrived happenings), all, List.filterMap_append]
        simp [List.filterMap_map, Function.comp_def, Arrival.message?]
      rw [split, List.find?_append, List.find?_eq_none.mpr fun message here => by
        rw [others message here]; exact Bool.false_ne_true]
      simp [isAnswer]

end Client

/-- Where nothing speaks against a configuration, its queues have room. -/
theorem Config.outboundQueueDepth_pos {config : Config} (unopposed : config.objection? = none) :
    0 < config.delivery.outboundQueueDepth := by
  unfold objection? at unopposed
  dsimp only at unopposed
  split_ifs at unopposed with low band hosts depth batch interval
  exact Nat.pos_of_ne_zero fun none => depth (Or.inl none)

/-- What is full in the running manager has something in it. -/
theorem Service.Queues.waiting_of_full {config : Config} {queues : Service.Queues}
    {module : Module} {outbound : Outbound} {connections : List Connection}
    (unopposed : config.objection? = none)
    (full : queues.Answers config.delivery module outbound .full connections) :
    ∃ connection, queues.connections.find? (·.handle = module.handle) = some connection ∧
      connection.writer.queue ≠ [] := by
  cases full with
  | @full connection found whole noRoom ordinary =>
      have deep := Config.outboundQueueDepth_pos unopposed
      exact ⟨connection, found, List.ne_nil_of_length_pos (Nat.lt_of_lt_of_le deep noRoom)⟩

namespace Bus

variable {behaviour : Behaviour σ} {config : Config} {bus : Bus σ}

/-- Only a configuration that nothing speaks against is run with. -/
theorem Reachable.unopposed (reachable : bus.Reachable behaviour config) :
    config.objection? = none := by
  induction reachable with
  | start started queues => exact (Broker.start_eq started).1
  | step reachable move ih => exact ih

/-- If the first frame that was offered to a module did not find its queue full, then what is
first in the queue is the acknowledgement of the admission. -/
theorem Orderly.answer_of_received (orderly : bus.Orderly behaviour config) {handle : Handle}
    (room : ∀ offer ∈ (offers handle bus.history).head?, offer.2 ≠ .full) {first : Pending}
    {rest : List Pending} (put : received handle bus.history = first :: rest) :
    first.header.messageType = MessageType.acknowledge ∧
      assigned? handle bus.history = some first.header.destinationModule := by
  have taken := (orderly.reachable.received_eq handle).symm.trans put
  cases offered : offers handle bus.history with
  | nil =>
      rw [offered] at taken
      cases taken
  | cons offer later =>
      rcases offer with ⟨pending, outcome⟩
      have lost : outcome = .closed ∨ outcome = .timedOut -> received handle bus.history = [] := by
        intro final
        rcases orderly.reachable.offers_of_lost offered final with ⟨rfl, _⟩
        rw [orderly.reachable.received_eq, offered]
        rcases final with rfl | rfl <;> rfl
      rw [offered] at taken room
      cases outcome with
      | full => exact absurd rfl (room _ rfl)
      | closed => exact absurd (put.symm.trans (lost (Or.inl rfl))) (List.cons_ne_nil _ _)
      | timedOut => exact absurd (put.symm.trans (lost (Or.inr rfl))) (List.cons_ne_nil _ _)
      | delivered =>
          obtain ⟨rfl, _⟩ := List.cons.inj taken
          exact orderly.answer_of_first offered

/-- A client that has left the choice of its number to the manager, and gets what was put into
the queue of its connection, has the number under which it is known. -/
theorem Orderly.agrees_of_success (orderly : bus.Orderly behaviour config) {handle : Handle}
    (room : ∀ offer ∈ (offers handle bus.history).head?, offer.2 ≠ .full)
    {client : Client} (chosen : client.settings.moduleId = 0) {now : Milliseconds}
    {address : String} {introduction : Introduction} {server : SocketAddress}
    {happenings : List Client.Happening}
    (gets : (Client.heard happenings).map (·.header.unstamped) <+:
      (received handle bus.history).map (·.header.unstamped))
    (succeeded : (happenings.foldl Client.meet
      (client.dialled now address introduction server)).1.hasSucceeded = true) :
    assigned? handle bus.history = some (happenings.foldl Client.meet
      (client.dialled now address introduction server)).2.moduleId := by
  rcases Client.enrolled_of_success chosen succeeded with ⟨answer, found, numbered⟩
  rw [numbered]
  cases all : Client.heard happenings with
  | nil =>
      rw [all] at found
      cases found
  | cons message later =>
      cases put : received handle bus.history with
      | nil =>
          rw [all, put] at gets
          cases List.prefix_nil.mp gets
      | cons first rest =>
          rcases orderly.answer_of_received room put with ⟨isAnswer, assigned⟩
          rw [all, put, List.map_cons, List.map_cons] at gets
          have same : message.header.unstamped = first.header.unstamped :=
            (List.cons_prefix_cons.mp gets).1
          -- The first message that is heard is an acknowledgement, so it is the one taken.
          have looks : message.isAnswer = true := by
            refine decide_eq_true ?_
            exact (congrArg Header.messageType same).trans isAnswer
          rw [all, List.find?_cons_of_pos looks] at found
          obtain rfl := Option.some.inj found
          rw [assigned]
          exact congrArg (some ·.destinationModule) same.symm

/-- Nothing is put into the queue of a connection before it is let in, and never anything if
it is turned away.  The first frame that it is offered is the acknowledgement of its
admission, with its number.  Its acknowledgements are one for each of its requests that were
granted, in their order, and all have that number; the first of these requests is the one to
be let in, and the others are a module's.  And a client that takes its number from the first
acknowledgement it sees has the right one, whatever it is, if there is room for the first
frame; which there is in an empty queue. -/
theorem Orderly.acknowledgement_protocol (orderly : bus.Orderly behaviour config)
    (handle : Handle) :
    (granted handle bus.history = [] ->
        offers handle bus.history = [] ∧ bus.contents handle = []) ∧
      (∀ arrival ∈ inbound bus.history, arrival.handle = handle -> arrival.IsRefused ->
        offers handle bus.history = [] ∧ bus.contents handle = []) ∧
      (∀ offer ∈ (offers handle bus.history).head?,
        (granted handle bus.history).head?.bind Inbound.answer? = some offer.1 ∧
          offer.1.header.messageType = MessageType.acknowledge ∧
          assigned? handle bus.history = some offer.1.header.destinationModule) ∧
      (bus.broker.outbox = [] -> granted handle bus.history ≠ [] ->
        offers handle bus.history ≠ []) ∧
      ((answers (taken bus.history ++ bus.broker.outbox)).filter
          (·.route = .direct handle)).map some =
        (granted handle bus.history).map Inbound.answer? ∧
      (∀ pending ∈ answers (taken bus.history ++ bus.broker.outbox),
        pending.route = .direct handle ->
          assigned? handle bus.history = some pending.header.destinationModule) ∧
      (∀ admission rest, granted handle bus.history = admission :: rest ->
        admission.IsAdmission ∧ ∀ later ∈ rest, later.IsService) ∧
      (∀ module, bus.broker.modules.get? handle = some module -> module.isRegistered = true ->
        assigned? handle bus.history = some module.id) ∧
      (∀ client : Client, client.settings.moduleId = 0 ->
        ∀ now address introduction server happenings,
          (Client.heard happenings).map (·.header.unstamped) <+:
              (received handle bus.history).map (·.header.unstamped) ->
            (∀ offer ∈ (offers handle bus.history).head?, offer.2 ≠ .full) ->
            let result := happenings.foldl Client.meet
              (client.dialled now address introduction server)
            result.1.hasSucceeded = true ->
              assigned? handle bus.history = some result.2.moduleId) ∧
      ∀ queues module outbound connections,
        Service.Queues.Answers config.delivery queues module outbound .full connections ->
          ∃ connection, queues.connections.find? (·.handle = module.handle) = some connection ∧
            connection.writer.queue ≠ [] := by
  have reachable := orderly.reachable
  refine ⟨reachable.contents_of_ungranted, ?refused, ?first, orderly.offers_of_granted,
    reachable.answers_eq handle, fun pending => reachable.assigned_of_answers,
    fun admission rest => reachable.granted_cons, fun module => reachable.assigned_of_found,
    ?client, ?room⟩
  case refused =>
    intro arrival here own refused
    rcases reachable.gone_of_refused here own refused with ⟨_, _, ungranted⟩
    exact reachable.contents_of_ungranted ungranted
  case first =>
    rintro ⟨pending, outcome⟩ here
    rcases List.head?_eq_some_iff.mp here with ⟨later, offered⟩
    rcases orderly.answer_of_offers offered with ⟨admission, rest, admitted, answer⟩
    rw [admitted]
    exact ⟨answer, orderly.answer_of_first offered⟩
  case client =>
    intro client chosen now address introduction server happenings gets room result succeeded
    exact orderly.agrees_of_success room chosen gets succeeded
  case room =>
    intro queues module outbound connections full
    exact Service.Queues.waiting_of_full reachable.unopposed full

/-- Two loggers that took the numbers they were given, a module that asked for a number, and
another one that asked for the same number and was turned away. -/
def attended : Bus (Handle -> Nat) :=
  (vacant 20).run QueueRule.bounded.each
    (joining 1 0 true ++ List.replicate 2 .deliver ++ joining 2 0 true ++
      List.replicate 2 .deliver ++ joining 3 7 false ++ List.replicate 2 .deliver ++
      joining 4 7 false ++ List.replicate 2 .deliver)

theorem attended_orderly : attended.Orderly QueueRule.bounded.each {} :=
  Orderly.run (.start rfl _) (by decide +kernel)

/-- The second logger has seen the acknowledgement of the third module as well, but it has taken
the number in its own; and the fourth connection has got nothing. -/
theorem acknowledgement_protocol_of_attended :
    let client : Client := { settings := {}, pid := 1, clock := {}, moduleId := 0 }
    let happenings : List Client.Happening :=
      [.goesOn 0 .written,
        .arrives ((received 2 attended.history).map fun pending =>
          .message { header := pending.header, timecode := none, payload := [] }),
        .goesOn 0 .arrived]
    let result := happenings.foldl Client.meet
      (client.dialled 0 "127.0.0.1:7111" { isLogger := true } ⟨.v4 [127, 0, 0, 1], 7111, 0⟩)
    (answers (received 2 attended.history)).map (·.header.destinationModule) = [101, 7] ∧
      result.1.hasSucceeded = true ∧ result.2.moduleId = 101 ∧
      assigned? 2 attended.history = some result.2.moduleId ∧
      (inbound attended.history).map Inbound.handle = [1, 2, 3, 4] ∧
      granted 4 attended.history = [] ∧ attended.contents 4 = [] := by
  intro client happenings result
  have succeeded : result.1.hasSucceeded = true := by decide +kernel
  have gets : (Client.heard happenings).map (·.header.unstamped) <+:
      (received 2 attended.history).map (·.header.unstamped) := by
    simp [happenings, Client.heard, Client.arrived, Client.Happening.arrivals,
      Arrival.message?, List.filterMap_map, Function.comp_def]
  have room : ∀ offer ∈ (offers 2 attended.history).head?, offer.2 ≠ .full := by decide +kernel
  have ungranted : granted 4 attended.history = [] :=
    List.eq_nil_of_length_eq_zero (by decide +kernel)
  rcases attended_orderly.acknowledgement_protocol 2 with ⟨_, _, _, _, _, _, _, _, agrees, _⟩
  rcases attended_orderly.acknowledgement_protocol 4 with ⟨nothing, _⟩
  refine ⟨by decide +kernel, succeeded, by decide +kernel, ?_, by decide +kernel, ungranted,
    (nothing ungranted).2⟩
  exact agrees client rfl 0 _ _ _ happenings gets room succeeded

end Bus

end MessageBus
