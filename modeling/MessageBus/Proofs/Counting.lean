import MessageBus.Proofs.Failures
import MessageBus.Proofs.Tallies

namespace MessageBus

open Wire History

/-!
# What is counted, and what is not

Every message is counted in two tallies, one for each kind of report, and both count the same:
what arrives, when it arrives, and a report about a failure, when it is written.  All else that
a broker does between two reports is `Quiet`: it counts nothing, and it writes no report on what
was counted.

The deliveries are different.  They do count, but only the reports about failures that they put
into the outbox, and each of them once (`Bus.Passage.countsAll`).
-/

/-- The types of the reports on what was counted. -/
def MessageType.countReports : List MessageType :=
  [timing, traffic]

/-! ## Counting several messages -/

namespace Diagnostics

theorem timing_count (diagnostics : Diagnostics) (messageType : MessageType) :
    (diagnostics.count messageType).timing = diagnostics.timing.addAll [messageType] := by
  show _ = if messageType < 0 then _ else _
  unfold count
  split <;> rfl

theorem traffic_count (diagnostics : Diagnostics) (messageType : MessageType) :
    (diagnostics.count messageType).traffic = diagnostics.traffic.addAll [messageType] := by
  show _ = if messageType < 0 then _ else _
  unfold count
  split <;> rfl

theorem trafficSequence_count (diagnostics : Diagnostics) (messageType : MessageType) :
    (diagnostics.count messageType).trafficSequence = diagnostics.trafficSequence := by
  unfold count
  split <;> rfl

/-- Messages of several types, one after the other. -/
def countAll (diagnostics : Diagnostics) (messageTypes : List MessageType) : Diagnostics :=
  messageTypes.foldl count diagnostics

theorem countAll_append (diagnostics : Diagnostics) (first second : List MessageType) :
    diagnostics.countAll (first ++ second) = (diagnostics.countAll first).countAll second :=
  List.foldl_append

theorem timing_countAll (diagnostics : Diagnostics) (messageTypes : List MessageType) :
    (diagnostics.countAll messageTypes).timing = diagnostics.timing.addAll messageTypes := by
  induction messageTypes generalizing diagnostics with
  | nil => rfl
  | cons messageType rest ih =>
      calc ((diagnostics.count messageType).countAll rest).timing
          = (diagnostics.count messageType).timing.addAll rest := ih _
        _ = (diagnostics.timing.addAll [messageType]).addAll rest := by rw [timing_count]
        _ = diagnostics.timing.addAll (messageType :: rest) := (Tally.addAll_append ..).symm

theorem traffic_countAll (diagnostics : Diagnostics) (messageTypes : List MessageType) :
    (diagnostics.countAll messageTypes).traffic = diagnostics.traffic.addAll messageTypes := by
  induction messageTypes generalizing diagnostics with
  | nil => rfl
  | cons messageType rest ih =>
      calc ((diagnostics.count messageType).countAll rest).traffic
          = (diagnostics.count messageType).traffic.addAll rest := ih _
        _ = (diagnostics.traffic.addAll [messageType]).addAll rest := by rw [traffic_count]
        _ = diagnostics.traffic.addAll (messageType :: rest) := (Tally.addAll_append ..).symm

theorem trafficSequence_countAll (diagnostics : Diagnostics) (messageTypes : List MessageType) :
    (diagnostics.countAll messageTypes).trafficSequence = diagnostics.trafficSequence := by
  induction messageTypes generalizing diagnostics with
  | nil => rfl
  | cons messageType rest ih => exact (ih _).trans (trafficSequence_count ..)

end Diagnostics

namespace Broker

variable {broker before between after : Broker} {handle : Handle} {format : Format}
  {kind : MessageType}

/-! ## Frames of other types -/

theorem written_publish (broker : Broker) {message : Message} (route : Route)
    (other : message.messageType ≠ kind) :
    written kind (broker.publish message route).outbox = written kind broker.outbox := by
  apply written_append_of_others
  intro pending here _
  rw [List.mem_singleton.mp here]
  exact other

theorem written_publishPayload [Payload α] (broker : Broker) (payload : α)
    (other : Payload.messageType α ≠ kind) :
    written kind (broker.publishPayload payload).outbox = written kind broker.outbox :=
  broker.written_publish .subscribers other

theorem written_publishPayloads [Payload α] (broker : Broker) (payloads : List α)
    (other : Payload.messageType α ≠ kind) :
    written kind (broker.publishPayloads payloads).outbox = written kind broker.outbox := by
  induction payloads generalizing broker with
  | nil => rfl
  | cons payload rest ih => exact (ih _).trans (written_publishPayload broker payload other)

/-! ## Quiet reactions -/

/-- Nothing is counted, and there is no report on what was counted. -/
structure Quiet (before after : Broker) : Prop where
  timing : after.diagnostics.timing = before.diagnostics.timing
  traffic : after.diagnostics.traffic = before.diagnostics.traffic
  sequence : after.diagnostics.trafficSequence = before.diagnostics.trafficSequence
  written : ∀ kind ∈ MessageType.countReports,
    written kind after.outbox = written kind before.outbox

namespace Quiet

theorem refl (broker : Broker) : Quiet broker broker := ⟨rfl, rfl, rfl, fun _ _ => rfl⟩

theorem trans (early : Quiet before between) (late : Quiet between after) :
    Quiet before after where
  timing := late.timing.trans early.timing
  traffic := late.traffic.trans early.traffic
  sequence := late.sequence.trans early.sequence
  written kind listed := (late.written kind listed).trans (early.written kind listed)

end Quiet

theorem quiet_publish (broker : Broker) {message : Message} (route : Route)
    (other : message.messageType ∉ MessageType.countReports) :
    Quiet broker (broker.publish message route) := by
  refine ⟨rfl, rfl, rfl, fun kind listed => broker.written_publish route ?_⟩
  rintro rfl
  exact other listed

theorem quiet_publishPayload [Payload α] (broker : Broker) (payload : α)
    (other : Payload.messageType α ∉ MessageType.countReports) :
    Quiet broker (broker.publishPayload payload) :=
  broker.quiet_publish .subscribers other

theorem quiet_publishPayloads [Payload α] (broker : Broker) (payloads : List α)
    (other : Payload.messageType α ∉ MessageType.countReports) :
    Quiet broker (broker.publishPayloads payloads) := by
  induction payloads generalizing broker with
  | nil => exact .refl broker
  | cons payload rest ih => exact (quiet_publishPayload broker payload other).trans (ih _)

theorem quiet_publishLog (broker : Broker) (level : LogLevel) (line : String) :
    Quiet broker (broker.publishLog level line) :=
  broker.quiet_publishPayload _ (by decide)

theorem quiet_publishClientInfo (broker : Broker) (handle : Handle) :
    Quiet broker (broker.publishClientInfo handle) := by
  unfold publishClientInfo
  split
  · exact .refl broker
  · exact broker.quiet_publishPayload _ (by decide)

theorem quiet_acknowledge (broker : Broker) (handle : Handle) :
    Quiet broker (broker.acknowledge handle) := by
  have other : MessageType.acknowledge ∉ MessageType.countReports := by decide
  unfold acknowledge
  split
  · exact .refl broker
  · exact broker.quiet_publish _ other

theorem quiet_remove (broker : Broker) (handle : Handle) (departure : Departure) :
    Quiet broker (broker.remove handle departure) := by
  unfold remove
  split
  · exact ⟨rfl, rfl, rfl, fun _ _ => rfl⟩
  · next module _ =>
    have left : Quiet broker
        { broker.forget handle with
          closings := broker.closings ++ [(handle, departure.farewell)] } :=
      ⟨rfl, rfl, rfl, fun _ _ => rfl⟩
    have logged := fun line : LogLevel × String =>
      left.trans (quiet_publishLog _ line.1 line.2)
    cases departure.announcement? module with
    | none =>
        dsimp only
        split
        · exact left.trans (quiet_publishPayload _ _ (by decide))
        · exact left
    | some line =>
        dsimp only
        split
        · exact (logged line).trans (quiet_publishPayload _ _ (by decide))
        · exact logged line

theorem quiet_connect (broker : Broker) (handle : Handle) (request : ConnectRequest) :
    Quiet broker (broker.connect handle request) := by
  rcases chosen : broker.modules.chooseId broker.identities handle request
    broker.config.identity.dynamicStart with ⟨rejection | id, identities⟩
  · rw [connect_of_error chosen]
    have refused : Quiet broker { broker with identities } := ⟨rfl, rfl, rfl, fun _ _ => rfl⟩
    exact refused.trans (quiet_remove _ handle _)
  · rw [connect_of_ok chosen]
    have enrolled : Quiet broker { broker with
        identities, modules := broker.modules.enroll handle id request } :=
      ⟨rfl, rfl, rfl, fun _ _ => rfl⟩
    exact (enrolled.trans (quiet_acknowledge _ handle)).trans
      (quiet_publishClientInfo _ handle)

theorem quiet_rename (broker : Broker) (handle : Handle) (name : String) :
    Quiet broker (broker.rename handle name) := by
  unfold rename
  split
  · exact .refl broker
  · dsimp only
    split
    · exact quiet_publishLog ..
    · have renamed : Quiet broker { broker with
          modules := broker.modules.modify handle fun module =>
            { module with name := some name } } := ⟨rfl, rfl, rfl, fun _ _ => rfl⟩
      exact (renamed.trans (quiet_acknowledge _ handle)).trans
        (quiet_publishClientInfo _ handle)

/-- What is passed on is no report, whatever it looks like. -/
theorem quiet_forward (broker : Broker) (message : Message) :
    Quiet broker (broker.forward message) := by
  unfold forward
  split
  · refine ⟨rfl, rfl, rfl, fun kind _ => written_append_of_others fun pending here own => ?_⟩
    rw [List.mem_singleton.mp here] at own
    cases own
  · exact .refl broker

theorem quiet_serve (broker : Broker) (handle : Handle) (message : Message)
    (request : Request) : Quiet broker (broker.serve handle message request) := by
  have subscribed : ∀ subscriptions : Subscriptions,
      Quiet broker ({ broker with subscriptions }.acknowledge handle) := by
    intro subscriptions
    have changed : Quiet broker { broker with subscriptions } := ⟨rfl, rfl, rfl, fun _ _ => rfl⟩
    exact changed.trans (quiet_acknowledge _ handle)
  cases request with
  | connect request => exact .refl broker
  | disconnect => exact quiet_remove broker handle .disconnected
  | subscribe messageType => exact subscribed _
  | resume messageType => exact subscribed _
  | unsubscribe messageType => exact subscribed _
  | pause messageType => exact subscribed _
  | moduleReady pid => exact ⟨rfl, rfl, rfl, fun _ _ => rfl⟩
  | setName name => exact quiet_rename broker handle name
  | other =>
      unfold serve
      dsimp only
      split
      · exact quiet_publishLog ..
      · exact quiet_forward broker message

theorem quiet_dispatch (broker : Broker) (handle : Handle) (message : Message) :
    Quiet broker (broker.dispatch handle message) := by
  unfold dispatch
  split
  · exact quiet_publishLog ..
  split
  · exact quiet_serve ..
  · unfold greet
    split
    · exact quiet_connect ..
    · exact quiet_remove ..
    · exact .refl broker

theorem quiet_reportDirectory (broker : Broker) (now : Milliseconds) :
    Quiet broker (broker.reportDirectory now) := by
  unfold reportDirectory
  dsimp only
  split
  · have taken : Quiet broker { broker with
        diagnostics := { broker.diagnostics with lastDirectory := now } } :=
      ⟨rfl, rfl, rfl, fun _ _ => rfl⟩
    exact (taken.trans (quiet_publishPayload _ _ (by decide))).trans
      (quiet_publishPayloads _ _ (by decide))
  · exact .refl broker

/-- A report about a failure is counted as what it is. -/
theorem Reported.countAll {destination : ModuleId} {failed : Header}
    {diagnostics counted : Diagnostics} {notices : List Pending}
    (reported : Reported format destination failed diagnostics notices counted) :
    counted = diagnostics.countAll
        (List.replicate (History.reports notices).length MessageType.failedMessage) ∧
      ∀ kind ∈ MessageType.countReports, History.written kind notices = [] := by
  cases reported with
  | exempt exempt => exact ⟨rfl, fun _ _ => rfl⟩
  | @told frame notice told tells addressed about =>
      have isReport : History.reports [frame] = [frame] :=
        written_of_tells (.cons tells .nil)
      constructor
      · rw [isReport]
        rfl
      · intro kind listed
        apply written_eq_nil
        intro pending here _ same
        rw [List.mem_singleton.mp here, tells.messageType] at same
        rw [← same] at listed
        exact absurd listed (by decide)

end Broker

/-! ## Deliveries -/

namespace Bus

variable {behaviour : Behaviour σ} {bus next last : Bus σ} {module : Module} {pending : Pending}
  {outcome : Outcome} {queues : σ} {attempts : List (Handle × Outcome)}

/-- What one bus has added to the outbox of another, with every report about a failure
counted, and no other report. -/
def CountsAll (bus next : Bus σ) : Prop :=
  ∃ added, next.broker.outbox = bus.broker.outbox ++ added ∧
    next.broker.diagnostics = bus.broker.diagnostics.countAll
      (List.replicate (History.reports added).length MessageType.failedMessage) ∧
    ∀ kind ∈ MessageType.countReports, History.written kind added = []

theorem Accounted.countsAll (accounted : Accounted pending module bus queues outcome next) :
    CountsAll bus next := by
  cases accounted with
  | taken => exact ⟨[], (List.append_nil _).symm, rfl, fun _ _ => rfl⟩
  | @dropped notices diagnostics ordinary reported =>
      rcases reported.countAll with ⟨counted, unwritten⟩
      exact ⟨notices, rfl, counted, unwritten⟩
  | @removed outcome cause line closed notices diagnostics broker final tellsLine tellsClosed
      reported left forgotten =>
      subst left
      rcases reported.countAll with ⟨counted, unwritten⟩
      refine ⟨[line, closed] ++ notices, List.append_assoc .., ?_, fun kind listed => ?_⟩
      · rw [reports_append, Broker.reports_of_loss tellsLine tellsClosed]
        exact counted
      · rw [written_append, unwritten kind listed, List.append_nil]
        apply written_eq_nil
        intro frame here _ same
        rw [← same] at listed
        rcases List.mem_pair.mp here with rfl | rfl
        · rw [tellsLine.messageType] at listed
          exact absurd listed (by decide)
        · rw [tellsClosed.messageType] at listed
          exact absurd listed (by decide)

theorem Passage.countsAll (passage : Passage behaviour pending attempts bus last) :
    CountsAll bus last := by
  induction passage with
  | done bus => exact ⟨[], (List.append_nil _).symm, rfl, fun _ _ => rfl⟩
  | attempted found registered answered accounted later ih =>
      rcases accounted.countsAll with ⟨early, outboxNext, counted, unwritten⟩
      rcases ih with ⟨late, outboxLast, countedLate, unwrittenLate⟩
      refine ⟨early ++ late, ?_, ?_, fun kind listed => ?_⟩
      · rw [outboxLast, outboxNext, List.append_assoc]
      · rw [countedLate, counted, reports_append, List.length_append, List.replicate_add,
          Diagnostics.countAll_append]
      · rw [written_append, unwritten kind listed, unwrittenLate kind listed]
        rfl

end Bus

end MessageBus
