import MessageBus.Proofs.Counting

namespace MessageBus

open Wire History

/-!
# What the traffic reports of a run add up to

Messages are counted in two places, when they arrive and when the broker reports that one of
them was lost, and the counts leave in a third, when a report is due.  Between two reports
the tally of the traffic only grows, and a report takes all of it.  So nothing is counted in
two reports and nothing in none: the reports of a run and what has not been reported yet add
up to what was counted (`Reachable.traffic_conserved`).

`Broker.Counts` says of a reaction which messages it counts, and that it reports on no
traffic.  It holds of everything that a broker does, the traffic report apart, and what is
done one after the other counts together.
-/

namespace Broker

variable {broker before between after : Broker} {handle : Handle} {module : Module}
  {format : Format} {first second : List MessageType}

/-! ## What is counted -/

/-- Of the traffic, messages of some types are counted, and nothing is reported. -/
structure Counts (messageTypes : List MessageType) (before after : Broker) : Prop where
  traffic : after.diagnostics.traffic = before.diagnostics.traffic.addAll messageTypes
  sequence : after.diagnostics.trafficSequence = before.diagnostics.trafficSequence
  written : written MessageType.traffic after.outbox = written MessageType.traffic before.outbox

namespace Counts

theorem trans (early : Counts first before between) (late : Counts second between after) :
    Counts (first ++ second) before after where
  traffic := by rw [late.traffic, early.traffic, Tally.addAll_append]
  sequence := late.sequence.trans early.sequence
  written := late.written.trans early.written

/-- What is counted first, and nothing after it. -/
theorem silently (early : Counts first before between) (late : Counts [] between after) :
    Counts first before after :=
  List.append_nil first ▸ early.trans late

end Counts

/-- Nothing is counted where nothing at all is. -/
theorem Quiet.counts (quiet : Quiet before after) : Counts [] before after where
  traffic := quiet.traffic
  sequence := quiet.sequence
  written := quiet.written _ (by decide)

/-- The types under which messages are counted when something happens: a message counts if
its connection is there. -/
def countedAs (broker : Broker) : Occasion -> List MessageType
  | .event (.message handle message) =>
      if broker.modules.contains handle then [message.messageType] else []
  | .event (.ended _ _) | .arrival _ | .poll _ | .upkeep _ => []

/-- A message is counted before anything is done about it, and only then. -/
theorem quiet_receive (broker : Broker) (handle : Handle) (message : Message) :
    Quiet
      { broker with
        diagnostics := broker.diagnostics.countAll
          (broker.countedAs (.event (.message handle message))) }
      (broker.receive handle message) := by
  unfold receive countedAs
  dsimp only
  split
  · exact quiet_dispatch { broker with
      diagnostics := broker.diagnostics.count message.messageType } handle message
  · exact .refl broker

theorem counts_receive (broker : Broker) (handle : Handle) (message : Message) :
    Counts (broker.countedAs (.event (.message handle message))) broker
      (broker.receive handle message) := by
  have counted : Counts (broker.countedAs (.event (.message handle message))) broker
      { broker with
        diagnostics := broker.diagnostics.countAll
          (broker.countedAs (.event (.message handle message))) } :=
    ⟨Diagnostics.traffic_countAll .., Diagnostics.trafficSequence_countAll .., rfl⟩
  exact counted.silently (broker.quiet_receive handle message).counts

/-! ## Periods -/

/-- Whether a poll ends a period of the traffic reports. -/
def isTrafficDue (broker : Broker) (now : Milliseconds) : Bool :=
  isDue broker.diagnostics.lastTraffic now broker.config.diagnostics.trafficInterval

/-- What was counted in the period that ends when something happens, if one does. -/
def endedPeriods (broker : Broker) : Occasion -> List Tally
  | .poll now => if broker.isTrafficDue now then [broker.diagnostics.traffic] else []
  | .event _ | .arrival _ | .upkeep _ => []

/-- The timing report leaves everything alone on which the traffic report depends. -/
theorem reportTiming_eq (broker : Broker) (now : Milliseconds) :
    ∃ timing lastTiming outbox,
      written MessageType.traffic outbox = written MessageType.traffic broker.outbox ∧
        broker.reportTiming now =
          { broker with
            diagnostics := { broker.diagnostics with timing, lastTiming }
            outbox } := by
  unfold reportTiming
  dsimp only
  split
  · split
    · let taken :=
        { broker with diagnostics := { broker.diagnostics with timing := [], lastTiming := now } }
      let report := Timing.ofTally broker.diagnostics.timing broker.pid
        broker.modules.registered broker.clock.seconds
      exact ⟨[], now, _, taken.written_publishPayload report (by decide), rfl⟩
    · exact ⟨[], now, broker.outbox, rfl, rfl⟩
  · exact ⟨broker.diagnostics.timing, broker.diagnostics.lastTiming, broker.outbox, rfl, rfl⟩

/-- A period ends: the tally is taken, and frames tell what it says. -/
structure EndsPeriod (told : List Pending) (duration : UInt64) (before after : Broker) :
    Prop where
  tells : List.Forall₂ (Pending.Tells before.config.format) told
    (Traffic.ofTally (before.diagnostics.trafficSequence + 1) before.clock.seconds duration
      before.diagnostics.traffic)
  traffic : after.diagnostics.traffic = []
  sequence : after.diagnostics.trafficSequence =
    if before.diagnostics.traffic = [] then before.diagnostics.trafficSequence
    else before.diagnostics.trafficSequence + 1
  written : written MessageType.traffic after.outbox =
    written MessageType.traffic before.outbox ++ told

theorem EndsPeriod.silently {told : List Pending} {duration : UInt64}
    (ends : EndsPeriod told duration before between) (late : Counts [] between after) :
    EndsPeriod told duration before after where
  tells := ends.tells
  traffic := late.traffic.trans ends.traffic
  sequence := late.sequence.trans ends.sequence
  written := late.written.trans ends.written

theorem reportTraffic_endsPeriod {now : Milliseconds} (due : broker.isTrafficDue now = true) :
    ∃ told duration, EndsPeriod told duration broker (broker.reportTraffic now) := by
  unfold isTrafficDue at due
  unfold reportTraffic
  dsimp only
  rw [if_pos due]
  split
  · next empty =>
    have nothing : broker.diagnostics.traffic = [] := List.isEmpty_iff.mp empty
    refine ⟨[], 0, ?_, nothing, (if_pos nothing).symm, (List.append_nil _).symm⟩
    rw [nothing, Traffic.ofTally_nil]
    exact .nil
  · next counted =>
    have something : broker.diagnostics.traffic ≠ [] :=
      fun nothing => counted (List.isEmpty_iff.mpr nothing)
    rcases publishPayloads_tells { broker with
        diagnostics := { broker.diagnostics with
          traffic := []
          trafficSequence := broker.diagnostics.trafficSequence + 1
          lastTraffic := now } }
      (Traffic.ofTally (broker.diagnostics.trafficSequence + 1) broker.clock.seconds
        (Milliseconds.secondsBits (now - broker.diagnostics.lastTraffic))
        broker.diagnostics.traffic) with ⟨told, tells, published⟩
    rw [published]
    refine ⟨told, _, tells, rfl, (if_neg something).symm, ?_⟩
    show History.written MessageType.traffic (broker.outbox ++ told) = _
    rw [written_append]
    exact congrArg _ (written_of_tells tells)

/-- What a poll does at the end of a period. -/
theorem report_endsPeriod {now : Milliseconds} (due : broker.isTrafficDue now = true) :
    ∃ told duration, EndsPeriod told duration broker (broker.report now) := by
  rcases reportTiming_eq broker now with ⟨timing, lastTiming, outbox, unwritten, same⟩
  have timed : (broker.reportTiming now).isTrafficDue now = true := by
    rw [same]
    exact due
  rcases reportTraffic_endsPeriod timed with ⟨told, duration, ends⟩
  have traffic : EndsPeriod told duration broker
      ((broker.reportTiming now).reportTraffic now) := by
    refine ⟨?_, ends.traffic, ?_, ?_⟩
    · simpa only [same] using ends.tells
    · simpa only [same] using ends.sequence
    · simpa only [same, unwritten] using ends.written
  exact ⟨told, duration, traffic.silently (quiet_reportDirectory _ now).counts⟩

/-- What any other poll does. -/
theorem counts_report {now : Milliseconds} (due : ¬ broker.isTrafficDue now = true) :
    Counts [] broker (broker.report now) := by
  rcases reportTiming_eq broker now with ⟨timing, lastTiming, outbox, unwritten, same⟩
  have timed : Counts [] broker (broker.reportTiming now) := by
    rw [same]
    exact ⟨rfl, rfl, unwritten⟩
  have untold : (broker.reportTiming now).reportTraffic now = broker.reportTiming now := by
    rw [same]
    exact if_neg due
  show Counts [] broker (((broker.reportTiming now).reportTraffic now).reportDirectory now)
  rw [untold]
  exact timed.trans (quiet_reportDirectory _ now).counts

/-- What happens from outside counts what it should, and ends a period if it is time. -/
theorem counts_meet (broker : Broker) (occasion : Occasion) :
    (broker.endedPeriods occasion = [] ∧
        Counts (broker.countedAs occasion) broker (broker.meet occasion)) ∨
      (broker.endedPeriods occasion = [broker.diagnostics.traffic] ∧
        broker.countedAs occasion = [] ∧
        ∃ told duration, EndsPeriod told duration broker (broker.meet occasion)) := by
  cases occasion with
  | arrival peer => exact Or.inl ⟨rfl, rfl, rfl, rfl⟩
  | event event =>
      cases event with
      | message handle message => exact Or.inl ⟨rfl, counts_receive broker handle message⟩
      | ended handle cause => exact Or.inl ⟨rfl, (quiet_remove broker handle (.lost cause)).counts⟩
  | poll now =>
      by_cases due : broker.isTrafficDue now = true
      · exact Or.inr ⟨if_pos due, rfl, report_endsPeriod due⟩
      · exact Or.inl ⟨if_neg due, counts_report due⟩
  | upkeep clock => exact Or.inl ⟨rfl, rfl, rfl, rfl⟩

end Broker

/-! ## Whole runs -/

namespace History

/-- The types of the messages that came from connections that were there. -/
def handled (history : List Moment) : List MessageType :=
  history.flatMap fun
    | .met broker occasion => broker.countedAs occasion
    | .delivered _ => []

/-- What was counted in each of the periods of the traffic reports that are over. -/
def periods (history : List Moment) : List Tally :=
  history.flatMap fun
    | .met broker occasion => broker.endedPeriods occasion
    | .delivered _ => []

theorem handled_met (history : List Moment) (broker : Broker) (occasion : Occasion) :
    handled (history ++ [.met broker occasion]) = handled history ++ broker.countedAs occasion :=
  List.flatMap_append.trans (congrArg _ (List.append_nil _))

theorem periods_met (history : List Moment) (broker : Broker) (occasion : Occasion) :
    periods (history ++ [.met broker occasion]) =
      periods history ++ broker.endedPeriods occasion :=
  List.flatMap_append.trans (congrArg _ (List.append_nil _))

theorem handled_delivered (history : List Moment) (delivery : Delivery) :
    handled (history ++ [.delivered delivery]) = handled history :=
  List.flatMap_append.trans (List.append_nil _)

theorem periods_delivered (history : List Moment) (delivery : Delivery) :
    periods (history ++ [.delivered delivery]) = periods history :=
  List.flatMap_append.trans (List.append_nil _)

end History

namespace Bus

variable {behaviour : Behaviour σ} {config : Config} {bus next : Bus σ} {pending : Pending}
  {outbox : List Pending} {series : List (List Traffic)}

/-- All frames that were put into the outbox, whether they have left it or not. -/
def produced (bus : Bus σ) : List Pending :=
  taken bus.history ++ bus.broker.outbox

/-- What is counted in a run: what came from connections that were there, and every report
about a failure. -/
def counted (bus : Bus σ) (messageType : MessageType) : Nat :=
  (handled bus.history).count messageType +
    (List.replicate (History.reports bus.produced).length MessageType.failedMessage).count
      messageType

/-- The reports of a run are its periods, one after the other, and together with the tally
they are what was counted. -/
structure IsTallied (config : Config) (series : List (List Traffic)) (bus : Bus σ) : Prop where
  proper : bus.broker.diagnostics.traffic.IsProper
  told : List.Forall₂ (Pending.Tells config.format)
    (History.written MessageType.traffic bus.produced) series.flatten
  series : Traffic.Series (periods bus.history) series bus.broker.diagnostics.trafficSequence
  conserved : ∀ messageType, 0 ≤ messageType ->
    ((periods bus.history).map (·.get messageType)).sum +
      bus.broker.diagnostics.traffic.get messageType = bus.counted messageType

/-- Counting goes into the tally and nowhere else. -/
theorem IsTallied.ofCounts (tallied : bus.IsTallied config series)
    {messageTypes : List MessageType}
    (traffic : next.broker.diagnostics.traffic =
      bus.broker.diagnostics.traffic.addAll messageTypes)
    (sequence : next.broker.diagnostics.trafficSequence = bus.broker.diagnostics.trafficSequence)
    (written : History.written MessageType.traffic next.produced =
      History.written MessageType.traffic bus.produced)
    (periods : periods next.history = periods bus.history)
    (counted : ∀ messageType,
      next.counted messageType = bus.counted messageType + messageTypes.count messageType) :
    next.IsTallied config series where
  proper := traffic ▸ tallied.proper.addAll messageTypes
  told := written ▸ tallied.told
  series := by
    rw [periods, sequence]
    exact tallied.series
  conserved := by
    intro messageType counts
    rw [periods, traffic, Tally.get_addAll tallied.proper messageTypes counts, counted,
      ← tallied.conserved messageType counts, Nat.add_assoc]

/-- A delivery produces reports about failures, each of them counted, and none on what was
counted. -/
theorem produced_deliver (behaviour : Behaviour σ) (sound : bus.broker.Sound config)
    (next : bus.broker.outbox = pending :: outbox) :
    ∃ added, (bus.deliver behaviour).produced = bus.produced ++ added ∧
      (∀ kind ∈ MessageType.countReports, History.written kind added = []) ∧
      ∃ messageTypes, (bus.deliver behaviour).broker.diagnostics =
          bus.broker.diagnostics.countAll messageTypes ∧
        ∀ messageType, (bus.deliver behaviour).counted messageType =
          bus.counted messageType + messageTypes.count messageType := by
  rcases (passage_deliver behaviour sound next).countsAll with
    ⟨added, outboxAfter, diagnostics, unwritten⟩
  have history : (bus.deliver behaviour).history = bus.history ++
      [.delivered ⟨pending, (bus.handOut behaviour pending outbox).attempts⟩] := by
    rw [deliver_of_cons behaviour next]
  have produced : (bus.deliver behaviour).produced = bus.produced ++ added := by
    have outboxDelivered : (bus.deliver behaviour).broker.outbox = outbox ++ added :=
      outboxAfter
    unfold Bus.produced
    rw [outboxDelivered, history, taken_append, next, List.append_assoc, List.append_assoc]
    rfl
  refine ⟨added, produced, unwritten, _, diagnostics, fun messageType => ?_⟩
  unfold counted
  rw [history, handled_delivered, produced, reports_append, List.length_append,
    List.replicate_add, List.count_append, Nat.add_assoc]

theorem periods_deliver (bus : Bus σ) :
    periods (bus.deliver behaviour).history = periods bus.history := by
  cases next : bus.broker.outbox with
  | nil => rw [deliver_of_nil behaviour next]
  | cons pending outbox =>
      rw [deliver_of_cons behaviour next]
      exact periods_delivered ..

theorem isTallied_deliver (sound : bus.broker.Sound config)
    (tallied : bus.IsTallied config series) :
    (bus.deliver behaviour).IsTallied config series := by
  cases next : bus.broker.outbox with
  | nil => rwa [deliver_of_nil behaviour next]
  | cons pending outbox =>
      rcases produced_deliver behaviour sound next with
        ⟨added, produced, unwritten, messageTypes, diagnostics, counted⟩
      refine tallied.ofCounts ?_ ?_ ?_ (periods_deliver bus) counted
      · rw [diagnostics, Diagnostics.traffic_countAll]
      · rw [diagnostics, Diagnostics.trafficSequence_countAll]
      · rw [produced, written_append, unwritten _ (by decide), List.append_nil]

/-- Nothing leaves the outbox when something happens. -/
theorem written_produced_meet (behaviour : Behaviour σ) (bus : Bus σ) (occasion : Occasion)
    (messageType : MessageType) :
    History.written messageType (bus.step behaviour (.occasion occasion)).produced =
      History.written messageType (taken bus.history) ++
        History.written messageType (bus.broker.meet occasion).outbox := by
  have untaken : taken (bus.history ++ [.met bus.broker occasion]) = taken bus.history :=
    (taken_append ..).trans (List.append_nil _)
  show History.written messageType (taken (bus.history ++ [.met bus.broker occasion]) ++
    (bus.broker.meet occasion).outbox) = _
  rw [untaken, written_append]

theorem counted_meet (behaviour : Behaviour σ) (bus : Bus σ) (occasion : Occasion)
    (messageType : MessageType) :
    (bus.step behaviour (.occasion occasion)).counted messageType =
      bus.counted messageType + (bus.broker.countedAs occasion).count messageType := by
  have reported : History.reports (bus.step behaviour (.occasion occasion)).produced =
      History.reports bus.produced := by
    refine (written_produced_meet behaviour bus occasion _).trans ?_
    show _ ++ History.reports (bus.broker.meet occasion).outbox = _
    rw [Broker.reports_meet]
    exact (reports_append ..).symm
  unfold counted
  rw [reported]
  show (handled (bus.history ++ [.met bus.broker occasion])).count messageType + _ = _
  rw [handled_met, List.count_append]
  omega

theorem isTallied_meet (occasion : Occasion) (sound : bus.broker.Sound config)
    (tallied : bus.IsTallied config series)
    (bounded : ∀ tally ∈ bus.broker.endedPeriods occasion, ∀ messageType,
      tally.get messageType < 2 ^ 32) :
    ∃ series, (bus.step behaviour (.occasion occasion)).IsTallied config series := by
  have produced := written_produced_meet behaviour bus occasion
  have periods : periods (bus.step behaviour (.occasion occasion)).history =
      periods bus.history ++ bus.broker.endedPeriods occasion :=
    periods_met ..
  rcases bus.broker.counts_meet occasion with ⟨ongoing, counts⟩ |
    ⟨ended, uncounted, told, duration, ends⟩
  · refine ⟨series, tallied.ofCounts counts.traffic counts.sequence ?_ ?_
      (counted_meet behaviour bus occasion)⟩
    · rw [produced, counts.written, ← written_append]
      rfl
    · rw [periods, ongoing, List.append_nil]
  · have boundedTally := bounded bus.broker.diagnostics.traffic (ended ▸ List.mem_singleton_self _)
    refine ⟨series ++ [Traffic.ofTally (bus.broker.diagnostics.trafficSequence + 1)
      bus.broker.clock.seconds duration bus.broker.diagnostics.traffic], ?_, ?_, ?_, ?_⟩
    · show (bus.broker.meet occasion).diagnostics.traffic.IsProper
      rw [ends.traffic]
      exact .nil
    · rw [produced, ends.written, ← List.append_assoc, ← written_append, List.flatten_append,
        List.flatten_singleton]
      exact List.rel_append tallied.told (sound.config_eq ▸ ends.tells)
    · rw [periods, ended]
      show Traffic.Series _ _ (bus.broker.meet occasion).diagnostics.trafficSequence
      rw [ends.sequence]
      exact tallied.series.ofTally _ _ tallied.proper boundedTally
    · intro messageType counted
      have before := tallied.conserved messageType counted
      have empty : (bus.step behaviour (.occasion occasion)).broker.diagnostics.traffic.get
          messageType = 0 :=
        congrArg (Tally.get · messageType) ends.traffic
      rw [counted_meet, uncounted, periods, ended, List.map_append, List.sum_append, empty,
        ← before]
      rfl

theorem Reachable.isTallied (reachable : bus.Reachable behaviour config)
    (bounded : ∀ tally ∈ periods bus.history, ∀ messageType, tally.get messageType < 2 ^ 32) :
    ∃ series, bus.IsTallied config series := by
  induction reachable with
  | start started queues =>
      rcases Broker.start_eq started with ⟨_, rfl⟩
      exact ⟨[], .nil, .nil, .start, fun _ _ => rfl⟩
  | @step bus reachable move ih =>
      cases move with
      | occasion occasion =>
          have boundedAll : ∀ tally ∈ periods bus.history ++ bus.broker.endedPeriods occasion,
              ∀ messageType, tally.get messageType < 2 ^ 32 :=
            periods_met bus.history bus.broker occasion ▸ bounded
          rcases List.forall_mem_append.mp boundedAll with ⟨earlier, last⟩
          rcases ih earlier with ⟨series, tallied⟩
          exact isTallied_meet occasion reachable.sound tallied last
      | readers queues =>
          rcases ih bounded with ⟨series, tallied⟩
          exact ⟨series, { tallied with }⟩
      | deliver =>
          have earlier : ∀ tally ∈ periods bus.history, ∀ messageType,
              tally.get messageType < 2 ^ 32 :=
            periods_deliver bus ▸ bounded
          rcases ih earlier with ⟨series, tallied⟩
          exact ⟨series, isTallied_deliver reachable.sound tallied⟩

/-- The parts of the traffic reports that a run has produced, with what has been counted
since the last report, say of every type how many of its messages were handled for
connections that were there, and how many reports about failures there were.  They belong to
reports that are as they should be, one for each period in which anything was counted and
none for the others.  All this supposes that every count of a period fits into its slot. -/
theorem Reachable.traffic_conserved (reachable : bus.Reachable behaviour config)
    (bounded : ∀ tally ∈ periods bus.history, ∀ messageType, tally.get messageType < 2 ^ 32) :
    ∃ series : List (List Traffic),
      List.Forall₂ (Pending.Tells config.format)
        (History.written MessageType.traffic bus.produced) series.flatten ∧
      Traffic.Series (periods bus.history) series bus.broker.diagnostics.trafficSequence ∧
      (∀ messageType, 0 ≤ messageType ->
        (series.flatten.map (Traffic.countOf messageType)).sum +
          bus.broker.diagnostics.traffic.get messageType =
            (handled bus.history).count messageType +
              if messageType = MessageType.failedMessage then
                (History.reports bus.produced).length
              else 0) ∧
      ∀ messageType < 0, bus.broker.diagnostics.traffic.get messageType = 0 := by
  rcases reachable.isTallied bounded with ⟨series, tallied⟩
  refine ⟨series, tallied.told, tallied.series, fun messageType counts => ?_,
    fun messageType negative => Tally.get_of_negative tallied.proper negative⟩
  rw [tallied.series.sum_eq, tallied.conserved messageType counts]
  unfold counted
  rw [List.count_replicate]
  congr 1
  by_cases same : messageType = MessageType.failedMessage
  · rw [if_pos same, same, beq_self_eq_true, if_pos rfl]
  · rw [if_neg same, beq_eq_false_iff_ne.mpr (Ne.symm same), if_neg Bool.false_ne_true]

/-- The crowded bus with everything delivered that can be, and two periods later.  In the
first the module sends a message of a negative type, and one seems to come from the logger,
which is gone; in the second nothing happens; and then the module sends another message. -/
def reporting : Bus (Handle -> Nat) :=
  let sends (handle : Handle) (messageType : MessageType) : Move (Handle -> Nat) :=
    .occasion (.event (.message handle
      { header := { messageType }, timecode := none, payload := [] }))
  crowded.run QueueRule.bounded.each (List.replicate 9 .deliver ++
    [sends 2 (-3), sends 1 500, .occasion (.poll 10500), .occasion (.poll 21000), sends 2 500])

theorem traffic_conserved_of_reporting :
    let tallies : List Tally :=
      [[(MessageType.failedMessage, 2), (MessageType.connect, 2), (MessageType.subscribe, 1)], []]
    periods reporting.history = tallies ∧
      ∃ series : List (List Traffic),
        List.Forall₂ (Pending.Tells (Config.format {}))
          (History.written MessageType.traffic reporting.produced) series.flatten ∧
        Traffic.Series tallies series 1 ∧
        (series.flatten.map (Traffic.countOf MessageType.failedMessage)).sum = 2 ∧
        (series.flatten.map (Traffic.countOf 500)).sum = 0 ∧
        reporting.broker.diagnostics.traffic = [(500, 1)] := by
  intro tallies
  have ended : periods reporting.history = tallies := by decide +kernel
  have bounded : ∀ tally ∈ periods reporting.history, ∀ messageType,
      tally.get messageType < 2 ^ 32 := by
    rw [ended]
    intro tally here messageType
    have small : ∀ tally ∈ tallies, ∀ entry ∈ tally, entry.2 < 2 ^ 32 := by decide
    exact Tally.get_lt (small tally here) (by decide)
  have reachable : reporting.Reachable QueueRule.bounded.each {} :=
    ((vacant_reachable 1).run _).run _
  have pending : reporting.broker.diagnostics.traffic = [(500, 1)] := by decide +kernel
  have handled : handled reporting.history =
      [MessageType.connect, MessageType.connect, MessageType.subscribe, -3, 500] := by
    decide +kernel
  have losses : (History.reports reporting.produced).length = 2 := by decide +kernel
  have sequence : reporting.broker.diagnostics.trafficSequence = 1 := by decide +kernel
  rcases reachable.traffic_conserved bounded with ⟨series, told, isSeries, conserved, _⟩
  rw [ended, sequence] at isSeries
  rw [pending, handled, losses] at conserved
  exact ⟨ended, series, told, isSeries, conserved MessageType.failedMessage (by decide),
    Nat.succ.inj (conserved 500 (by decide)), pending⟩

end Bus

end MessageBus
