import MessageBus.Proofs.Answers
import MessageBus.Proofs.Streams

namespace MessageBus

open Wire

/-!
# From the wire to the outbox

A message that is passed on has been taken apart by the reader and put together again
by the broker.  What comes out are the bytes that went in, except for eight of them: the
reader writes the time of receipt into the header, and the broker encodes the header
that it was given (`Message.encode_atTime`).

Which messages are passed on is decided in one place, `Broker.accepted?`, and the
history of a run says what was decided then, about which message and by which broker.
`Frame.Attributed` gives the messages of a run back the bytes that they were read from.
Its premise is about each connection by itself: what the broker has met of it are the
first messages that a reader makes of the connection's bytes.  The connections take
turns as they like.
-/

namespace Wire

/-- Where the time of receipt stands in an encoded header. -/
def receiveTimeOffset : Nat := 16

/-- An encoded frame with its time of receipt replaced. -/
def stampReceiveTime (frame : Bytes) (receiveTime : UInt64) : Bytes :=
  frame.take receiveTimeOffset ++ Layout.f64.encode receiveTime ++
    frame.drop (receiveTimeOffset + Layout.f64.size)

theorem stampReceiveTime_append {front : Bytes} (before after : UInt64) (back : Bytes)
    (placed : front.length = receiveTimeOffset) :
    stampReceiveTime (front ++ Layout.f64.encode before ++ back) after =
      front ++ Layout.f64.encode after ++ back := by
  have sized : (front ++ Layout.f64.encode before).length =
      receiveTimeOffset + Layout.f64.size := by
    rw [List.length_append, placed, Layout.f64.length_encode]
  unfold stampReceiveTime
  rw [List.drop_left' sized, List.append_assoc front _ back, List.take_left' placed]

/-- A header is what stands before the time of receipt, the time, and the rest. -/
theorem Header.encode_parts (header : Header) :
    ∃ front back : Bytes, front.length = receiveTimeOffset ∧ ∀ receiveTime,
      layout.encode { header with receiveTime } =
        front ++ Layout.f64.encode receiveTime ++ back := by
  refine ⟨Layout.i32.encode header.messageType ++ (Layout.i32.encode header.messageCount ++
      Layout.f64.encode header.sendTime),
    (Layout.i16.pair <| Layout.i16.pair <| Layout.i16.pair <| Layout.i16.pair <|
      Layout.i32.pair <| Layout.i32.pair <| Layout.i32.pair Layout.i32).encode
        (header.sourceHost, header.sourceModule, header.destinationHost,
          header.destinationModule, header.dataBytes, header.remainingBytes, header.isDynamic,
          header.version), ?_, fun receiveTime => ?_⟩
  · simp only [List.length_append, Layout.length_encode]
    rfl
  · simp only [List.append_assoc]
    rfl

theorem Format.encodeHead_parts (format : Format) (present : Timecode) (header : Header)
    (timecode : Option Timecode) :
    ∃ front back : Bytes, front.length = receiveTimeOffset ∧ ∀ receiveTime,
      format.encodeHead present { header with receiveTime } timecode =
        front ++ Layout.f64.encode receiveTime ++ back := by
  rcases header.encode_parts with ⟨front, back, placed, same⟩
  cases format with
  | standard => exact ⟨front, back, placed, same⟩
  | timecode =>
      refine ⟨front, back ++ Timecode.layout.encode (timecode.getD present), placed, ?_⟩
      intro receiveTime
      rw [← List.append_assoc, ← same receiveTime]
      rfl

/-- Where the message has brought a timecode, the present one is not asked for. -/
theorem Format.encodeHead_eq {format : Format} {timecode : Option Timecode}
    (given : format.hasTimecode = true -> timecode.isSome = true)
    (present other : Timecode) (header : Header) :
    format.encodeHead present header timecode = format.encodeHead other header timecode := by
  cases format with
  | standard => rfl
  | timecode =>
      rcases Option.isSome_iff_exists.mp (given rfl) with ⟨own, rfl⟩
      rfl

end Wire

/-- The frame of a message that was received is the frame that was read, with the time
of receipt written over the eight bytes that held another one. -/
theorem Message.encode_atTime {message : Message} {format : Format} {limit : Nat}
    (framed : message.IsFramed format limit) (receiveTime : UInt64) (present other : Timecode) :
    (message.atTime receiveTime).encode format present =
      stampReceiveTime (message.encode format other) receiveTime := by
  rcases format.encodeHead_parts present message.header message.timecode with
    ⟨front, back, placed, same⟩
  have sent : message.encode format other =
      front ++ Layout.f64.encode message.header.receiveTime ++ (back ++ message.payload) := by
    unfold Message.encode
    rw [Format.encodeHead_eq framed.timed other present, ← List.append_assoc, ← same]
  rw [sent, stampReceiveTime_append _ _ _ placed]
  unfold Message.encode Message.atTime
  rw [same, List.append_assoc]

/-! ## What a broker meets -/

/-- A message that a broker has met, and the broker as it was then. -/
structure Inbound where
  broker : Broker
  handle : Handle
  message : Message

namespace Inbound

/-- Whether a message is passed on: its sender was registered at that moment, it asks
nothing of the manager, it agrees with the schemas, and somebody could be meant by it. -/
def isAccepted (inbound : Inbound) : Bool :=
  inbound.broker.modules.isRegistered inbound.handle &&
    !Request.isControl inbound.message.messageType &&
    (inbound.broker.schemas.validate inbound.message.header).isOk &&
    inbound.broker.isValidDestination inbound.message.header

/-- The frame that is passed on because of it, if there is one. -/
def passedOn? (inbound : Inbound) : Option Pending :=
  inbound.broker.accepted? inbound.handle inbound.message

/-- The message was read, at the time that it says, from a frame on the wire. -/
def IsReadFrom (format : Format) (limit : Nat) (inbound : Inbound) (frame : Bytes) : Prop :=
  ∃ sent : Message, sent.IsFramed format limit ∧ frame = sent.encode format {} ∧
    inbound.message = sent.atTime inbound.message.header.receiveTime

end Inbound

def Moment.inbound? : Moment -> Option Inbound
  | .met broker (.event (.message handle message)) => some ⟨broker, handle, message⟩
  | .met _ (.event (.ended _ _)) | .met _ (.arrival _) | .met _ (.poll _) | .met _ (.upkeep _)
  | .delivered _ => none

namespace History

/-- All messages that a broker has met in a run, in the order in which it did. -/
def inbound (history : List Moment) : List Inbound :=
  history.filterMap Moment.inbound?

/-- Those of one connection. -/
def heard (handle : Handle) (arrivals : List Inbound) : List Message :=
  (arrivals.filter (·.handle = handle)).map Inbound.message

theorem inbound_append (first second : List Moment) :
    inbound (first ++ second) = inbound first ++ inbound second :=
  List.filterMap_append

theorem inbound_delivered (history : List Moment) (deliveries : List Delivery) :
    inbound (history ++ deliveries.map .delivered) = inbound history := by
  have none : inbound (deliveries.map Moment.delivered) = [] := by
    apply List.filterMap_eq_nil_iff.mpr
    intro moment here
    rcases List.mem_map.mp here with ⟨delivery, _, rfl⟩
    rfl
  rw [inbound_append, none, List.append_nil]

/-- What was passed on is what was accepted of what was met. -/
theorem passedOn_eq_filterMap (history : List Moment) :
    passedOn history = (inbound history).filterMap Inbound.passedOn? := by
  induction history with
  | nil => rfl
  | cons moment history ih =>
      have split : ∀ moments, passedOn (moment :: moments) =
          passedOn [moment] ++ passedOn moments := fun moments => passedOn_append [moment] moments
      have splitInbound : inbound (moment :: history) = inbound [moment] ++ inbound history :=
        inbound_append [moment] history
      rw [split, splitInbound, List.filterMap_append, ih]
      congr 1
      cases moment with
      | delivered delivery => rfl
      | met broker occasion =>
          cases occasion with
          | event event =>
              cases event with
              | message handle message =>
                  show (Inbound.passedOn? ⟨broker, handle, message⟩).toList ++ [] =
                    [(⟨broker, handle, message⟩ : Inbound)].filterMap Inbound.passedOn?
                  cases accepted : Inbound.passedOn? ⟨broker, handle, message⟩ with
                  | none => rw [List.filterMap_cons_none accepted]; rfl
                  | some pending => rw [List.filterMap_cons_some accepted]; rfl
              | ended handle cause => rfl
          | arrival peer => rfl
          | poll now => rfl
          | upkeep clock => rfl

variable {handle : Handle} {arrival : Inbound} {arrivals : List Inbound}

theorem heard_cons_self (own : arrival.handle = handle) :
    heard handle (arrival :: arrivals) = arrival.message :: heard handle arrivals := by
  unfold heard
  rw [List.filter_cons, if_pos (decide_eq_true own), List.map_cons]

theorem heard_cons_of_ne (different : arrival.handle ≠ handle) :
    heard handle (arrival :: arrivals) = heard handle arrivals := by
  unfold heard
  rw [List.filter_cons, if_neg (by simpa using different)]

end History

namespace Frame

open History

variable {format : Format} {limit : Nat} {handle : Handle} {arrival : Inbound}
  {arrivals : List Inbound}

/-- A frame for every message that was met, such that the frames of each connection are,
one behind the other, the first of its bytes. -/
structure Attributed (format : Format) (limit : Nat) (wires : Handle -> Bytes)
    (attributed : List (Inbound × Bytes)) : Prop where
  read : ∀ pair ∈ attributed, pair.1.IsReadFrom format limit pair.2
  first : ∀ handle, (attributed.filter (·.1.handle = handle)).flatMap Prod.snd <+: wires handle

/-- What was read of a stream first was its first frame. -/
theorem framed_of_heard {clock : Nat -> UInt64} {bytes : Bytes} {message : Message}
    {messages : List Message}
    (begun : message :: messages <+: (readBytes clock format limit bytes).messages) :
    ∃ (sent : Message) (later : Bytes), sent.IsFramed format limit ∧
      bytes = sent.encode format {} ++ later ∧ message = sent.atTime (clock 0) ∧
      messages <+: (readBytes (Reader.afterFirst clock) format limit later).messages := by
  rcases framed_or_halts format limit {} bytes with
    ⟨sent, later, rfl, framed, placed⟩ | ⟨error, unread, halts⟩
  · rw [readBytes_framed framed {} later, sent.received_eq placed] at begun
    rcases List.cons_prefix_cons.mp begun with ⟨same, rest⟩
    exact ⟨sent, later, framed, rfl, same, rest⟩
  · rw [readBytes_halts halts] at begun
    exact absurd (List.prefix_nil.mp begun) (List.cons_ne_nil _ _)

/-- One more message in front, whose frame stands in front of what its connection has
left for the others. -/
theorem Attributed.cons {wires left : Handle -> Bytes} {attributed : List (Inbound × Bytes)}
    {frame : Bytes} (others : Attributed format limit left attributed)
    (read : arrival.IsReadFrom format limit frame)
    (whole : wires arrival.handle = frame ++ left arrival.handle)
    (elsewhere : ∀ other, other ≠ arrival.handle -> left other = wires other) :
    Attributed format limit wires ((arrival, frame) :: attributed) := by
  refine ⟨List.forall_mem_cons.mpr ⟨read, others.read⟩, fun handle => ?_⟩
  by_cases own : handle = arrival.handle
  · subst own
    rw [List.filter_cons, if_pos (by simp), List.flatMap_cons, whole]
    exact (List.prefix_append_right_inj _).mpr (others.first arrival.handle)
  · rw [List.filter_cons, if_neg (by simpa using Ne.symm own), ← elsewhere handle own]
    exact others.first handle

/-- Messages that were read from several streams, in whatever order, can be given back
the bytes that they were read from. -/
theorem exists_attributed {wires : Handle -> Bytes} (format : Format) (limit : Nat)
    (arrivals : List Inbound)
    (readers : ∀ handle, ∃ clock,
      heard handle arrivals <+: (readBytes clock format limit (wires handle)).messages) :
    ∃ attributed, attributed.map Prod.fst = arrivals ∧
      Attributed format limit wires attributed := by
  induction arrivals generalizing wires with
  | nil => exact ⟨[], rfl, List.forall_mem_nil _, fun handle => List.nil_prefix⟩
  | cons arrival arrivals ih =>
      rcases readers arrival.handle with ⟨clock, begun⟩
      rw [heard_cons_self rfl] at begun
      rcases framed_of_heard begun with ⟨sent, later, framed, whole, same, rest⟩
      -- The others are read from the same streams, but for the stream of this one, which
      -- has lost its first frame.
      let left := Function.update wires arrival.handle later
      have here : left arrival.handle = later := Function.update_self ..
      have elsewhere : ∀ other, other ≠ arrival.handle -> left other = wires other :=
        fun _ different => Function.update_of_ne different ..
      have readersLeft : ∀ handle, ∃ clock,
          heard handle arrivals <+: (readBytes clock format limit (left handle)).messages := by
        intro handle
        by_cases own : handle = arrival.handle
        · subst own
          refine ⟨Reader.afterFirst clock, ?_⟩
          rwa [here]
        · rw [← heard_cons_of_ne (Ne.symm own), elsewhere handle own]
          exact readers handle
      rcases ih readersLeft with ⟨attributed, arrived, others⟩
      have read : arrival.IsReadFrom format limit (sent.encode format {}) := by
        refine ⟨sent, framed, rfl, ?_⟩
        rw [same]
        rfl
      exact ⟨(arrival, sent.encode format {}) :: attributed, congrArg (arrival :: ·) arrived,
        others.cons read (here ▸ whole) elsewhere⟩

end Frame

/-! ## The whole run -/

namespace Bus

open History

variable {behaviour : Behaviour σ} {config : Config} {bus : Bus σ}

theorem inbound_step (behaviour : Behaviour σ) (bus : Bus σ) (move : Move σ) :
    ∀ arrival ∈ inbound (bus.step behaviour move).history,
      arrival ∈ inbound bus.history ∨ arrival.broker = bus.broker := by
  intro arrival here
  cases move with
  | occasion occasion =>
      have split : arrival ∈ inbound bus.history ++ inbound [.met bus.broker occasion] := by
        rw [← inbound_append]
        exact here
      rcases List.mem_append.mp split with earlier | new
      · exact Or.inl earlier
      · refine Or.inr ?_
        rcases List.mem_filterMap.mp new with ⟨moment, only, met⟩
        cases List.mem_singleton.mp only
        cases occasion with
        | event event =>
            cases event with
            | message handle message =>
                cases met
                rfl
            | ended handle cause => cases met
        | arrival peer => cases met
        | poll now => cases met
        | upkeep clock => cases met
  | readers queues => exact Or.inl here
  | deliver =>
      change arrival ∈ inbound (bus.deliver behaviour).history at here
      cases next : bus.broker.outbox with
      | nil =>
          rw [deliver_of_nil behaviour next] at here
          exact Or.inl here
      | cons pending outbox =>
          rw [deliver_of_cons behaviour next] at here
          have same := inbound_delivered bus.history
            [⟨pending, (bus.handOut behaviour pending outbox).attempts⟩]
          exact Or.inl (same ▸ here)

/-- All brokers of a run have the configuration that it was started with. -/
theorem Reachable.config_of_inbound (reachable : bus.Reachable behaviour config) :
    ∀ arrival ∈ inbound bus.history, arrival.broker.config = config := by
  induction reachable with
  | start started queues => exact List.forall_mem_nil _
  | @step bus reachable move ih =>
      intro arrival here
      rcases inbound_step behaviour bus move arrival here with earlier | own
      · exact ih arrival earlier
      · rw [own]
        exact reachable.sound.config_eq

end Bus

/-- The frame of a message that is passed on, made from the frame that was read. -/
def Inbound.relayed (inbound : Inbound) (frame : Bytes) : Pending :=
  ⟨inbound.message.header,
    ⟨.forwarded, stampReceiveTime frame inbound.message.header.receiveTime⟩, .subscribers⟩

theorem Inbound.passedOn?_eq {format : Format} {limit : Nat} {inbound : Inbound} {frame : Bytes}
    (configured : inbound.broker.config.format = format)
    (read : inbound.IsReadFrom format limit frame) :
    inbound.passedOn? =
      if inbound.isAccepted then some (inbound.relayed frame) else none := by
  rcases read with ⟨sent, framed, rfl, same⟩
  have encoded : inbound.message.encode format inbound.broker.clock.timecode =
      stampReceiveTime (sent.encode format {}) inbound.message.header.receiveTime := by
    conv => lhs; rw [same]
    exact Message.encode_atTime framed _ _ _
  unfold passedOn? Broker.accepted? isAccepted relayed
  rw [configured, encoded]

/-- The frames of all messages that are passed on. -/
def Inbound.relayedOf (attributed : List (Inbound × Bytes)) : List Pending :=
  (attributed.filter fun pair => pair.1.isAccepted).map fun pair => pair.1.relayed pair.2

theorem Frame.Attributed.passedOn_eq {format : Format} {limit : Nat} {wires : Handle -> Bytes}
    {attributed : List (Inbound × Bytes)}
    (ofWires : Frame.Attributed format limit wires attributed)
    (configured : ∀ arrival ∈ attributed.map Prod.fst, arrival.broker.config.format = format) :
    (attributed.map Prod.fst).filterMap Inbound.passedOn? = Inbound.relayedOf attributed := by
  have read := ofWires.read
  clear ofWires
  unfold Inbound.relayedOf
  induction attributed with
  | nil => rfl
  | cons pair attributed ih =>
      rw [List.map_cons] at configured
      rcases List.forall_mem_cons.mp configured with ⟨own, others⟩
      rcases List.forall_mem_cons.mp read with ⟨readHere, readLater⟩
      have decided := Inbound.passedOn?_eq own readHere
      by_cases accepted : pair.1.isAccepted = true
      · rw [if_pos accepted] at decided
        rw [List.map_cons, List.filterMap_cons_some decided, List.filter_cons, if_pos accepted,
          List.map_cons, ih others readLater]
      · rw [if_neg accepted] at decided
        rw [List.map_cons, List.filterMap_cons_none decided, List.filter_cons, if_neg accepted,
          ih others readLater]

namespace Bus

open History

variable {behaviour : Behaviour σ} {config : Config} {bus : Bus σ}

/-- What is passed on in a run are the messages that are accepted, in the order in which
they were met, each as the bytes that its sender put on the wire, but for the time of
receipt.  This holds as long as what the broker meets of each connection is what a reader
makes of the bytes of the connection, in whatever pieces they came.  Nothing else is ever
passed on, and after a flush all of it has left the outbox. -/
theorem Reachable.forwarded_exactly (reachable : bus.Reachable behaviour config)
    {pieces : Handle -> List Bytes} (nonempty : ∀ handle, ∀ piece ∈ pieces handle, piece ≠ [])
    (readers : ∀ handle, ∃ clock, heard handle (inbound bus.history) <+:
      (Frame.readStream clock (.start config.format config.transport.maxPayloadBytes)
        ((pieces handle).map .bytes)).messages) :
    ∃ attributed : List (Inbound × Bytes),
      attributed.map Prod.fst = inbound bus.history ∧
      Frame.Attributed config.format config.transport.maxPayloadBytes
        (fun handle => (pieces handle).flatten) attributed ∧
      forwarded (taken bus.history) ++ forwarded bus.broker.outbox =
        Inbound.relayedOf attributed ∧
      forwarded (taken (bus.flush behaviour).history) = Inbound.relayedOf attributed := by
  have whole : ∀ handle, ∃ clock, heard handle (inbound bus.history) <+:
      (Frame.readBytes clock config.format config.transport.maxPayloadBytes
        (pieces handle).flatten).messages := by
    intro handle
    rcases readers handle with ⟨clock, begun⟩
    rw [Frame.readStream_pieces clock _ (nonempty handle)] at begun
    exact ⟨clock, begun⟩
  rcases Frame.exists_attributed config.format config.transport.maxPayloadBytes
    (inbound bus.history) whole with ⟨attributed, arrived, ofWires⟩
  have configured : ∀ arrival ∈ attributed.map Prod.fst,
      arrival.broker.config.format = config.format := by
    intro arrival here
    rw [arrived] at here
    exact congrArg Config.format (reachable.config_of_inbound arrival here)
  have all : passedOn bus.history = Inbound.relayedOf attributed := by
    rw [passedOn_eq_filterMap, ← arrived]
    exact ofWires.passedOn_eq configured
  refine ⟨attributed, arrived, ofWires, reachable.passedOn_eq.symm.trans all, ?_⟩
  have same : passedOn (bus.flush behaviour).history = passedOn bus.history := by
    rw [(flush_eq behaviour bus).2.2, passedOn_eq_filterMap, inbound_delivered,
      ← passedOn_eq_filterMap]
  have gone := reachable.flush.passedOn_eq
  have nothing : forwarded (bus.flush behaviour).broker.outbox = [] := by
    rw [(flush_eq_run behaviour bus).1]
    rfl
  rw [nothing, List.append_nil, same, all] at gone
  exact gone.symm

/-- Two modules, of which the first says something that is passed on.  It says hello in
the same piece as the first bytes of this. -/
theorem forwarded_exactly_of_relay :
    let said : Message :=
      { header := { messageType := 1234, sourceModule := 7, receiveTime := 5, dataBytes := 1 }
        timecode := none
        payload := [3] }
    let relay := (vacant 20).run QueueRule.bounded.each (joining 1 7 false ++
      joining 2 8 false ++ [.occasion (.event (.message 1 said))])
    ∃ attributed, attributed.map Prod.fst = inbound relay.history ∧
      Inbound.relayedOf attributed =
        [⟨said.header,
          ⟨.forwarded, stampReceiveTime ((said.atTime 77).encode .standard {}) 5⟩,
          .subscribers⟩] := by
  intro said relay
  let hello (id : ModuleId) : Bytes :=
    Header.layout.encode { messageType := MessageType.connect, sourceModule := id, dataBytes := 4 }
      ++ [0, 0, 0, 0]
  let frame := (said.atTime 77).encode .standard {}
  let pieces (handle : Handle) : List Bytes :=
    if handle = 1 then [hello 7 ++ frame.take 9, frame.drop 9]
    else if handle = 2 then [hello 8]
    else []
  let hear (clock : Nat -> UInt64) (handle : Handle) : List Message :=
    (Frame.readStream clock (.start (Config.format {}) (Config.transport {}).maxPayloadBytes)
      ((pieces handle).map .bytes)).messages
  have reachable : relay.Reachable QueueRule.bounded.each {} := (vacant_reachable 20).run _
  have nonempty : ∀ handle, ∀ piece ∈ pieces handle, piece ≠ [] := by
    intro handle
    by_cases first : handle = 1
    · subst first
      decide +kernel
    by_cases second : handle = 2
    · subst second
      decide +kernel
    · simp only [pieces, if_neg first, if_neg second]
      exact List.forall_mem_nil _
  have senders : (inbound relay.history).map Inbound.handle = [1, 2, 1] := by decide +kernel
  have readers : ∀ handle, ∃ clock,
      heard handle (inbound relay.history) <+: hear clock handle := by
    intro handle
    by_cases first : handle = 1
    · subst first
      exact ⟨fun number => if number = 0 then 0 else 5, by decide +kernel⟩
    by_cases second : handle = 2
    · subst second
      exact ⟨fun _ => 0, by decide +kernel⟩
    · have silent : heard handle (inbound relay.history) = [] := by
        unfold heard
        rw [List.map_eq_nil_iff, List.filter_eq_nil_iff]
        intro arrival here
        have sender : arrival.handle ∈ [1, 2, 1] := senders ▸ List.mem_map_of_mem here
        rw [decide_eq_true_eq]
        rintro rfl
        simp [first, second] at sender
      rw [silent]
      exact ⟨fun _ => 0, List.nil_prefix⟩
  rcases reachable.forwarded_exactly nonempty readers with ⟨attributed, arrived, _, relayed, _⟩
  refine ⟨attributed, arrived, relayed.symm.trans ?_⟩
  decide +kernel

end Bus

end MessageBus
