import MessageBus.Proofs.Reading

namespace MessageBus

open Wire

/-!
# Streams to their end

A stream that is read to its end is a number of frames and something behind them of
which nothing is read.  `Frame.framed_induction` goes along the frames, and the two
accounts of a whole stream follow from it.  One starts from the messages: what was
framed is read, and of a stream that is cut off, as much as is there
(`Frame.read_encoded`).  The other starts from the bytes, whoever wrote them
(`Frame.read_anything`).

Both ends of a connection ask for one message after another.  They go about it
differently: the manager gives up at the first error, a client goes on if the error is
about one message only.  `Frame.listen` is either of them, and they are told the same
because no call is answered with such an error: a head is not looked at before it is
complete, so that it always has the size that decoding asks for.
-/

namespace Frame

variable {format : Format} {limit : Nat} {bytes : Bytes}

/-! ## Frames one behind the other -/

/-- What holds of bytes of which nothing is read, and of a frame and what is behind it
whenever it holds of what is behind it, holds. -/
theorem framed_induction (format : Format) (limit : Nat) (present : Timecode)
    {motive : Bytes -> Prop}
    (halts : ∀ bytes error unread, Halts format limit bytes error unread -> motive bytes)
    (framed : ∀ (message : Message) later, message.IsFramed format limit ->
      message.timecode.isSome = format.hasTimecode -> motive later ->
        motive (message.encode format present ++ later)) (bytes : Bytes) : motive bytes := by
  -- What is behind a frame is shorter because no head is empty.
  induction length : bytes.length using Nat.strong_induction_on generalizing bytes with
  | _ length ih =>
      rcases framed_or_halts format limit present bytes with
        ⟨message, later, rfl, isFramed, placed⟩ | ⟨error, unread, stuck⟩
      · refine framed message later isFramed placed (ih later.length ?_ later rfl)
        have size := Format.size_pos format
        rw [← length, List.length_append, message.length_encode]
        omega
      · exact halts bytes error unread stuck

/-- Messages as they are read one after the other. -/
def received (format : Format) (clock : Nat -> UInt64) (messages : List Message) :
    List Message :=
  messages.mapIdx fun number message => message.received format (clock number)

section Many

variable {clock : Nat -> UInt64} {present : Timecode} {message : Message}
  {messages : List Message}

theorem received_cons (format : Format) (clock : Nat -> UInt64) (message : Message)
    (messages : List Message) :
    received format clock (message :: messages) =
      message.received format (clock 0) :: received format (Reader.afterFirst clock) messages :=
  List.mapIdx_cons

theorem length_flatMap_encode_ge (messages : List Message) (format : Format)
    (present : Timecode) :
    messages.length * format.size ≤ (messages.flatMap (·.encode format present)).length := by
  rw [List.length_flatMap]
  have each := List.card_nsmul_le_sum
    (messages.map fun message => (message.encode format present).length) format.size
  rw [List.length_map, smul_eq_mul] at each
  apply each
  intro length here
  rcases List.mem_map.mp here with ⟨message, _, rfl⟩
  rw [message.length_encode]
  exact Nat.le_add_right _ _

/-- Every string of bytes is a number of frames and something of which nothing is read. -/
theorem readBytes_eq (clock : Nat -> UInt64) (format : Format) (limit : Nat)
    (present : Timecode) (bytes : Bytes) :
    ∃ sent rest error unread, bytes = sent.flatMap (·.encode format present) ++ rest ∧
      (∀ message ∈ sent, message.IsFramed format limit ∧
        message.timecode.isSome = format.hasTimecode) ∧
      Halts format limit rest error unread ∧
      readBytes clock format limit bytes = ⟨received format clock sent, error, unread⟩ := by
  induction bytes using framed_induction format limit present generalizing clock with
  | halts bytes error unread stuck =>
      exact ⟨[], bytes, error, unread, rfl, List.forall_mem_nil _, stuck, readBytes_halts stuck⟩
  | framed message later isFramed placed ih =>
      rcases ih (Reader.afterFirst clock) with
        ⟨sent, rest, error, unread, rfl, all, stuck, read⟩
      refine ⟨message :: sent, rest, error, unread, ?_, ?_, stuck, ?_⟩
      · rw [List.flatMap_cons, List.append_assoc]
      · exact List.forall_mem_cons.mpr ⟨⟨isFramed, placed⟩, all⟩
      · rw [readBytes_framed isFramed present, read, received_cons]
        rfl

/-- Of a frame that is cut short nothing is read. -/
theorem halts_of_cut (framed : message.IsFramed format limit)
    (begun : bytes <+: message.encode format present)
    (cut : bytes.length < (message.encode format present).length) :
    Halts format limit bytes (.ofFault .earlyEnd) 0 := by
  by_cases inHead : bytes.length < format.size
  · exact .outOfHead inHead
  have filled := Format.length_encodeHead format present message.header message.timecode
  have headFirst : format.encodeHead present message.header message.timecode <+: bytes := by
    apply List.prefix_of_prefix_length_le (List.prefix_append _ message.payload) begun
    rw [filled]
    exact Nat.le_of_not_lt inHead
  rcases headFirst with ⟨part, rfl⟩
  have decoded := (readHead_of_length filled).trans
    (congrArg Except.ok (Format.decodeHead_encodeHead present message.header framed.timed))
  have length := framed.payloadLength_eq
  refine .outOfBody decoded (length ▸ framed.within) ?_
  rw [message.length_encode, List.length_append, filled] at cut
  omega

/-- Of frames that are cut short those are read that are there to their last byte. -/
theorem readBytes_cut (clock : Nat -> UInt64)
    (framed : ∀ message ∈ messages, message.IsFramed format limit)
    (begun : bytes <+: messages.flatMap (·.encode format present)) :
    ∃ count ≤ messages.length,
      (∀ index < messages.length, index < count ↔
        ((messages.take (index + 1)).flatMap (·.encode format present)).length ≤ bytes.length) ∧
      readBytes clock format limit bytes =
        ⟨received format clock (messages.take count), .ofFault .earlyEnd, 0⟩ := by
  induction messages generalizing clock bytes with
  | nil =>
      have empty : bytes = [] := List.prefix_nil.mp begun
      subst empty
      exact ⟨0, Nat.le_refl 0, by simp, readBytes_halts (.outOfHead (Format.size_pos format))⟩
  | cons message messages ih =>
      rcases List.forall_mem_cons.mp framed with ⟨isFramed, others⟩
      rw [List.flatMap_cons] at begun
      -- The cut is behind the first frame or inside it.
      by_cases whole : (message.encode format present).length ≤ bytes.length
      · have first : message.encode format present <+: bytes :=
          List.prefix_of_prefix_length_le (List.prefix_append _ _) begun whole
        rcases first with ⟨later, rfl⟩
        rcases ih (Reader.afterFirst clock) others
          ((List.prefix_append_right_inj _).mp begun) with ⟨count, le, complete, read⟩
        refine ⟨count + 1, Nat.succ_le_succ le, fun index inside => ?_, ?_⟩
        · rw [List.take_succ_cons, List.flatMap_cons, List.length_append, List.length_append]
          cases index with
          | zero => simp
          | succ index =>
              have next := complete index (Nat.lt_of_succ_lt_succ inside)
              omega
        · rw [readBytes_framed isFramed present, read, List.take_succ_cons, received_cons]
          rfl
      · have short := Nat.lt_of_not_le whole
        have part : bytes <+: message.encode format present :=
          List.prefix_of_prefix_length_le begun (List.prefix_append _ _) (Nat.le_of_lt short)
        refine ⟨0, Nat.zero_le _, fun index _ => ?_,
          readBytes_halts (halts_of_cut isFramed part short)⟩
        rw [List.take_succ_cons, List.flatMap_cons, List.length_append]
        omega

/-- Messages that are framed one behind the other are read as they were sent, except for
the time of receipt, however the stream is cut into pieces, and then the stream is over.
If it is cut off anywhere, those are read of which the last byte has come, and nothing of
the one behind them.  (A timecode that the format has no place for does not come along.) -/
theorem read_encoded (clock : Nat -> UInt64) {pieces : List Bytes}
    (framed : ∀ message ∈ messages, message.IsFramed format limit)
    (nonempty : ∀ piece ∈ pieces, piece ≠ [])
    (delivered : pieces.flatten <+: messages.flatMap (·.encode format present)) :
    let transcript := readStream clock (.start format limit) (pieces.map .bytes)
    (∃ count ≤ messages.length,
      transcript.messages = received format clock (messages.take count) ∧
      ∀ index < messages.length, index < count ↔
        ((messages.take (index + 1)).flatMap (·.encode format present)).length ≤
          pieces.flatten.length) ∧
      (pieces.flatten = messages.flatMap (·.encode format present) ->
        transcript.messages = received format clock messages) ∧
      transcript.ending = .connectionLost "early eof" ∧
      ∀ message ∈ messages, message.timecode.isSome = format.hasTimecode -> ∀ receiveTime,
        message.received format receiveTime = message.atTime receiveTime := by
  intro transcript
  rcases readBytes_cut clock framed delivered with ⟨count, le, complete, read⟩
  have same : transcript = readBytes clock format limit pieces.flatten :=
    readStream_pieces clock _ nonempty
  have heard : transcript.messages = received format clock (messages.take count) := by
    rw [same, read]
  refine ⟨⟨count, le, heard, complete⟩, fun whole => ?_, ?_, ?_⟩
  · have all : count = messages.length := by
      by_contra fewer
      have inside : count < messages.length := Nat.lt_of_le_of_ne le fewer
      apply Nat.lt_irrefl count
      rw [complete count inside, whole]
      exact ((List.take_prefix _ messages).flatMap _).length_le
    rw [heard, all, List.take_length]
  · rw [same, read]
    rfl
  · intro message _ placed receiveTime
    exact message.received_eq placed receiveTime

/-- Two messages, the stream cut inside the first head, and then the same without its
last byte and cut inside the first payload. -/
theorem read_encoded_of_two :
    let first : Message :=
      { header := { messageType := 7, dataBytes := 1, receiveTime := 99 }
        timecode := some { seconds := 5 }
        payload := [0xFF] }
    let second : Message :=
      { header := { messageType := 8, dataBytes := 2 }, timecode := some {}, payload := [1, 2] }
    let stream := first.encode .timecode {} ++ second.encode .timecode {}
    let hear (pieces : List Bytes) : List Message :=
      (readStream (fun number => .ofNat number) (.start .timecode 2)
        (pieces.map .bytes)).messages
    hear [stream.take 9, stream.drop 9] =
        [first.atTime 0, second.atTime 1] ∧
      hear [stream.take 56, (stream.drop 56).take 58] = [first.atTime 0] := by
  intro first second stream hear
  have framed : ∀ message ∈ [first, second], message.IsFramed .timecode 2 := by
    intro message here
    rcases List.mem_pair.mp here with rfl | rfl
    · exact ⟨by decide, by decide, fun _ => rfl⟩
    · exact ⟨by decide, by decide, fun _ => rfl⟩
  have nonempty : ∀ piece ∈ [stream.take 9, stream.drop 9], piece ≠ [] := by decide +kernel
  have nonemptyCut : ∀ piece ∈ [stream.take 56, (stream.drop 56).take 58], piece ≠ [] := by
    decide +kernel
  constructor
  · have whole : [stream.take 9, stream.drop 9].flatten =
        [first, second].flatMap (·.encode .timecode {}) := by
      decide +kernel
    exact (read_encoded _ framed nonempty ⟨[], (List.append_nil _).trans whole⟩).2.1 whole
  · have begun : [stream.take 56, (stream.drop 56).take 58].flatten <+:
        [first, second].flatMap (·.encode .timecode {}) := by
      decide +kernel
    rcases (read_encoded (fun number => .ofNat number) framed nonemptyCut begun).1 with
      ⟨count, _, heard, complete⟩
    have one : 0 < count := (complete 0 (by decide)).mpr (by decide +kernel)
    have notTwo : ¬ 1 < count := fun two =>
      absurd ((complete 1 (by decide)).mp two) (by decide +kernel)
    have exactly : count = 1 := by omega
    rw [exactly] at heard
    exact heard

end Many

/-! ## One message after another -/

/-- What is left of a stream of which a piece was read up to some bytes. -/
def leave (left : Bytes) (rest : List Chunk) : List Chunk :=
  if left = [] then rest else .bytes left :: rest

/-- Ask for one message; the answer, and what is left of the stream. -/
def Reader.call (receiveTime : UInt64) :
    Reader -> List Chunk -> Except ProtocolError Message × List Chunk
  | _, [] => (.error (.ofFault .earlyEnd), [])
  | _, .fault fault :: rest => (.error (.ofFault fault), rest)
  | _, .bytes [] :: rest => (.error (.ofFault .earlyEnd), rest)
  | reader, .bytes bytes :: rest =>
      match reader.take receiveTime bytes with
      | .hungry next => call receiveTime next rest
      | .message message left => (.ok message, leave left rest)
      | .refused error left => (.error error, leave left rest)

/-- Ask for one message after another, at most so many times, and tell every answer.
`stops` says after which errors nothing more is asked for. -/
def listen (stops : ProtocolError -> Bool) (format : Format) (limit : Nat) :
    (rounds : Nat) -> (clock : Nat -> UInt64) -> List Chunk ->
      List (Except ProtocolError Message)
  | 0, _, _ => []
  | rounds + 1, clock, chunks =>
      match (Reader.start format limit).call (clock 0) chunks with
      | (.ok message, rest) =>
          .ok message :: listen stops format limit rounds (Reader.afterFirst clock) rest
      | (.error error, rest) =>
          .error error ::
            if stops error then []
            else listen stops format limit rounds (Reader.afterFirst clock) rest

/-- What somebody is told who asks until there is an error. -/
def Transcript.answers (transcript : Transcript) : List (Except ProtocolError Message) :=
  transcript.messages.map .ok ++ [.error transcript.ending]

section Calls

variable {clock : Nat -> UInt64} {receiveTime : UInt64} {reader next : Reader}
  {chunks rest : List Chunk} {message : Message} {messages : List Message}
  {error : ProtocolError} {left : Bytes}

theorem Reader.call_bytes (some : bytes ≠ []) :
    reader.call receiveTime (.bytes bytes :: rest) =
      match reader.take receiveTime bytes with
      | .hungry next => call receiveTime next rest
      | .message message left => (.ok message, leave left rest)
      | .refused error left => (.error error, leave left rest) := by
  rcases List.exists_cons_of_ne_nil some with ⟨byte, others, rfl⟩
  rfl

/-- A reader that is given what another piece has left goes on with it. -/
theorem readStream_leave (clock : Nat -> UInt64) (reader : Reader) (left : Bytes)
    (rest : List Chunk) :
    readStream clock reader (leave left rest) =
      match reader.run clock left with
      | (messages, .error (error, unused)) =>
          ⟨messages, error, unused.length + total (rest.map Chunk.size)⟩
      | (messages, .ok next) =>
          (readStream (fun number => clock (number + messages.length)) next rest).after
            messages := by
  unfold leave
  by_cases empty : left = []
  · subst empty
    rfl
  · rw [if_neg empty]
    rcases ran : reader.run clock left with ⟨messages, ⟨error, unused⟩ | next⟩
    · exact readStream_of_error empty ran
    · exact readStream_of_ok empty ran

/-- A call that is answered with a message leaves the rest of the transcript to those
that follow. -/
theorem readStream_of_call_ok (whole : reader.IsWhole)
    (called : reader.call (clock 0) chunks = (.ok message, rest)) :
    readStream clock reader chunks =
      (readStream (Reader.afterFirst clock) reader.restart rest).after [message] := by
  induction chunks generalizing reader with
  | nil => cases called
  | cons chunk chunks ih =>
      cases chunk with
      | fault fault => cases called
      | bytes piece =>
          by_cases empty : piece = []
          · subst empty
            cases called
          rw [Reader.call_bytes empty] at called
          have fits := Reader.fits_take whole (clock 0) piece
          have ran := Reader.run_eq whole clock piece
          cases taken : reader.take (clock 0) piece with
          | hungry next =>
              rw [taken] at called ran fits
              rw [readStream_of_ok empty ran, ← fits.2]
              exact ih fits.1 called
          | message first left =>
              rw [taken] at called ran
              cases called
              rw [readStream_leave]
              rcases later : reader.restart.run (Reader.afterFirst clock) left with
                ⟨messages, ⟨error, unused⟩ | next⟩
              · simp only [Reader.Outcome.goOn, later] at ran
                exact readStream_of_error empty ran
              · simp only [Reader.Outcome.goOn, later] at ran
                exact readStream_of_ok empty ran
          | refused error left =>
              rw [taken] at called
              cases called

theorem readStream_of_call_error (whole : reader.IsWhole)
    (called : reader.call (clock 0) chunks = (.error error, rest)) :
    (readStream clock reader chunks).answers = [.error error] := by
  induction chunks generalizing reader with
  | nil =>
      cases called
      rfl
  | cons chunk chunks ih =>
      cases chunk with
      | fault fault =>
          cases called
          rfl
      | bytes piece =>
          by_cases empty : piece = []
          · subst empty
            cases called
            rfl
          rw [Reader.call_bytes empty] at called
          have fits := Reader.fits_take whole (clock 0) piece
          have ran := Reader.run_eq whole clock piece
          cases taken : reader.take (clock 0) piece with
          | hungry next =>
              rw [taken] at called ran fits
              rw [readStream_of_ok empty ran]
              exact ih fits.1 called
          | message first left =>
              rw [taken] at called
              cases called
          | refused error left =>
              rw [taken] at called ran
              cases called
              rw [readStream_of_error empty ran]
              rfl

theorem isFatal_ofFault (fault : Fault) : (ProtocolError.ofFault fault).isFatal = true := by
  unfold ProtocolError.ofFault
  split <;> rfl

/-- No call is answered with an error that is about one message. -/
theorem Reader.isFatal_of_call (whole : reader.IsWhole)
    (called : reader.call receiveTime chunks = (.error error, rest)) : error.isFatal = true := by
  induction chunks generalizing reader with
  | nil =>
      cases called
      rfl
  | cons chunk chunks ih =>
      cases chunk with
      | fault fault =>
          cases called
          exact isFatal_ofFault fault
      | bytes piece =>
          by_cases empty : piece = []
          · subst empty
            cases called
            rfl
          have fits := fits_take whole receiveTime piece
          rw [call_bytes empty] at called
          cases taken : reader.take receiveTime piece with
          | hungry next =>
              rw [taken] at called fits
              exact ih fits.1 called
          | message message left =>
              rw [taken] at called
              cases called
          | refused error left =>
              rw [taken] at called fits
              cases called
              exact fits

/-- Whoever takes what has arrived of a stream, so many messages at most, takes the first
ones of all that are there, and if that is not all that were asked for, learns how the
stream ended. -/
theorem Reader.harvest_eq (whole : reader.IsWhole) (receiveTime : UInt64) (isEnded : Bool)
    (count : Nat) (bytes : Bytes) :
    let ran := reader.run (fun _ => receiveTime) bytes
    let harvest := reader.harvest receiveTime isEnded count bytes
    harvest.messages = ran.1.take count ∧
      (isEnded = true -> ran.1.length < count ->
        harvest.ending = .error (Transcript.ofRun ran).ending) := by
  induction count generalizing reader bytes with
  | zero => exact ⟨rfl, fun _ none => absurd none (Nat.not_lt_zero _)⟩
  | succ count ih =>
      dsimp only
      unfold harvest
      rw [run_eq whole]
      cases taken : reader.take receiveTime bytes with
      | hungry next =>
          refine ⟨rfl, fun ended _ => ?_⟩
          subst ended
          rfl
      | message message rest =>
          rcases ih (isWhole_start reader.format reader.limit) rest with ⟨first, last⟩
          refine ⟨congrArg (message :: ·) first, fun ended enough => ?_⟩
          refine (last ended (Nat.lt_of_succ_lt_succ enough)).trans ?_
          exact congrArg Except.error
            (congrArg Transcript.ending (Transcript.ofRun_after [message] _)).symm
      | refused error rest => exact ⟨rfl, fun _ _ => rfl⟩

/-- A loop that ends after a fatal error, whatever it does after others, tells what
there is to be told and no more. -/
theorem listen_eq {stops : ProtocolError -> Bool}
    (fatal : ∀ error, error.isFatal = true -> stops error = true) (format : Format)
    (limit rounds : Nat) (clock : Nat -> UInt64) (chunks : List Chunk) :
    listen stops format limit rounds clock chunks =
      (readStream clock (.start format limit) chunks).answers.take rounds := by
  induction rounds generalizing clock chunks with
  | zero => rfl
  | succ rounds ih =>
      unfold listen
      rcases called : (Reader.start format limit).call (clock 0) chunks with
        ⟨error | message, rest⟩
      · have stopped : stops error = true :=
          fatal error (Reader.isFatal_of_call (Reader.isWhole_start format limit) called)
        rw [readStream_of_call_error (Reader.isWhole_start format limit) called,
          List.take_succ_cons, List.take_nil]
        simp only [stopped, if_true]
      · rw [readStream_of_call_ok (Reader.isWhole_start format limit) called]
        simp only [ih]
        rfl

end Calls

/-- What is read of any stream that ends.  It is a number of frames and something of
which nothing is read; the messages are those of the frames, except for the time of
receipt, and why the reading stops is said by the rest alone.  The pieces in which the
stream arrives do not matter.  No error is about one message only, so the loop that goes
on after such errors and the loop that stops at every error are told the same; and who
takes from the stream what has arrived takes the first of these messages. -/
theorem read_anything (clock : Nat -> UInt64) (format : Format) (limit : Nat)
    (present : Timecode) {pieces : List Bytes} (nonempty : ∀ piece ∈ pieces, piece ≠ []) :
    let transcript := readStream clock (.start format limit) (pieces.map .bytes)
    (∃ (sent : List Message) (rest : Bytes),
        pieces.flatten = sent.flatMap (·.encode format present) ++ rest ∧
      (∀ message ∈ sent, message.IsFramed format limit ∧
        (message.encode format present).length = format.size + message.header.payloadLength) ∧
      transcript.messages = sent.mapIdx (fun number message => message.atTime (clock number)) ∧
      ∀ error unread, transcript.ending = error ∧ transcript.unread = unread ↔
        Halts format limit rest error unread) ∧
      transcript.messages.length * format.size ≤ pieces.flatten.length ∧
      (∀ others : List Bytes, (∀ piece ∈ others, piece ≠ []) ->
        others.flatten = pieces.flatten ->
          readStream clock (.start format limit) (others.map .bytes) = transcript) ∧
      (∀ receiveTime chunks error left,
        (Reader.start format limit).call receiveTime chunks = (.error error, left) ->
          error.isFatal = true) ∧
      (∀ chunks rounds,
        let answers := (readStream clock (.start format limit) chunks).answers
        listen (fun _ => true) format limit rounds clock chunks = answers.take rounds ∧
          listen ProtocolError.isFatal format limit rounds clock chunks =
            answers.take rounds) ∧
      ∀ receiveTime count,
        let told := readStream (fun _ => receiveTime) (.start format limit) (pieces.map .bytes)
        let harvest := (Reader.start format limit).harvest receiveTime true count pieces.flatten
        harvest.messages = told.messages.take count ∧
          (told.messages.length < count -> harvest.ending = .error told.ending) := by
  intro transcript
  have same : transcript = readBytes clock format limit pieces.flatten :=
    readStream_pieces clock _ nonempty
  rcases readBytes_eq clock format limit present pieces.flatten with
    ⟨sent, rest, error, unread, whole, framed, halts, read⟩
  rw [← same] at read
  have messages : transcript.messages = received format clock sent :=
    congrArg Transcript.messages read
  have ending : transcript.ending = error := congrArg Transcript.ending read
  have unseen : transcript.unread = unread := congrArg Transcript.unread read
  refine ⟨⟨sent, rest, whole, ?_, ?_, ?_⟩, ?_, ?_, ?_, ?_, ?_⟩
  · intro message here
    have isFramed := (framed message here).1
    refine ⟨isFramed, ?_⟩
    rw [message.length_encode, isFramed.payloadLength_eq]
  · rw [messages]
    apply List.mapIdx_eq_mapIdx_iff.mpr
    intro index inside
    exact Message.received_eq (framed _ (List.getElem_mem inside)).2 (clock index)
  · intro otherError otherUnread
    constructor
    · rintro ⟨rfl, rfl⟩
      rwa [ending, unseen]
    · intro again
      rw [ending, unseen]
      exact halts.unique again
  · have frames := length_flatMap_encode_ge sent format present
    rw [messages, whole, List.length_append]
    unfold received
    rw [List.length_mapIdx]
    omega
  · intro others othersNonempty flat
    rw [same, ← flat]
    exact readStream_pieces clock _ othersNonempty
  · intro receiveTime chunks error left called
    exact Reader.isFatal_of_call (Reader.isWhole_start format limit) called
  · intro chunks rounds answers
    constructor
    · exact listen_eq (fun _ _ => rfl) format limit rounds clock chunks
    · exact listen_eq (fun _ fatal => fatal) format limit rounds clock chunks
  · intro receiveTime count told harvest
    have all : told = .ofRun ((Reader.start format limit).run (fun _ => receiveTime)
        pieces.flatten) := readStream_pieces _ _ nonempty
    rcases Reader.harvest_eq (Reader.isWhole_start format limit) receiveTime true count
      pieces.flatten with ⟨first, last⟩
    rw [all, Transcript.messages_ofRun]
    exact ⟨first, last rfl⟩

/-- A frame and a head that announces less than nothing, with two bytes behind it. -/
theorem read_anything_of_negative :
    let message : Message :=
      { header := { messageType := 7, dataBytes := 1 }, timecode := none, payload := [3] }
    let bytes := message.encode .standard {} ++
      Header.layout.encode { messageType := 5, dataBytes := -1 } ++ [8, 9]
    let hear (pieces : List Bytes) : Transcript :=
      readStream (fun number => .ofNat number) (.start .standard 1) (pieces.map .bytes)
    (hear [bytes.take 60, bytes.drop 60]).messages.length = 1 ∧
      (∃ rest, Halts .standard 1 rest (.invalidLength 5 (-1)) 2) ∧
      hear (bytes.map fun byte => [byte]) = hear [bytes.take 60, bytes.drop 60] := by
  intro message bytes hear
  have nonempty : ∀ piece ∈ [bytes.take 60, bytes.drop 60], piece ≠ [] := by decide +kernel
  have single : ∀ piece ∈ bytes.map fun byte => [byte], piece ≠ [] := by
    intro piece here
    rcases List.mem_map.mp here with ⟨byte, _, rfl⟩
    exact List.cons_ne_nil byte []
  have heard : (hear [bytes.take 60, bytes.drop 60]).messages.length = 1 := by decide +kernel
  have ending : (hear [bytes.take 60, bytes.drop 60]).ending = .invalidLength 5 (-1) := by
    decide +kernel
  have unread : (hear [bytes.take 60, bytes.drop 60]).unread = 2 := by decide +kernel
  rcases read_anything (fun number => .ofNat number) .standard 1 {} nonempty with
    ⟨⟨_, rest, _, _, _, reason⟩, _, same, _⟩
  have flat : (bytes.map fun byte => [byte]).flatten =
      [bytes.take 60, bytes.drop 60].flatten := by
    decide +kernel
  exact ⟨heard, ⟨rest, (reason _ _).mp ⟨ending, unread⟩⟩, same _ single flat⟩

end Frame

end MessageBus
