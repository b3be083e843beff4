import MessageBus.Proofs.Framing

namespace MessageBus

open Wire

/-!
# Frame or no frame

A string of bytes begins with a frame, or nothing is read of it.  There are four ways
not to begin with a frame: there is less than a head, or less than the payload that a
head announces, or a head whose length no payload is read for, because it is negative
or above the limit.  `Frame.Halts` names them, and says for each what a reader says and
how many bytes it leaves alone.  The two cases are shown of bytes first, then of the
reader, and they exclude each other because a reader says only one thing.

What a reader makes of a piece is what it makes of the first thing in it, and then of
the rest (`Frame.Reader.run_eq`); two pieces one behind the other are like one.  So what
is read of a whole stream is a function of its bytes, `Frame.readBytes`, in which the
pieces no longer occur.
-/

/-! ## Heads there and back -/

namespace Wire.Format

variable {format : Format} {bytes : Bytes}

/-- As much of a message's timecode as stands in its frame. -/
def carried (format : Format) (timecode : Option Timecode) : Option Timecode :=
  if format.hasTimecode then timecode else none

theorem carried_eq {timecode : Option Timecode} (placed : timecode.isSome = format.hasTimecode) :
    format.carried timecode = timecode := by
  cases format with
  | standard => exact (Option.not_isSome_iff_eq_none.mp (Bool.eq_false_iff.mp placed)).symm
  | timecode => rfl

theorem decodeHead_encodeHead (present : Timecode) (header : Header) {timecode : Option Timecode}
    (given : format.hasTimecode = true -> timecode.isSome = true) :
    format.decodeHead (format.encodeHead present header timecode) =
      (header, format.carried timecode) := by
  cases format with
  | standard => exact congrArg (·, none) (Header.layout.decode_encode header)
  | timecode =>
      rcases Option.isSome_iff_exists.mp (given rfl) with ⟨own, rfl⟩
      have head := Header.layout.length_encode header
      show (Header.layout.decode ((Header.layout.encode header ++ _).take _),
        some (Timecode.layout.decode ((Header.layout.encode header ++ _).drop _))) = _
      rw [List.take_left' head, List.drop_left' head, Header.layout.decode_encode,
        Timecode.layout.decode_encode]
      rfl

theorem encodeHead_decodeHead (present : Timecode) (filled : bytes.length = format.size) :
    format.encodeHead present (format.decodeHead bytes).1 (format.decodeHead bytes).2 = bytes := by
  cases format with
  | standard => exact Header.layout.encode_decode bytes filled
  | timecode =>
      have sized : bytes.length = Header.layout.size + Timecode.layout.size := filled
      have head : (bytes.take Header.layout.size).length = Header.layout.size := by
        rw [List.length_take, sized]
        omega
      have tail : (bytes.drop Header.layout.size).length = Timecode.layout.size := by
        rw [List.length_drop, sized]
        omega
      show Header.layout.encode (Header.layout.decode (bytes.take _)) ++
        Timecode.layout.encode (Timecode.layout.decode (bytes.drop _)) = bytes
      rw [Header.layout.encode_decode _ head, Timecode.layout.encode_decode _ tail,
        List.take_append_drop]

theorem isSome_decodeHead (format : Format) (bytes : Bytes) :
    (format.decodeHead bytes).2.isSome = format.hasTimecode := by
  cases format <;> rfl

end Wire.Format

theorem Wire.Header.not_negative_of_payloadLength {header : Header}
    (some : 0 < header.payloadLength) : ¬ header.dataBytes < 0 := by
  intro negative
  have below : header.dataBytes.toInt < 0 := Int32.lt_iff_toInt_lt.mp negative
  unfold payloadLength at some
  omega

/-! ## Frames -/

namespace Message

/-- A message whose frame can be read: the header states the length of the payload,
which is within the limit, and there is a timecode where the format has a place for it. -/
structure IsFramed (format : Format) (limit : Nat) (message : Message) : Prop where
  length : message.header.dataBytes.toInt = message.payload.length
  within : message.payload.length ≤ limit
  timed : format.hasTimecode = true -> message.timecode.isSome = true

/-- The same message with another time of receipt. -/
def atTime (message : Message) (receiveTime : UInt64) : Message :=
  { message with header := { message.header with receiveTime } }

/-- A message as it is read from its frame at some time. -/
def received (format : Format) (receiveTime : UInt64) (message : Message) : Message :=
  { message.atTime receiveTime with timecode := format.carried message.timecode }

variable {format : Format} {limit : Nat} {message : Message}

theorem received_eq (placed : message.timecode.isSome = format.hasTimecode)
    (receiveTime : UInt64) :
    message.received format receiveTime = message.atTime receiveTime := by
  unfold received
  rw [Format.carried_eq placed]
  rfl

namespace IsFramed

theorem payloadLength_eq (framed : message.IsFramed format limit) :
    message.header.payloadLength = message.payload.length := by
  unfold Header.payloadLength
  rw [framed.length]
  exact Int.toNat_natCast _

theorem not_negative (framed : message.IsFramed format limit) :
    ¬ message.header.dataBytes < 0 := by
  intro negative
  have below : message.header.dataBytes.toInt < 0 := Int32.lt_iff_toInt_lt.mp negative
  rw [framed.length] at below
  omega

end IsFramed

theorem length_encode (message : Message) (format : Format) (present : Timecode) :
    (message.encode format present).length = format.size + message.payload.length := by
  unfold encode
  rw [List.length_append, Format.length_encodeHead]

end Message

namespace Frame

/-- Why nothing is read of the bytes that are left when a stream ends, and how many of
them are not even looked at.  A head with a length that is positive and within the limit
is no reason by itself; one byte of payload too few is. -/
inductive Halts (format : Format) (limit : Nat) :
    Bytes -> ProtocolError -> (unread : Nat) -> Prop where
  | outOfHead {bytes : Bytes} (short : bytes.length < format.size) :
      Halts format limit bytes (.ofFault .earlyEnd) 0
  | negative {head rest : Bytes} {header : Header} {timecode : Option Timecode}
      (decoded : readHead format head = .ok (header, timecode))
      (negative : header.dataBytes < 0) :
      Halts format limit (head ++ rest)
        (.invalidLength header.messageType header.dataBytes) rest.length
  | tooLarge {head rest : Bytes} {header : Header} {timecode : Option Timecode}
      (decoded : readHead format head = .ok (header, timecode))
      (tooLarge : limit < header.payloadLength) :
      Halts format limit (head ++ rest)
        (.payloadTooLarge header.messageType header.payloadLength limit) rest.length
  | outOfBody {head rest : Bytes} {header : Header} {timecode : Option Timecode}
      (decoded : readHead format head = .ok (header, timecode))
      (within : header.payloadLength ≤ limit) (short : rest.length < header.payloadLength) :
      Halts format limit (head ++ rest) (.ofFault .earlyEnd) 0

variable {format : Format} {limit : Nat} {bytes : Bytes}

/-- A string of bytes begins with a frame, or nothing is read of it. -/
theorem framed_or_halts (format : Format) (limit : Nat) (present : Timecode) (bytes : Bytes) :
    (∃ message later, bytes = Message.encode message format present ++ later ∧
      message.IsFramed format limit ∧ message.timecode.isSome = format.hasTimecode) ∨
    ∃ error unread, Halts format limit bytes error unread := by
  by_cases short : bytes.length < format.size
  · exact Or.inr ⟨_, _, .outOfHead short⟩
  have filled : (bytes.take format.size).length = format.size :=
    List.length_take_of_le (Nat.le_of_not_lt short)
  have whole : bytes.take format.size ++ bytes.drop format.size = bytes :=
    List.take_append_drop ..
  generalize bytes.take format.size = head at filled whole
  generalize bytes.drop format.size = rest at whole
  subst whole
  have decoded := readHead_of_length filled
  have same := Format.encodeHead_decodeHead present filled
  have timed := Format.isSome_decodeHead format head
  rcases understood : format.decodeHead head with ⟨header, timecode⟩
  rw [understood] at decoded same timed
  by_cases negative : header.dataBytes < 0
  · exact Or.inr ⟨_, _, .negative decoded negative⟩
  by_cases tooLarge : limit < header.payloadLength
  · exact Or.inr ⟨_, _, .tooLarge decoded tooLarge⟩
  by_cases few : rest.length < header.payloadLength
  · exact Or.inr ⟨_, _, .outOfBody decoded (Nat.le_of_not_lt tooLarge) few⟩
  refine Or.inl ⟨⟨header, timecode, rest.take header.payloadLength⟩,
    rest.drop header.payloadLength, ?_, ?_, timed⟩
  · show head ++ rest = (format.encodeHead present header timecode ++ _) ++ _
    rw [same, List.append_assoc, List.take_append_drop]
  · have length : (rest.take header.payloadLength).length = header.payloadLength :=
      List.length_take_of_le (Nat.le_of_not_lt few)
    have counted : ¬ header.dataBytes.toInt < 0 := fun below =>
      negative (Int32.lt_iff_toInt_lt.mpr below)
    refine ⟨?_, ?_, fun hasTimecode => timed.trans hasTimecode⟩
    · rw [length]
      exact (Int.toNat_of_nonneg (Int.not_lt.mp counted)).symm
    · rw [length]
      exact Nat.le_of_not_lt tooLarge

/-! ## The first thing that is read -/

namespace Reader

variable {receiveTime : UInt64} {missing unread : Nat} {seen rest later : Bytes}
  {error : ProtocolError} {message : Message} {present : Timecode} {reader next : Reader}

/-- A stage of the reader that counts down to its last byte says nothing while bytes
are missing. -/
theorem take_stage_short (reader : Reader) (stage : Nat -> Bytes -> Stage)
    (complete : Bytes -> Step)
    (pushed : ∀ missing seen byte,
      push { reader with stage := stage missing seen } receiveTime byte =
        if missing ≤ 1 then complete (byte :: seen).reverse
        else .more { reader with stage := stage (missing - 1) (byte :: seen) })
    (short : bytes.length < missing) :
    ∃ next, take receiveTime { reader with stage := stage missing seen } bytes =
      .hungry next := by
  induction bytes generalizing missing seen with
  | nil => exact ⟨_, rfl⟩
  | cons byte bytes ih =>
      rw [List.length_cons] at short
      rw [take_cons, pushed, if_neg (by omega)]
      exact ih (by omega)

section Head

variable {head : Bytes} {header : Header} {timecode : Option Timecode}

theorem take_of_negative (decoded : readHead format head = .ok (header, timecode))
    (negative : header.dataBytes < 0) (rest : Bytes) :
    take receiveTime (start format limit) (head ++ rest) =
      .refused (.invalidLength header.messageType header.dataBytes) rest := by
  rw [take_decoded decoded, if_pos negative]
  rfl

theorem take_of_tooLarge (decoded : readHead format head = .ok (header, timecode))
    (tooLarge : limit < header.payloadLength) (rest : Bytes) :
    take receiveTime (start format limit) (head ++ rest) =
      .refused (.payloadTooLarge header.messageType header.payloadLength limit) rest := by
  have counted := Header.not_negative_of_payloadLength (Nat.zero_lt_of_lt tooLarge)
  rw [take_decoded decoded, if_neg counted, if_pos tooLarge]
  rfl

/-- A head that is accepted is followed by a payload. -/
theorem take_of_within (decoded : readHead format head = .ok (header, timecode))
    (within : header.payloadLength ≤ limit) (some : 0 < header.payloadLength) (rest : Bytes) :
    take receiveTime (start format limit) (head ++ rest) =
      take receiveTime { start format limit with
        stage := .body header.payloadLength { header with receiveTime } timecode [] } rest := by
  rw [take_decoded decoded, if_neg (Header.not_negative_of_payloadLength some),
    if_neg (Nat.not_lt.mpr within), if_neg (Nat.pos_iff_ne_zero.mp some)]
  rfl

end Head

/-- A reader in front of a frame reads it, and nothing behind it. -/
theorem take_framed (framed : message.IsFramed format limit) (present : Timecode)
    (later : Bytes) :
    take receiveTime (start format limit) (message.encode format present ++ later) =
      .message (message.received format receiveTime) later := by
  have filled := Format.length_encodeHead format present message.header message.timecode
  have decoded := (readHead_of_length filled).trans
    (congrArg Except.ok (Format.decodeHead_encodeHead present message.header framed.timed))
  have length := framed.payloadLength_eq
  have within : message.header.payloadLength ≤ limit := length ▸ framed.within
  unfold Message.encode
  rw [List.append_assoc]
  rcases Nat.eq_zero_or_pos message.header.payloadLength with none | some
  · have empty : message.payload = [] := List.eq_nil_of_length_eq_zero (length.symm.trans none)
    rw [take_decoded decoded, if_neg framed.not_negative, if_neg (Nat.not_lt.mpr within),
      if_pos none]
    unfold Message.received Message.atTime
    rw [empty]
    rfl
  · rw [take_of_within decoded within some]
    exact take_body (start format limit) length.symm some

/-- What a reader has to say of bytes of which nothing is read. -/
inductive Outcome.Refuses : ProtocolError -> (unread : Nat) -> Outcome -> Prop where
  | starved (reader : Reader) : Refuses (.ofFault .earlyEnd) 0 (.hungry reader)
  | refused (error : ProtocolError) (rest : Bytes) :
      Refuses error rest.length (.refused error rest)

theorem take_halts (halts : Halts format limit bytes error unread) (receiveTime : UInt64) :
    (take receiveTime (start format limit) bytes).Refuses error unread := by
  cases halts with
  | outOfHead short =>
      rcases take_stage_short (start format limit) .head
        ((start format limit).acceptHead receiveTime) (fun _ _ _ => rfl) short with ⟨next, hungry⟩
      have starved : take receiveTime (start format limit) bytes = .hungry next := hungry
      rw [starved]
      exact .starved next
  | negative decoded negative =>
      rw [take_of_negative decoded negative]
      exact .refused _ _
  | tooLarge decoded tooLarge =>
      rw [take_of_tooLarge decoded tooLarge]
      exact .refused _ _
  | @outOfBody head rest header timecode decoded within short =>
      rw [take_of_within decoded within (Nat.zero_lt_of_lt short)]
      rcases take_stage_short (start format limit)
        (fun missing seen => .body missing { header with receiveTime } timecode seen)
        (fun bytes => .message ⟨{ header with receiveTime }, timecode, bytes⟩)
        (fun _ _ _ => rfl) short with ⟨next, hungry⟩
      rw [hungry]
      exact .starved next

/-! ## Everything that is read -/

/-- The bytes of a head that were seen and those that are missing are a whole head. -/
def IsWhole (reader : Reader) : Prop :=
  match reader.stage with
  | .head missing seen => 0 < missing ∧ seen.length + missing = reader.format.size
  | .body _ _ _ _ => True

theorem isWhole_start (format : Format) (limit : Nat) : (start format limit).IsWhole :=
  ⟨Format.size_pos format, Nat.zero_add _⟩

/-- What a byte can lead to: a reader that reads in the same way, a message, or an
error after which nothing can be read. -/
def Step.Fits (reader : Reader) : Step -> Prop
  | .more next => next.IsWhole ∧ next.restart = reader.restart
  | .message _ => True
  | .refused error => error.isFatal = true

theorem fits_acceptHead (reader : Reader) (receiveTime : UInt64)
    (filled : bytes.length = reader.format.size) :
    (reader.acceptHead receiveTime bytes).Fits reader := by
  unfold acceptHead
  rw [readHead_of_length filled]
  dsimp only
  split
  · exact rfl
  · split
    · exact rfl
    · split
      · trivial
      · exact ⟨trivial, rfl⟩

theorem fits_push (whole : reader.IsWhole) (receiveTime : UInt64) (byte : UInt8) :
    (reader.push receiveTime byte).Fits reader := by
  rcases reader with ⟨format, limit, stage⟩
  cases stage with
  | head missing seen =>
      rcases whole with ⟨some, sum⟩
      unfold push
      dsimp only at sum ⊢
      by_cases last : missing ≤ 1
      · rw [if_pos last]
        apply fits_acceptHead
        rw [List.length_reverse, List.length_cons]
        show seen.length + 1 = format.size
        omega
      · rw [if_neg last]
        have fewer : 0 < missing - 1 := by omega
        have stillWhole : (byte :: seen).length + (missing - 1) = format.size := by
          rw [List.length_cons]
          omega
        exact ⟨⟨fewer, stillWhole⟩, rfl⟩
  | body missing header timecode seen =>
      unfold push
      dsimp only
      split
      · trivial
      · exact ⟨trivial, rfl⟩

/-- The same about a piece. -/
def Outcome.Fits (reader : Reader) : Outcome -> Prop
  | .hungry next => next.IsWhole ∧ next.restart = reader.restart
  | .message _ _ => True
  | .refused error _ => error.isFatal = true

theorem fits_take (whole : reader.IsWhole) (receiveTime : UInt64) (bytes : Bytes) :
    (take receiveTime reader bytes).Fits reader := by
  induction bytes generalizing reader with
  | nil => exact ⟨whole, rfl⟩
  | cons byte bytes ih =>
      have fits := fits_push whole receiveTime byte
      rw [take_cons]
      cases pushed : reader.push receiveTime byte with
      | more next =>
          rw [pushed] at fits
          have later := ih fits.1
          show (take receiveTime next bytes).Fits reader
          cases taken : take receiveTime next bytes with
          | hungry last =>
              rw [taken] at later
              exact ⟨later.1, later.2.trans fits.2⟩
          | message message rest => trivial
          | refused error rest =>
              rw [taken] at later
              exact later
      | message message => trivial
      | refused error =>
          rw [pushed] at fits
          exact fits

/-- The times of receipt after the first one. -/
def afterFirst (clock : Nat -> UInt64) : Nat -> UInt64 :=
  fun number => clock (number + 1)

section Run

variable {clock : Nat -> UInt64} {byte : UInt8} {messages : List Message}

theorem run_of_more (pushed : reader.push (clock 0) byte = .more next) (rest : Bytes) :
    reader.run clock (byte :: rest) = next.run clock rest := by
  conv => lhs; unfold run
  rw [pushed]

theorem run_of_message (pushed : reader.push (clock 0) byte = .message message) (rest : Bytes) :
    reader.run clock (byte :: rest) =
      let later := reader.restart.run (afterFirst clock) rest
      (message :: later.1, later.2) := by
  conv => lhs; unfold run
  rw [pushed]
  rfl

theorem run_of_refused (pushed : reader.push (clock 0) byte = .refused error) (rest : Bytes) :
    reader.run clock (byte :: rest) = ([], .error (error, rest)) := by
  conv => lhs; unfold run
  rw [pushed]

/-- What a piece leads to altogether, when the first thing that it leads to is known. -/
def Outcome.goOn (clock : Nat -> UInt64) (fresh : Reader) :
    Outcome -> List Message × Except (ProtocolError × Bytes) Reader
  | .hungry next => ([], .ok next)
  | .message message rest =>
      let later := fresh.run (afterFirst clock) rest
      (message :: later.1, later.2)
  | .refused error rest => ([], .error (error, rest))

theorem run_eq (whole : reader.IsWhole) (clock : Nat -> UInt64) (bytes : Bytes) :
    reader.run clock bytes = (take (clock 0) reader bytes).goOn clock reader.restart := by
  induction bytes generalizing reader with
  | nil => rfl
  | cons byte bytes ih =>
      have fits := fits_push whole (clock 0) byte
      rw [take_cons]
      cases pushed : reader.push (clock 0) byte with
      | more next =>
          rw [pushed] at fits
          rw [run_of_more pushed, ih fits.1, fits.2]
          rfl
      | message message => exact run_of_message pushed bytes
      | refused error => exact run_of_refused pushed bytes

/-- What a piece leads to after another one has been used up. -/
theorem run_append_of_ok (early late : Bytes)
    (ran : reader.run clock early = (messages, .ok next)) :
    reader.run clock (early ++ late) =
      let later := next.run (fun number => clock (number + messages.length)) late
      (messages ++ later.1, later.2) := by
  induction early generalizing clock reader messages with
  | nil =>
      cases ran
      rfl
  | cons byte early ih =>
      rw [List.cons_append]
      cases pushed : reader.push (clock 0) byte with
      | more following =>
          rw [run_of_more pushed] at ran ⊢
          exact ih ran
      | message message =>
          rw [run_of_message pushed] at ran ⊢
          rcases ended : reader.restart.run (afterFirst clock) early with ⟨others, ending⟩
          rw [ended] at ran
          cases ran
          rw [ih ended]
          rfl
      | refused error =>
          rw [run_of_refused pushed] at ran
          cases ran

theorem run_append_of_error {left : Bytes} (early late : Bytes)
    (ran : reader.run clock early = (messages, .error (error, left))) :
    reader.run clock (early ++ late) = (messages, .error (error, left ++ late)) := by
  induction early generalizing clock reader messages with
  | nil => cases ran
  | cons byte early ih =>
      rw [List.cons_append]
      cases pushed : reader.push (clock 0) byte with
      | more following =>
          rw [run_of_more pushed] at ran ⊢
          exact ih ran
      | message message =>
          rw [run_of_message pushed] at ran ⊢
          rcases ended : reader.restart.run (afterFirst clock) early with ⟨others, ending⟩
          rw [ended] at ran
          cases ran
          rw [ih ended]
      | refused error =>
          rw [run_of_refused pushed] at ran ⊢
          cases ran
          rfl

end Run

end Reader

/-- Everything there is to say about a stream that ends after a piece. -/
def Transcript.ofRun :
    List Message × Except (ProtocolError × Bytes) Reader -> Transcript
  | (messages, .ok _) => ⟨messages, .ofFault .earlyEnd, 0⟩
  | (messages, .error (error, left)) => ⟨messages, error, left.length⟩

theorem Transcript.messages_ofRun (ran : List Message × Except (ProtocolError × Bytes) Reader) :
    (ofRun ran).messages = ran.1 := by
  rcases ran with ⟨messages, _ | _⟩ <;> rfl

/-- The same with messages in front. -/
def Transcript.after (messages : List Message) (transcript : Transcript) : Transcript :=
  { transcript with messages := messages ++ transcript.messages }

theorem Transcript.ofRun_after (messages : List Message)
    (ran : List Message × Except (ProtocolError × Bytes) Reader) :
    ofRun (messages ++ ran.1, ran.2) = (ofRun ran).after messages := by
  rcases ran with ⟨others, _ | _⟩ <;> rfl

theorem total_size_bytes (pieces : List Bytes) :
    total ((pieces.map Chunk.bytes).map Chunk.size) = pieces.flatten.length := by
  induction pieces with
  | nil => rfl
  | cons piece rest ih =>
      rw [List.flatten_cons, List.length_append, ← ih]
      rfl

section Stream

variable {clock : Nat -> UInt64} {reader next : Reader} {messages : List Message}
  {error : ProtocolError} {left : Bytes} {rest : List Chunk}

theorem readStream_of_ok (some : bytes ≠ [])
    (ran : reader.run clock bytes = (messages, .ok next)) :
    readStream clock reader (.bytes bytes :: rest) =
      (readStream (fun number => clock (number + messages.length)) next rest).after messages := by
  rcases List.exists_cons_of_ne_nil some with ⟨byte, others, rfl⟩
  conv => lhs; unfold readStream
  rw [ran]
  rfl

theorem readStream_of_error (some : bytes ≠ [])
    (ran : reader.run clock bytes = (messages, .error (error, left))) :
    readStream clock reader (.bytes bytes :: rest) =
      ⟨messages, error, left.length + total (rest.map Chunk.size)⟩ := by
  rcases List.exists_cons_of_ne_nil some with ⟨byte, others, rfl⟩
  conv => lhs; unfold readStream
  rw [ran]

/-- How a stream was cut into pieces makes no difference. -/
theorem readStream_pieces (clock : Nat -> UInt64) (reader : Reader) {pieces : List Bytes}
    (nonempty : ∀ piece ∈ pieces, piece ≠ []) :
    readStream clock reader (pieces.map .bytes) =
      .ofRun (reader.run clock pieces.flatten) := by
  induction pieces generalizing clock reader with
  | nil => rfl
  | cons piece rest ih =>
      rcases List.forall_mem_cons.mp nonempty with ⟨some, others⟩
      rw [List.map_cons, List.flatten_cons]
      rcases ran : reader.run clock piece with ⟨messages, ⟨error, left⟩ | next⟩
      · rw [readStream_of_error some ran, Reader.run_append_of_error _ _ ran, total_size_bytes,
          ← List.length_append]
        rfl
      · rw [readStream_of_ok some ran, Reader.run_append_of_ok _ _ ran, ih _ _ others]
        exact (Transcript.ofRun_after _ _).symm

end Stream

/-- What is read of a whole stream, however it arrives. -/
def readBytes (clock : Nat -> UInt64) (format : Format) (limit : Nat) (bytes : Bytes) :
    Transcript :=
  .ofRun ((Reader.start format limit).run clock bytes)

section Whole

variable {clock : Nat -> UInt64} {message : Message} {error : ProtocolError} {unread : Nat}

theorem readBytes_framed (framed : message.IsFramed format limit) (present : Timecode)
    (later : Bytes) :
    readBytes clock format limit (message.encode format present ++ later) =
      (readBytes (Reader.afterFirst clock) format limit later).after
        [message.received format (clock 0)] := by
  unfold readBytes
  rw [Reader.run_eq (Reader.isWhole_start format limit), Reader.take_framed framed present later]
  exact Transcript.ofRun_after [_] _

theorem readBytes_halts (halts : Halts format limit bytes error unread) :
    readBytes clock format limit bytes = ⟨[], error, unread⟩ := by
  have refuses := Reader.take_halts halts (clock 0)
  unfold readBytes
  rw [Reader.run_eq (Reader.isWhole_start format limit)]
  generalize Reader.take (clock 0) (.start format limit) bytes = outcome at refuses
  cases refuses with
  | starved next => rfl
  | refused error rest => rfl

/-- There is one reason to stop, if there is one. -/
theorem Halts.unique {other : ProtocolError} {unseen : Nat}
    (halts : Halts format limit bytes error unread)
    (again : Halts format limit bytes other unseen) : error = other ∧ unread = unseen := by
  have first : readBytes (fun _ => 0) format limit bytes = _ := readBytes_halts halts
  have same := first.symm.trans (readBytes_halts again)
  exact ⟨congrArg Transcript.ending same, congrArg Transcript.unread same⟩

end Whole

end Frame

end MessageBus
