import MessageBus.Payload.Catalog
import MessageBus.Proofs.Reading

namespace MessageBus

open Wire

/-!
# Codecs of one size

What precedes a payload, and every payload of the catalogue, is written in a fixed number of
bytes.  A layout carries the laws of such a codec with it, but nobody who has bytes from a
peer calls a layout.  They call readers that look at the length first, and these are what
the theorems are about: a reader accepts exactly the byte strings of the right length, tells
of every other one how long it is and how long it should be, and is the inverse of the writer
in both directions (`IsExact`).

The running number is written into a frame long after the frame was encoded.  This is as good
as encoding the frame with that number, because the number stands behind the type and in front
of everything else, and nothing overlaps.
-/

/-- A writer and a reader that are inverse to each other on the byte strings of one size.  What
can be written back is told by `holds`; other byte strings are refused by their length. -/
structure IsExact (size : Nat) (holds : α -> Prop) (write : α -> Bytes)
    (read : Bytes -> Except ε α) (refusal : Nat -> ε) : Prop where
  length_write : ∀ value, (write value).length = size
  read_write : ∀ value, holds value -> read (write value) = .ok value
  write_read : ∀ bytes : Bytes, bytes.length = size ->
    ∃ value, holds value ∧ read bytes = .ok value ∧ write value = bytes
  refuses : ∀ bytes : Bytes, bytes.length ≠ size -> read bytes = .error (refusal bytes.length)

/-- It does not matter for this what a refusal says besides the length. -/
theorem IsExact.mapError {size : Nat} {holds : α -> Prop} {write : α -> Bytes}
    {read : Bytes -> Except ε α} {refusal : Nat -> ε} (exact : IsExact size holds write read refusal)
    (rephrase : ε -> ε') :
    IsExact size holds write (fun bytes => (read bytes).mapError rephrase)
      (fun got => rephrase (refusal got)) where
  length_write := exact.length_write
  read_write value here := by rw [exact.read_write value here]; rfl
  write_read bytes sized := by
    rcases exact.write_read bytes sized with ⟨value, here, read, written⟩
    exact ⟨value, here, by rw [read]; rfl, written⟩
  refuses bytes other := by rw [exact.refuses bytes other]; rfl

/-! ## What precedes a payload -/

namespace Wire

/-- The fields of a header, in the order of the wire. -/
def Header.parts (header : Header) : List Bytes :=
  [Layout.i32.encode header.messageType, Layout.i32.encode header.messageCount,
    Layout.f64.encode header.sendTime, Layout.f64.encode header.receiveTime,
    Layout.i16.encode header.sourceHost, Layout.i16.encode header.sourceModule,
    Layout.i16.encode header.destinationHost, Layout.i16.encode header.destinationModule,
    Layout.i32.encode header.dataBytes, Layout.i32.encode header.remainingBytes,
    Layout.i32.encode header.isDynamic, Layout.i32.encode header.version]

/-- A header is its fields, one behind the other and with nothing in between. -/
theorem Header.encode_eq_flatten (header : Header) :
    layout.encode header = header.parts.flatten := by
  simp only [parts, List.flatten_cons, List.flatten_nil, List.append_nil]
  rfl

theorem Header.parts_length (header : Header) :
    header.parts.map List.length = [4, 4, 8, 8, 2, 2, 2, 2, 4, 4, 4, 4] := by
  simp only [parts, List.map_cons, List.map_nil, Layout.length_encode]
  rfl

/-- What stands between a header and a payload. -/
def Format.trailer (format : Format) (present : Timecode) (timecode : Option Timecode) : Bytes :=
  match format with
  | .standard => []
  | .timecode => Timecode.layout.encode (timecode.getD present)

theorem Format.encodeHead_eq_append (format : Format) (present : Timecode) (header : Header)
    (timecode : Option Timecode) :
    format.encodeHead present header timecode =
      Header.layout.encode header ++ format.trailer present timecode := by
  cases format with
  | standard => exact (List.append_nil _).symm
  | timecode => rfl

/-- The timecode that stands in a frame, if its format has a place for one. -/
def Format.timed (format : Format) (present : Timecode) (timecode : Option Timecode) :
    Option Timecode :=
  match format with
  | .standard => none
  | .timecode => some (timecode.getD present)

theorem Format.timed_eq {format : Format} {timecode : Option Timecode}
    (placed : timecode.isSome = format.hasTimecode) (present : Timecode) :
    format.timed present timecode = timecode := by
  cases format with
  | standard => exact (Option.isNone_iff_eq_none.mp (Option.isSome_eq_false_iff.mp placed)).symm
  | timecode =>
      rcases Option.isSome_iff_exists.mp placed with ⟨own, rfl⟩
      rfl

theorem Format.encodeHead_timed (format : Format) (present : Timecode) (header : Header)
    (timecode : Option Timecode) :
    format.encodeHead present header (format.timed present timecode) =
      format.encodeHead present header timecode := by
  cases format <;> rfl

theorem Format.isSome_timed (format : Format) (present : Timecode) (timecode : Option Timecode) :
    (format.timed present timecode).isSome = format.hasTimecode := by
  cases format <;> rfl

/-- What precedes a payload can be read from its bytes. -/
theorem readHead_encodeHead (format : Format) (present : Timecode) (header : Header)
    (timecode : Option Timecode) :
    readHead format (format.encodeHead present header timecode) =
      .ok (header, format.timed present timecode) := by
  have placed := format.isSome_timed present timecode
  have given : format.hasTimecode = true -> (format.timed present timecode).isSome = true :=
    fun has => placed.trans has
  rw [← format.encodeHead_timed, readHead_of_length (Format.length_encodeHead ..),
    format.decodeHead_encodeHead present header given, format.carried_eq placed]

theorem Format.isExact (format : Format) (present : Timecode) :
    IsExact format.size (fun head => head.2.isSome = format.hasTimecode)
      (fun head : Header × Option Timecode => format.encodeHead present head.1 head.2)
      (readHead format) (fun got => .sizeMismatch (-1) format.size got) where
  length_write head := Format.length_encodeHead format present head.1 head.2
  read_write head placed := by
    rw [readHead_encodeHead, format.timed_eq placed]
  write_read bytes filled :=
    ⟨format.decodeHead bytes, format.isSome_decodeHead bytes, readHead_of_length filled,
      format.encodeHead_decodeHead present filled⟩
  refuses bytes other := if_neg other

end Wire

/-! ## Payloads -/

theorem Payload.isExact [Payload α] :
    IsExact (Payload.size α) (fun _ => True) Payload.encode (Payload.decode α)
      (fun got => ⟨Payload.name α, Payload.size α, got⟩) where
  length_write := Payload.length_encode
  read_write payload _ := Payload.decode_encode payload
  write_read bytes sized :=
    ⟨_, trivial, if_pos sized, (Payload.record (α := α)).layout.encode_decode bytes sized⟩
  refuses _ other := if_neg other

/-- Whoever reads the payload of a message says which type the message has. -/
theorem Message.isExact_decodePayload [Payload α] (header : Header) (timecode : Option Timecode) :
    IsExact (Payload.size α) (fun _ => True) Payload.encode
      (fun bytes => Message.decodePayload α ⟨header, timecode, bytes⟩)
      (fun got => .sizeMismatch header.messageType (Payload.size α) got) := by
  have rephrased := (Payload.isExact (α := α)).mapError fun refusal =>
    ProtocolError.sizeMismatch header.messageType refusal.expected refusal.got
  have same : ∀ bytes, Message.decodePayload α ⟨header, timecode, bytes⟩ =
      (Payload.decode α bytes).mapError fun refusal =>
        .sizeMismatch header.messageType refusal.expected refusal.got := by
    intro bytes
    unfold Message.decodePayload
    cases Payload.decode α bytes <;> rfl
  rwa [← funext same] at rephrased

/-! ## The running number -/

namespace Wire

theorem stampMessageCount_append {front : Bytes} (placed : front.length = messageCountOffset)
    (before after : Int32) (back : Bytes) :
    stampMessageCount (front ++ (Layout.i32.encode before ++ back)) after =
      front ++ (Layout.i32.encode after ++ back) := by
  have sized : (front ++ Layout.i32.encode before).length =
      messageCountOffset + Layout.i32.size := by
    rw [List.length_append, placed, Layout.i32.length_encode]
  have whole : (front ++ (Layout.i32.encode before ++ back)).length =
      messageCountOffset + Layout.i32.size + back.length := by
    rw [← List.append_assoc, List.length_append, sized]
  unfold stampMessageCount
  rw [if_pos (by omega), List.take_left' placed, ← List.append_assoc front, List.drop_left' sized,
    List.append_assoc]

/-- Stamping a frame is encoding it with another running number. -/
theorem stampMessageCount_encodeHead (format : Format) (present : Timecode) (header : Header)
    (timecode : Option Timecode) (count : Int32) (payload : Bytes) :
    stampMessageCount (format.encodeHead present header timecode ++ payload) count =
      format.encodeHead present { header with messageCount := count } timecode ++ payload := by
  have parts : ∃ front back : Bytes, front.length = messageCountOffset ∧ ∀ messageCount,
      format.encodeHead present { header with messageCount } timecode ++ payload =
        front ++ (Layout.i32.encode messageCount ++ back) := by
    refine ⟨Layout.i32.encode header.messageType,
      (header.parts.drop 2).flatten ++ (format.trailer present timecode ++ payload),
      Layout.i32.length_encode _, fun messageCount => ?_⟩
    rw [format.encodeHead_eq_append, Header.encode_eq_flatten]
    simp only [Header.parts, List.flatten_cons, List.append_assoc]
    rfl
  rcases parts with ⟨front, back, placed, same⟩
  have frame := same header.messageCount
  rw [same count, ← stampMessageCount_append placed header.messageCount count back, ← frame]

theorem readHead_stamped (format : Format) (present : Timecode) (header : Header)
    (timecode : Option Timecode) (count : Int32) :
    readHead format (stampMessageCount (format.encodeHead present header timecode) count) =
      .ok ({ header with messageCount := count }, format.timed present timecode) := by
  have stamped := stampMessageCount_encodeHead format present header timecode count []
  rw [List.append_nil, List.append_nil] at stamped
  rw [stamped, readHead_encodeHead]

end Wire

/-- What precedes a payload takes 48 bytes, or 56 with a timecode, and begins with the twelve
fields of the header, one behind the other.  The seventeen payloads of the catalogue have the
sizes that are listed.  Each of all these is read from exactly the byte strings of its size,
and reading is the inverse of writing in both directions.  A new running number in a frame
changes the running number that is read from it, and nothing else. -/
theorem codecs_exact :
    (∀ (format : Format) (present : Timecode),
      format.size = (if format.hasTimecode then 56 else 48) ∧
        (∀ (header : Header) (timecode : Option Timecode),
          format.encodeHead present header timecode =
              header.parts.flatten ++ format.trailer present timecode ∧
            header.parts.map List.length = [4, 4, 8, 8, 2, 2, 2, 2, 4, 4, 4, 4]) ∧
        IsExact format.size (fun head => head.2.isSome = format.hasTimecode)
          (fun head : Header × Option Timecode => format.encodeHead present head.1 head.2)
          (readHead format) (fun got => .sizeMismatch (-1) format.size got)) ∧
      PayloadKind.all.map (fun kind => (kind.name, kind.size)) =
        [("CONNECT", 44), ("SUBSCRIBE", 4), ("UNSUBSCRIBE", 4), ("PAUSE_SUBSCRIPTION", 4),
          ("RESUME_SUBSCRIPTION", 4), ("MODULE_READY", 4), ("CLIENT_SET_NAME", 32),
          ("FAILED_MESSAGE", 64), ("FAIL_SUBSCRIBE", 8), ("FORCE_DISCONNECT", 4),
          ("SAVE_MESSAGE_LOG", 260), ("TIMING_MESSAGE", 20808), ("MESSAGE_TRAFFIC", 1056),
          ("ACTIVE_CLIENTS", 1216), ("CLIENT_INFO", 120), ("CLIENT_CLOSED", 48),
          ("MM_LOG", 272)] ∧
      (∀ kind : PayloadKind,
        IsExact kind.size (fun _ => True) (@Payload.encode kind.carrier kind.payload)
          (@Payload.decode kind.carrier kind.payload) (fun got => ⟨kind.name, kind.size, got⟩) ∧
        ∀ (header : Header) (timecode : Option Timecode),
          IsExact kind.size (fun _ => True) (@Payload.encode kind.carrier kind.payload)
            (fun bytes => @Message.decodePayload kind.carrier kind.payload
              ⟨header, timecode, bytes⟩)
            (fun got => .sizeMismatch header.messageType kind.size got)) ∧
      ∀ (format : Format) (present : Timecode) (message : Message) (count : Int32),
        stampMessageCount (message.encode format present) count =
            Message.encode { message with header.messageCount := count } format present ∧
          readHead format (stampMessageCount
              (format.encodeHead present message.header message.timecode) count) =
            .ok ({ message.header with messageCount := count },
              format.timed present message.timecode) := by
  refine ⟨fun format present => ⟨?_, ?_, format.isExact present⟩, rfl,
    fun kind => ⟨?_, ?_⟩, ?_⟩
  · cases format <;> rfl
  · intro header timecode
    rw [format.encodeHead_eq_append, header.encode_eq_flatten]
    exact ⟨rfl, header.parts_length⟩
  · exact @Payload.isExact kind.carrier kind.payload
  · exact @Message.isExact_decodePayload kind.carrier kind.payload
  · intro format present message count
    exact ⟨stampMessageCount_encodeHead format present message.header message.timecode count
        message.payload,
      readHead_stamped format present message.header message.timecode count⟩

end MessageBus
