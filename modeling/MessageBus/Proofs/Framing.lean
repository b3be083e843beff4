import Mathlib
import MessageBus.Frame.Reader

namespace MessageBus

open Wire

/-!
# What is written is read

A reader takes a stream byte by byte, and the theorems here add the bytes up: a
head that is all there is decoded, a payload that is all there is a message.  So
whoever gets a message out of a stream that begins with the frame of a message gets
the header and the payload that were put in, except for the time of receipt, and has
read just this frame (`Frame.Reader.take_encode`).
-/

theorem Format.length_encodeHead (format : Format) (present : Timecode) (header : Header)
    (timecode : Option Timecode) :
    (format.encodeHead present header timecode).length = format.size := by
  cases format with
  | standard => exact Header.layout.length_encode header
  | timecode =>
      show (Header.layout.encode header ++ Timecode.layout.encode _).length = _
      rw [List.length_append, Header.layout.length_encode, Timecode.layout.length_encode]
      rfl

theorem Format.size_pos (format : Format) : 0 < format.size := by
  cases format <;> decide

theorem Message.encode_ne_nil (message : Message) (format : Format) (present : Timecode) :
    message.encode format present ≠ [] := by
  intro empty
  have head := Format.length_encodeHead format present message.header message.timecode
  rw [(List.append_eq_nil_iff.mp empty).1] at head
  exact absurd head.symm (Nat.pos_iff_ne_zero.mp (Format.size_pos format))

theorem Format.header_decodeHead (format : Format) (present : Timecode) (header : Header)
    (timecode : Option Timecode) :
    (format.decodeHead (format.encodeHead present header timecode)).1 = header := by
  cases format with
  | standard => exact Header.layout.decode_encode header
  | timecode =>
      show Header.layout.decode ((Header.layout.encode header ++ _).take _) = header
      rw [List.take_left' (Header.layout.length_encode header), Header.layout.decode_encode]

theorem readHead_of_length {format : Format} {bytes : Bytes} (filled : bytes.length = format.size) :
    readHead format bytes = .ok (format.decodeHead bytes) :=
  if_pos filled

theorem length_of_readHead {format : Format} {bytes : Bytes} {head : Header × Option Timecode}
    (decoded : readHead format bytes = .ok head) : bytes.length = format.size := by
  unfold readHead at decoded
  split at decoded
  · next filled => exact filled
  · cases decoded

theorem Payload.decode_encode [Payload α] (payload : α) :
    Payload.decode α (Payload.encode payload) = .ok payload := by
  unfold Payload.decode
  rw [if_pos (Payload.length_encode payload)]
  exact congrArg Except.ok (Layout.decode_encode _ payload)

theorem Message.decodePayload_of_bytes [Payload α] {message : Message} {payload : α}
    (bytes : message.payload = Payload.encode payload) :
    message.decodePayload α = .ok payload := by
  unfold decodePayload
  rw [bytes, Payload.decode_encode]

namespace Frame.Reader

variable {receiveTime : UInt64} {format : Format} {limit missing : Nat} {seen bytes rest : Bytes}

/-- What a reader says in the end, after one byte and with so much still to read. -/
def Step.goOn (receiveTime : UInt64) (rest : Bytes) : Step -> Outcome
  | .more next => take receiveTime next rest
  | .message complete => .message complete rest
  | .refused error => .refused error rest

theorem take_cons (reader : Reader) (byte : UInt8) (rest : Bytes) :
    take receiveTime reader (byte :: rest) =
      (reader.push receiveTime byte).goOn receiveTime rest := by
  conv => lhs; unfold take
  cases reader.push receiveTime byte <;> rfl

/-- A stage of the reader that counts down to its last byte is through with the bytes
that it was missing. -/
theorem take_stage (reader : Reader) (stage : Nat -> Bytes -> Stage) (complete : Bytes -> Step)
    (pushed : ∀ missing seen byte,
      push { reader with stage := stage missing seen } receiveTime byte =
        if missing ≤ 1 then complete (byte :: seen).reverse
        else .more { reader with stage := stage (missing - 1) (byte :: seen) })
    (filled : bytes.length = missing) (some : 0 < missing) :
    take receiveTime { reader with stage := stage missing seen } (bytes ++ rest) =
      (complete (seen.reverse ++ bytes)).goOn receiveTime rest := by
  induction bytes generalizing missing seen with
  | nil =>
      rw [← filled] at some
      cases some
  | cons byte bytes ih =>
      rw [List.length_cons] at filled
      rw [List.cons_append, take_cons, pushed]
      by_cases last : missing ≤ 1
      · have empty : bytes = [] := List.eq_nil_of_length_eq_zero (by omega)
        rw [if_pos last, empty, List.reverse_cons]
        rfl
      · rw [if_neg last]
        refine (ih (by omega) (by omega)).trans ?_
        rw [List.reverse_cons, List.append_assoc]
        rfl

/-- The bytes that complete a head. -/
theorem take_head (filled : bytes.length = format.size) :
    take receiveTime (start format limit) (bytes ++ rest) =
      ((start format limit).acceptHead receiveTime bytes).goOn receiveTime rest := by
  exact take_stage (start format limit) .head ((start format limit).acceptHead receiveTime)
    (fun _ _ _ => rfl) filled (Format.size_pos format)

/-- What a head leads to that is decoded, with what is behind it. -/
theorem take_decoded {head : Bytes} {header : Header} {timecode : Option Timecode}
    (decoded : readHead format head = .ok (header, timecode)) (rest : Bytes) :
    take receiveTime (start format limit) (head ++ rest) =
      Step.goOn receiveTime rest
        (if header.dataBytes < 0 then .refused (.invalidLength header.messageType header.dataBytes)
        else if limit < header.payloadLength then
          .refused (.payloadTooLarge header.messageType header.payloadLength limit)
        else if header.payloadLength = 0 then
          .message ⟨{ header with receiveTime }, timecode, []⟩
        else
          .more { start format limit with
            stage := .body header.payloadLength { header with receiveTime } timecode [] }) := by
  have accepted : readHead (start format limit).format head = .ok (header, timecode) := decoded
  rw [take_head (length_of_readHead decoded)]
  unfold acceptHead
  rw [accepted]
  rfl

/-- The bytes that complete a payload. -/
theorem take_body {header : Header} {timecode : Option Timecode} (reader : Reader)
    (filled : bytes.length = missing) (some : 0 < missing) :
    take receiveTime { reader with stage := .body missing header timecode [] } (bytes ++ rest) =
      .message ⟨header, timecode, bytes⟩ rest :=
  take_stage reader (fun missing seen => .body missing header timecode seen)
    (fun bytes => .message ⟨header, timecode, bytes⟩) (fun _ _ _ => rfl) filled some

/-- Whoever gets a message out of a stream that begins with a frame gets the one that was
put in, and has read just the frame. -/
theorem take_encode {message heard : Message} {present : Timecode} (later : Bytes)
    (sized : message.header.payloadLength = message.payload.length)
    (taken : take receiveTime (start format limit) (message.encode format present ++ later) =
      .message heard rest) :
    heard.header = { message.header with receiveTime } ∧ heard.payload = message.payload ∧
      rest = later := by
  have decoded := Format.header_decodeHead format present message.header message.timecode
  rcases head : format.decodeHead
    (format.encodeHead present message.header message.timecode) with ⟨header, timecode⟩
  have same : header = message.header := (congrArg Prod.fst head).symm.trans decoded
  subst same
  have accepted := (readHead_of_length (Format.length_encodeHead ..)).trans
    (congrArg Except.ok head)
  unfold Message.encode at taken
  rw [List.append_assoc, take_decoded accepted] at taken
  split at taken
  · cases taken
  · split at taken
    · cases taken
    · split at taken
      · next none =>
        have empty : message.payload = [] := List.eq_nil_of_length_eq_zero (sized.symm.trans none)
        rw [empty] at taken ⊢
        cases taken
        exact ⟨rfl, rfl, rfl⟩
      · next some =>
        cases (take_body (start format limit) sized.symm (Nat.pos_of_ne_zero some)).symm.trans taken
        exact ⟨rfl, rfl, rfl⟩

end Frame.Reader

end MessageBus
