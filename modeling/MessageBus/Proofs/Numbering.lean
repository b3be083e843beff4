import MessageBus.Broker.Outbound
import MessageBus.Proofs.Codecs
import MessageBus.Proofs.Streams

namespace MessageBus

open Wire

/-!
# Running numbers on the wire

A writer numbers frames one after the other, with a count that it carries along.  What comes out
is said here without the count: a frame of the manager's own has as its number how many such
frames there are up to it, and a frame that is passed on stays as it is.

A `Letter` is a message of which such a frame was made.  Stamping a number on the frame is the
same as writing the number into the message before (`Wire.stampMessageCount_encodeHead`), so a
reader at the other end reads the letters as they were, except for their numbers.
-/

/-- How many of the first frames, up to and with the one at a place, are the manager's own. -/
def Provenance.running (provenances : List Provenance) (place : Nat) : Nat :=
  (provenances.take (place + 1)).count .originated

namespace Provenance

variable {provenance : Provenance} {provenances : List Provenance}

/-- What a frame adds to the count. -/
def weight : Provenance -> Nat
  | .forwarded => 0
  | .originated => 1

@[simp] theorem running_zero : running (provenance :: provenances) 0 = provenance.weight := by
  cases provenance <;> rfl

@[simp] theorem running_succ (place : Nat) :
    running (provenance :: provenances) (place + 1) =
      provenance.weight + running provenances place := by
  unfold running
  rw [List.take_succ_cons, List.count_cons, Nat.add_comm]
  cases provenance <;> rfl

/-- The numbers of the manager's own frames go up one by one, whatever lies between them. -/
theorem filter_running_add (count : Nat) (provenances : List Provenance) :
    ((provenances.mapIdx fun place provenance =>
      (provenance, count + running provenances place)).filter (·.1 = .originated)).map Prod.snd =
        List.range' (count + 1) (provenances.count .originated) := by
  induction provenances generalizing count with
  | nil => rfl
  | cons provenance rest ih =>
      simp only [List.mapIdx_cons, running_zero, running_succ, ← Nat.add_assoc]
      cases provenance with
      | forwarded => simpa [weight] using ih count
      | originated => simpa [weight, List.range'_succ] using ih (count + 1)

theorem filter_running (provenances : List Provenance) :
    ((provenances.mapIdx fun place provenance =>
      (provenance, running provenances place)).filter (·.1 = .originated)).map Prod.snd =
        List.range' 1 (provenances.count .originated) := by
  simpa only [Nat.zero_add] using filter_running_add 0 provenances

end Provenance

/-- The lowest bytes of a number are those of what is left of it when it is too large. -/
theorem Wire.littleEndian_mod (count number : Nat) :
    littleEndian count (number % wordCount count) = littleEndian count number := by
  have bytes := littleEndian_ofLittleEndian (littleEndian count number)
  rwa [length_littleEndian, ofLittleEndian_littleEndian] at bytes

namespace Outbound

/-- A frame as it is on the wire behind so many others of the manager's own, itself included. -/
def stamped (outbound : Outbound) (number : Nat) : Bytes :=
  match outbound.provenance with
  | .forwarded => outbound.frame
  | .originated => stampMessageCount outbound.frame (Int32.ofNat number)

/-- Four bytes of a frame are replaced by the lowest four of its number, and nothing else. -/
theorem stamped_eq (outbound : Outbound) (number : Nat) :
    outbound.stamped number =
      if outbound.provenance = .originated ∧ 8 ≤ outbound.frame.length then
        outbound.frame.take 4 ++ littleEndian 4 number ++ outbound.frame.drop 8
      else outbound.frame := by
  have lowest : Layout.i32.encode (Int32.ofNat number) = littleEndian 4 number := by
    show littleEndian 4 (Int32.ofNat number).toUInt32.toNat = littleEndian 4 number
    rw [Int32.toUInt32_ofNat', UInt32.toNat_ofNat']
    exact littleEndian_mod 4 number
  unfold stamped
  cases outbound.provenance with
  | forwarded => exact (if_neg fun both => by cases both.1).symm
  | originated =>
      rw [← lowest]
      dsimp only
      unfold stampMessageCount
      simp only [true_and]
      rfl

theorem numbered_ofNat (outbound : Outbound) (count : Nat) :
    outbound.numbered (Int32.ofNat count) =
      (outbound.stamped (count + outbound.provenance.weight),
        Int32.ofNat (count + outbound.provenance.weight)) := by
  unfold numbered stamped
  cases outbound.provenance with
  | forwarded => rfl
  | originated =>
      have next : Int32.ofNat count + 1 = Int32.ofNat (count + 1) := (Int32.ofNat_add count 1).symm
      dsimp only
      rw [next]
      rfl

/-- The writer's count is the number of the manager's own frames so far. -/
theorem numberAll_ofNat (count : Nat) (outbounds : List Outbound) :
    numberAll (Int32.ofNat count) outbounds = outbounds.mapIdx fun place outbound =>
      outbound.stamped (count + Provenance.running (outbounds.map provenance) place) := by
  induction outbounds generalizing count with
  | nil => rfl
  | cons outbound rest ih =>
      rw [numberAll, numbered_ofNat, List.mapIdx_cons]
      dsimp only
      rw [ih]
      simp [Nat.add_assoc]

theorem numberAll_zero (outbounds : List Outbound) :
    numberAll 0 outbounds = outbounds.mapIdx fun place outbound =>
      outbound.stamped (Provenance.running (outbounds.map provenance) place) := by
  have numbered := numberAll_ofNat 0 outbounds
  simp only [Nat.zero_add] at numbered
  exact numbered

end Outbound

/-! ## Messages that were framed -/

/-- A message that is on its way out, who wrote it, and the time at which its frame was made. -/
structure Letter where
  provenance : Provenance
  message : Message
  present : Timecode

namespace Letter

/-- The frame that was made of a letter. -/
def outbound (format : Format) (letter : Letter) : Outbound :=
  ⟨letter.provenance, letter.message.encode format letter.present⟩

/-- The letter's message as it stands on the wire. -/
def sent (format : Format) (number : Nat) (letter : Letter) : Message :=
  { header := { letter.message.header with
      messageCount := match letter.provenance with
        | .forwarded => letter.message.header.messageCount
        | .originated => Int32.ofNat number }
    timecode := format.timed letter.present letter.message.timecode
    payload := letter.message.payload }

/-- The letter can be read: its header states the length of its payload, which is within a limit. -/
structure IsLegible (limit : Nat) (letter : Letter) : Prop where
  length : letter.message.header.dataBytes.toInt = letter.message.payload.length
  within : letter.message.payload.length ≤ limit

variable {format : Format} {limit : Nat} {letter : Letter} {letters : List Letter}

theorem stamped_outbound (format : Format) (number : Nat) (letter : Letter) :
    (letter.outbound format).stamped number =
      (letter.sent format number).encode format letter.present := by
  rcases letter with ⟨provenance, ⟨header, timecode, payload⟩, present⟩
  have timed := format.encodeHead_timed present
  cases provenance with
  | forwarded => exact congrArg (· ++ payload) (timed header timecode).symm
  | originated =>
      refine (stampMessageCount_encodeHead format present header timecode _ payload).trans ?_
      exact congrArg (· ++ payload) (timed _ timecode).symm

theorem IsLegible.isFramed (legible : letter.IsLegible limit) (number : Nat) :
    (letter.sent format number).IsFramed format limit where
  length := legible.length
  within := legible.within
  timed has := (format.isSome_timed ..).trans has

/-- Numbered letters are read one after the other, and then there is nothing more. -/
theorem readBytes_letters (format : Format) (clock : Nat -> UInt64) (count : Nat)
    (legible : ∀ letter ∈ letters, letter.IsLegible limit) :
    Frame.readBytes clock format limit
        (Outbound.numberAll (Int32.ofNat count) (letters.map (outbound format))).flatten =
      ⟨letters.mapIdx fun place letter => (letter.sent format
          (count + Provenance.running (letters.map provenance) place)).atTime (clock place),
        .ofFault .earlyEnd, 0⟩ := by
  induction letters generalizing clock count with
  | nil => exact Frame.readBytes_halts (.outOfHead (Format.size_pos format))
  | cons letter rest ih =>
      rcases List.forall_mem_cons.mp legible with ⟨first, later⟩
      have framed : (letter.sent format (count + letter.provenance.weight)).IsFramed format limit :=
        first.isFramed _
      have placed : (letter.sent format (count + letter.provenance.weight)).timecode.isSome =
          format.hasTimecode := format.isSome_timed ..
      have first : (Outbound.numberAll (Int32.ofNat count)
            ((letter :: rest).map (outbound format))).flatten =
          (letter.sent format (count + letter.provenance.weight)).encode format letter.present ++
            (Outbound.numberAll (Int32.ofNat (count + letter.provenance.weight))
              (rest.map (outbound format))).flatten := by
        rw [List.map_cons, Outbound.numberAll, Outbound.numbered_ofNat, ← stamped_outbound]
        rfl
      rw [first, Frame.readBytes_framed framed, ih (Frame.Reader.afterFirst clock) _ later,
        Message.received_eq placed, List.mapIdx_cons]
      simp [Frame.Transcript.after, Frame.Reader.afterFirst, Nat.add_assoc]

end Letter

end MessageBus
