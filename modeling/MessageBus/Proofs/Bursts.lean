import Mathlib
import MessageBus.Proofs.Overrides
import MessageBus.Proofs.Texts

namespace MessageBus

open Wire

/-!
# Small changes of a definition

A definition is told by a number of 32 bits, so there are definitions that are told by the same
number.  They are not close to each other: two texts of one length that differ in four bytes in a
row are always told apart, wherever the four bytes are and whatever stands around them.

The register moves by one bit at a time, and the move is linear and loses nothing
(`Crc32.shift_xor`, `Crc32.shift_injective`).  Hence what stands behind the difference cannot undo
it (`Crc32.run_injective`), what stands before it does not matter, and the difference itself is at
most as wide as the register: the register after four bytes is the number that the bytes spell,
moved by 32 bits (`Crc32.run_of_short`).

With a fifth byte a difference can be a multiple of the generator, and then it is not seen.
-/

namespace Crc32

/-! ## Moving by bits -/

section Shift

variable {register : UInt32}

theorem shift_of_even (even : register.toNat % 2 = 0) : shift register = register >>> 1 := by
  have low : (register &&& 1).toNat = 0 := by
    rw [UInt32.toNat_and]
    exact (Nat.and_one_is_mod _).trans even
  have clear : register &&& 1 = 0 := UInt32.toNat_inj.mp low
  unfold shift
  rw [clear]
  rfl

theorem shift_of_odd (odd : register.toNat % 2 = 1) :
    shift register = (register >>> 1) ^^^ generator := by
  have low : (register &&& 1).toNat = 1 := by
    rw [UInt32.toNat_and]
    exact (Nat.and_one_is_mod _).trans odd
  have set : register &&& 1 = 1 := UInt32.toNat_inj.mp low
  unfold shift
  rw [set]
  rfl

/-- Moving is linear. -/
theorem shift_xor (first second : UInt32) :
    shift (first ^^^ second) = shift first ^^^ shift second := by
  have low : (first ^^^ second).toNat % 2 = (first.toNat + second.toNat) % 2 := by
    rw [UInt32.toNat_xor]
    exact Nat.xor_mod_two_eq
  rcases Nat.mod_two_eq_zero_or_one first.toNat with even | odd <;>
    rcases Nat.mod_two_eq_zero_or_one second.toNat with even' | odd'
  · rw [shift_of_even even, shift_of_even even', shift_of_even (by omega), UInt32.shiftRight_xor]
  · rw [shift_of_even even, shift_of_odd odd', shift_of_odd (by omega), UInt32.shiftRight_xor]
    ac_rfl
  · rw [shift_of_odd odd, shift_of_even even', shift_of_odd (by omega), UInt32.shiftRight_xor]
    ac_rfl
  · -- The generator comes in twice, and goes.
    have cancels : (first >>> 1 ^^^ generator) ^^^ (second >>> 1 ^^^ generator) =
        (first >>> 1 ^^^ second >>> 1) ^^^ (generator ^^^ generator) := by ac_rfl
    rw [shift_of_odd odd, shift_of_odd odd', shift_of_even (by omega), UInt32.shiftRight_xor,
      cancels, UInt32.xor_self, UInt32.xor_zero]

theorem toNat_half (register : UInt32) : (register >>> 1).toNat = register.toNat / 2 := by
  rw [UInt32.toNat_shiftRight]
  exact Nat.shiftRight_eq_div_pow _ 1

/-- Only nothing is moved to nothing, since the generator has its highest bit set. -/
theorem eq_zero_of_shift (moved : shift register = 0) : register = 0 := by
  have half := toNat_half register
  rcases Nat.mod_two_eq_zero_or_one register.toNat with even | odd
  · rw [shift_of_even even] at moved
    rw [moved] at half
    have zero : register.toNat = 0 := by
      have nothing : (0 : UInt32).toNat = 0 := rfl
      omega
    exact UInt32.toNat_inj.mp zero
  · rw [shift_of_odd odd, UInt32.xor_eq_zero_iff] at moved
    rw [moved] at half
    have high : generator.toNat = 0xEDB88320 := rfl
    have bounded := register.toNat_lt
    omega

theorem shift_injective : Function.Injective shift := by
  intro first second same
  rw [← UInt32.xor_eq_zero_iff, ← shift_xor] at same
  exact UInt32.xor_eq_zero_iff.mp (eq_zero_of_shift same)

end Shift

theorem shifts_xor (count : Nat) (first second : UInt32) :
    shifts count (first ^^^ second) = shifts count first ^^^ shifts count second := by
  induction count generalizing first second with
  | zero => rfl
  | succ count ih =>
      unfold shifts
      rw [shift_xor, ih]

theorem shifts_injective (count : Nat) : Function.Injective (shifts count) := by
  induction count with
  | zero => exact Function.injective_id
  | succ count ih => exact ih.comp shift_injective

theorem shifts_add (count more : Nat) (register : UInt32) :
    shifts (count + more) register = shifts more (shifts count register) := by
  induction count generalizing register with
  | zero => rw [Nat.zero_add]; rfl
  | succ count ih =>
      rw [Nat.succ_add]
      exact ih (shift register)

/-- What stands above the bits that are moved just comes down. -/
theorem shifts_scaled (count number : Nat) (bounded : 2 ^ count * number < 2 ^ 32) :
    shifts count (UInt32.ofNat (2 ^ count * number)) = UInt32.ofNat number := by
  induction count with
  | zero => rw [Nat.pow_zero, Nat.one_mul]; rfl
  | succ count ih =>
      have double : 2 ^ (count + 1) * number = 2 * (2 ^ count * number) := by
        rw [Nat.pow_succ]
        ac_rfl
      rw [double] at bounded ⊢
      have told : (UInt32.ofNat (2 * (2 ^ count * number))).toNat = 2 * (2 ^ count * number) :=
        UInt32.toNat_ofNat_of_lt' bounded
      have down : shift (UInt32.ofNat (2 * (2 ^ count * number))) =
          UInt32.ofNat (2 ^ count * number) := by
        rw [shift_of_even (by omega)]
        apply UInt32.toNat_inj.mp
        rw [toNat_half, told, UInt32.toNat_ofNat_of_lt' (Nat.lt_of_le_of_lt (by omega) bounded)]
        omega
      unfold shifts
      rw [down, ih (by omega)]

/-! ## Taking bytes in -/

theorem absorb_injective (byte : UInt8) : Function.Injective (absorb · byte) := by
  intro first second same
  exact (UInt32.xor_left_inj _).mp (shifts_injective 8 same)

theorem run_append (register : UInt32) (front rest : Bytes) :
    run register (front ++ rest) = run (run register front) rest :=
  List.foldl_append

/-- Two registers that differ differ after any bytes. -/
theorem run_injective (bytes : Bytes) : Function.Injective (run · bytes) := by
  induction bytes with
  | nil => exact Function.injective_id
  | cons byte rest ih => exact ih.comp (absorb_injective byte)

/-- A byte and what is spelled behind it do not overlap. -/
theorem byte_add_eq_xor (byte : UInt8) (number : Nat) :
    byte.toNat + 256 * number = byte.toNat ^^^ (256 * number) := by
  have small : byte.toNat < 2 ^ 8 := byte.toNat_lt
  apply Nat.eq_of_testBit_eq
  intro place
  have spelled := Nat.testBit_two_pow_mul_add number small place
  rw [Nat.testBit_xor, Nat.add_comm, show 256 = 2 ^ 8 from rfl, spelled, Nat.testBit_two_pow_mul]
  by_cases below : place < 8
  · simp [below, Nat.not_le.mpr below]
  · have clear : byte.toNat.testBit place = false :=
      Nat.testBit_lt_two_pow (Nat.lt_of_lt_of_le small (Nat.pow_le_pow_right (by omega) (by omega)))
    simp [below, clear, Nat.not_lt.mp below]

theorem wordCount_eq_pow (count : Nat) : wordCount count = 2 ^ (8 * count) := by
  induction count with
  | zero => rfl
  | succ count ih =>
      rw [wordCount, ih, Nat.mul_succ, Nat.pow_add]
      exact Nat.mul_comm _ _

/-- The bytes that fill the register are taken in as the one number that they spell. -/
theorem run_of_short (register : UInt32) {bytes : Bytes} (short : bytes.length ≤ 4) :
    run register bytes =
      shifts (8 * bytes.length) (register ^^^ UInt32.ofNat (ofLittleEndian bytes)) := by
  induction bytes generalizing register with
  | nil => simp [run, ofLittleEndian, shifts]
  | cons byte rest ih =>
      have fewer : rest.length ≤ 3 := Nat.le_of_succ_le_succ short
      have bounded : 2 ^ 8 * ofLittleEndian rest < 2 ^ 32 := by
        have narrow : wordCount rest.length ≤ 2 ^ 24 := by
          rw [wordCount_eq_pow]
          exact Nat.pow_le_pow_right (by omega) (by omega)
        have spelled := ofLittleEndian_lt rest
        omega
      have joined : UInt32.ofNat (ofLittleEndian (byte :: rest)) =
          byte.toUInt32 ^^^ UInt32.ofNat (2 ^ 8 * ofLittleEndian rest) := by
        rw [ofLittleEndian, byte_add_eq_xor, UInt32.ofNat_xor, UInt32.ofNat_uInt8ToNat]
        rfl
      calc run register (byte :: rest)
        _ = run (absorb register byte) rest := rfl
        _ = shifts (8 * rest.length)
              (absorb register byte ^^^ UInt32.ofNat (ofLittleEndian rest)) :=
            ih _ (Nat.le_succ_of_le fewer)
        _ = shifts (8 * rest.length)
              (shifts 8 (register ^^^ byte.toUInt32 ^^^
                UInt32.ofNat (2 ^ 8 * ofLittleEndian rest))) := by
            rw [absorb, shifts_xor 8 _ (UInt32.ofNat _), shifts_scaled 8 _ bounded]
        _ = shifts (8 * (byte :: rest).length)
              (register ^^^ UInt32.ofNat (ofLittleEndian (byte :: rest))) := by
            rw [joined, UInt32.xor_assoc, ← shifts_add, List.length_cons, Nat.mul_succ,
              Nat.add_comm]

/-- Bytes that fill the register at most leave their trace in it. -/
theorem eq_of_run_eq {register : UInt32} {first second : Bytes} (short : first.length ≤ 4)
    (same : first.length = second.length) (met : run register first = run register second) :
    first = second := by
  have short' : second.length ≤ 4 := same ▸ short
  rw [run_of_short register short, run_of_short register short', same] at met
  have spelled := (UInt32.xor_right_inj _).mp (shifts_injective _ met)
  have bounded {bytes : Bytes} (short : bytes.length ≤ 4) :
      ofLittleEndian bytes < UInt32.size := by
    have spelled := ofLittleEndian_lt bytes
    rw [wordCount_eq_pow] at spelled
    exact Nat.lt_of_lt_of_le spelled (Nat.pow_le_pow_right (by omega) (by omega : _ ≤ 32))
  have number : ofLittleEndian first = ofLittleEndian second := by
    rw [← UInt32.toNat_ofNat_of_lt' (bounded short), spelled,
      UInt32.toNat_ofNat_of_lt' (bounded short')]
  rw [← littleEndian_ofLittleEndian first, number, same, littleEndian_ofLittleEndian]

/-! ## Differences -/

/-- Two byte strings of one length that differ within four bytes in a row, if at all. -/
structure IsBurst (first second : Bytes) : Prop where
  same_length : first.length = second.length
  within : ∃ start, ∀ place, place < start ∨ start + 4 ≤ place → first[place]? = second[place]?

/-- The bytes in a row, with what stands before and behind them in both. -/
theorem isBurst_iff {first second : Bytes} :
    IsBurst first second ↔
      ∃ front window window' rest,
        first = front ++ (window ++ rest) ∧ second = front ++ (window' ++ rest) ∧
          window.length ≤ 4 ∧ window.length = window'.length := by
  constructor
  · rintro ⟨same, start, outside⟩
    have before : first.take start = second.take start := by
      apply List.ext_getElem?
      intro place
      rw [List.getElem?_take, List.getElem?_take]
      split
      · next early => exact outside place (Or.inl early)
      · rfl
    have behind : (first.drop start).drop 4 = (second.drop start).drop 4 := by
      apply List.ext_getElem?
      intro place
      rw [List.drop_drop, List.drop_drop, List.getElem?_drop, List.getElem?_drop]
      exact outside _ (Or.inr (by omega))
    refine ⟨first.take start, (first.drop start).take 4, (second.drop start).take 4,
      (first.drop start).drop 4, ?_, ?_, List.length_take_le _ _, ?_⟩
    · rw [List.take_append_drop, List.take_append_drop]
    · rw [before, behind, List.take_append_drop, List.take_append_drop]
    · simp [same]
  · rintro ⟨front, window, window', rest, rfl, rfl, short, even⟩
    refine ⟨by simp [even], front.length, fun place outside => ?_⟩
    rcases outside with early | late
    · rw [List.getElem?_append_left early, List.getElem?_append_left early]
    · have past : front.length ≤ place := Nat.le_of_add_right_le late
      have beyond : window.length ≤ place - front.length := by omega
      rw [List.getElem?_append_right past, List.getElem?_append_right past,
        List.getElem?_append_right beyond, List.getElem?_append_right (even ▸ beyond), even]

/-- What differs within four bytes in a row has different checksums. -/
theorem IsBurst.eq_of_checksum {first second : Bytes} (burst : IsBurst first second)
    (same : checksum first = checksum second) : first = second := by
  rcases isBurst_iff.mp burst with ⟨front, window, window', rest, rfl, rfl, short, even⟩
  have met := (UInt32.xor_left_inj _).mp same
  rw [run_append, run_append, run_append, run_append] at met
  rw [eq_of_run_eq short even (run_injective rest met)]

end Crc32

/-! ## Definitions -/

theorem Text.encodeUtf8_injective : Function.Injective Text.encodeUtf8 :=
  Function.LeftInverse.injective Text.decodeUtf8_encodeUtf8

/-- Definitions that differ in four bytes in a row are told by different numbers. -/
theorem eq_of_definitionHash {first second : String}
    (burst : Crc32.IsBurst (Text.encodeUtf8 first) (Text.encodeUtf8 second))
    (same : definitionHash first = definitionHash second) : first = second := by
  have sums := congrArg Int32.toUInt32 same
  unfold definitionHash at sums
  rw [UInt32.toUInt32_toInt32, UInt32.toUInt32_toInt32] at sums
  exact Text.encodeUtf8_injective (burst.eq_of_checksum sums)

/-- Five bytes are too many. -/
example : definitionHash "C3a18" = definitionHash "bmqXt" := by decide +kernel

/-- The ways to make an entry from a definition: for a payload that has it, for a type without
payload that has it for a name, and for a type of an application that gives it and no hash. -/
inductive SchemaEntry.IsMadeFrom (definition : String) : SchemaEntry -> Prop where
  | payload (kind : PayloadKind) (defined : kind.definition = definition) :
      IsMadeFrom definition (.ofPayload kind)
  | signal (id : MessageType) : IsMadeFrom definition (.signal id definition)
  | settings (schema : SchemaSettings) (untold : schema.hash = none)
      (defined : schema.definition = some definition) : IsMadeFrom definition schema.entry

theorem SchemaEntry.IsMadeFrom.hash {entry : SchemaEntry} {definition : String}
    (made : entry.IsMadeFrom definition) : entry.hash = definitionHash definition := by
  cases made with
  | payload kind defined => exact congrArg definitionHash defined
  | signal id => rfl
  | settings schema untold defined => simp [SchemaSettings.entry, untold, defined]

namespace Schemas

/-- A small change of a definition is always seen.  If two definitions of one length differ, and
only within four bytes in a row, they are told by different numbers.  Hence, whatever schemas have
an entry that is made from the one, a header of that type and of the right size that is tagged
with the other is refused with both numbers, unless one of the two numbers is zero; and one that
is tagged with the entry's own number passes. -/
theorem small_changes_detected {first second : String} (different : first ≠ second)
    (burst : Crc32.IsBurst (Text.encodeUtf8 first) (Text.encodeUtf8 second)) :
    definitionHash first ≠ definitionHash second ∧
      ∀ (schemas : Schemas) (entry : SchemaEntry) (header : Header),
        entry.IsMadeFrom first -> schemas.get? header.messageType = some entry ->
        header.dataBytes.toInt = entry.size ->
          (header.version = definitionHash second ->
            schemas.validate header =
              if definitionHash first = 0 ∨ definitionHash second = 0 then .ok ()
              else .error (.versionMismatch header.messageType
                (definitionHash first) (definitionHash second))) ∧
          (header.version = entry.hash -> schemas.validate header = .ok ()) := by
  have told : definitionHash first ≠ definitionHash second :=
    fun same => different (eq_of_definitionHash burst same)
  refine ⟨told, fun schemas entry header made known sized => ⟨fun tagged => ?_, fun own => ?_⟩⟩
  · rw [validate_of_sized known sized, if_neg (not_not_intro rfl), made.hash, tagged]
    refine if_congr ?_ rfl rfl
    have strange : definitionHash second ≠ definitionHash first := told.symm
    tauto
  · rw [validate_of_sized known sized, if_neg (not_not_intro rfl)]
    exact if_pos (Or.inr (Or.inr own))

/-- A type of an application. -/
def sample : SchemaSettings where
  id := 5000
  name := "A"
  size := 2
  definition := some "A:x=i16"

/-- Who still has the number wider is refused, and is told so. -/
theorem small_changes_detected_of_narrower :
    "A:x=i16" ≠ "A:x=i32" ∧
      Crc32.IsBurst (Text.encodeUtf8 "A:x=i16") (Text.encodeUtf8 "A:x=i32") ∧
      (core.insert sample.entry).validate
          { messageType := 5000, dataBytes := 2, version := definitionHash "A:x=i32" } =
        .error (.versionMismatch 5000 (definitionHash "A:x=i16") (definitionHash "A:x=i32")) := by
  have different : "A:x=i16" ≠ "A:x=i32" := by decide
  have burst : Crc32.IsBurst (Text.encodeUtf8 "A:x=i16") (Text.encodeUtf8 "A:x=i32") :=
    Crc32.isBurst_iff.mpr ⟨Text.encodeUtf8 "A:x=i", Text.encodeUtf8 "16", Text.encodeUtf8 "32", [],
      by decide +kernel⟩
  have known : (core.insert sample.entry).get? 5000 = some sample.entry :=
    (get?_insert core sample.entry 5000).trans (if_pos rfl)
  have refused := ((small_changes_detected different burst).2 (core.insert sample.entry)
    sample.entry { messageType := 5000, dataBytes := 2, version := definitionHash "A:x=i32" }
    (.settings sample rfl rfl) known rfl).1 rfl
  rw [if_neg (by decide +kernel)] at refused
  exact ⟨different, burst, refused⟩

end Schemas

end MessageBus
