import MessageBus.Text.Field

namespace MessageBus
namespace Text

open Wire (Bytes)

/-!
# Texts that are read back

The reader of UTF-8 looks at one byte at a time and accepts anything.  Nothing in it says
that it is the inverse of the writer, so this is shown here: the bytes of one character take the
reader from between two characters to between two characters, and what it has read is
that character (`decodeFrom_char`).  The leading byte tells the reader how many bytes follow and
narrows the first of them, and the narrowing excludes no character, because no character
is written in more bytes than it needs and surrogates are no characters.

A text in a field is read up to the first zero.  The only character with a zero among its bytes
is the one whose number is zero, so every other text that fits is read back.
-/

section Steps

variable {byte : UInt8} {rest : Bytes} {character : Partial}

theorem decodeFrom_ascii (small : byte < 0x80) :
    decodeFrom none (byte :: rest) = Char.ofNat byte.toNat :: decodeFrom none rest := by
  rw [decodeFrom, if_pos small]

theorem decodeFrom_lead (large : ¬ byte < 0x80) (leads : lead? byte = some character) :
    decodeFrom none (byte :: rest) = decodeFrom (some character) rest := by
  rw [decodeFrom, if_neg large, leads]

theorem decodeFrom_last (admits : character.admits byte = true) (last : character.missing = 1) :
    decodeFrom (some character) (byte :: rest) =
      Char.ofNat (character.extend byte) :: decodeFrom none rest := by
  rw [decodeFrom, if_pos admits, if_pos (Nat.le_of_eq last)]

theorem decodeFrom_more (admits : character.admits byte = true) (more : 1 < character.missing) :
    decodeFrom (some character) (byte :: rest) =
      decodeFrom (some ⟨character.extend byte, character.missing - 1, 0x80, 0xBF⟩) rest := by
  rw [decodeFrom, if_pos admits, if_neg (Nat.not_le.mpr more)]

end Steps

/-! ## Leading and continuing bytes -/

theorem lead_two : ∀ part < 32, 2 ≤ part ->
    lead? (UInt8.ofNat (part + 192)) = some ⟨part, 1, 0x80, 0xBF⟩ ∧
      ¬ UInt8.ofNat (part + 192) < 0x80 := by
  decide

theorem lead_three : ∀ part < 16,
    lead? (UInt8.ofNat (part + 224)) =
        some ⟨part, 2, if part = 0 then 0xA0 else 0x80, if part = 13 then 0x9F else 0xBF⟩ ∧
      ¬ UInt8.ofNat (part + 224) < 0x80 := by
  decide

theorem lead_four : ∀ part < 5,
    lead? (UInt8.ofNat (part + 240)) =
        some ⟨part, 3, if part = 0 then 0x90 else 0x80, if part = 4 then 0x8F else 0xBF⟩ ∧
      ¬ UInt8.ofNat (part + 240) < 0x80 := by
  decide

theorem toNat_continuation {part : Nat} (small : part < 64) :
    (UInt8.ofNat (part + 128)).toNat = part + 128 := by
  rw [UInt8.toNat_ofNat']
  omega

section Continuation

variable {part value : Nat} {low high : UInt8}

theorem admits_continuation (small : part < 64) (above : low.toNat ≤ part + 128)
    (below : part + 128 ≤ high.toNat) (value missing : Nat) :
    Partial.admits ⟨value, missing, low, high⟩ (UInt8.ofNat (part + 128)) = true := by
  unfold Partial.admits
  rw [Bool.and_eq_true, decide_eq_true_iff, decide_eq_true_iff, UInt8.le_iff_toNat_le,
    UInt8.le_iff_toNat_le, toNat_continuation small]
  exact ⟨above, below⟩

theorem extend_continuation (small : part < 64) (value missing : Nat) (low high : UInt8) :
    Partial.extend ⟨value, missing, low, high⟩ (UInt8.ofNat (part + 128)) = value * 64 + part := by
  unfold Partial.extend
  rw [toNat_continuation small]
  exact congrArg (value * 64 + ·) (Nat.add_sub_cancel part 128)

theorem decodeFrom_continues (small : part < 64) (above : low.toNat ≤ part + 128)
    (below : part + 128 ≤ high.toNat) (missing : Nat) (rest : Bytes) :
    decodeFrom (some ⟨value, missing + 2, low, high⟩) (UInt8.ofNat (part + 128) :: rest) =
      decodeFrom (some ⟨value * 64 + part, missing + 1, 0x80, 0xBF⟩) rest := by
  have more : 1 < missing + 2 := Nat.lt_add_left missing (by decide)
  rw [decodeFrom_more (admits_continuation small above below _ _) more, extend_continuation small]
  rfl

theorem decodeFrom_ends (small : part < 64) (rest : Bytes) :
    decodeFrom (some ⟨value, 1, 0x80, 0xBF⟩) (UInt8.ofNat (part + 128) :: rest) =
      Char.ofNat (value * 64 + part) :: decodeFrom none rest := by
  have above : UInt8.toNat 0x80 ≤ part + 128 := Nat.le_add_left 128 part
  have below : part + 128 ≤ UInt8.toNat 0xBF := by
    show part + 128 ≤ 191
    omega
  rw [decodeFrom_last (admits_continuation small above below _ _) rfl, extend_continuation small]

end Continuation

/-! ## Characters -/

section Characters

variable {number : Nat}

theorem decodeFrom_two (above : 0x7F < number) (below : number ≤ 0x7FF) (rest : Bytes) :
    decodeFrom none (UInt8.ofNat (number / 64 % 32 + 192) ::
      UInt8.ofNat (number % 64 + 128) :: rest) = Char.ofNat number :: decodeFrom none rest := by
  rcases lead_two (number / 64 % 32) (by omega) (by omega) with ⟨leads, large⟩
  have value : number / 64 % 32 * 64 + number % 64 = number := by omega
  rw [decodeFrom_lead large leads, decodeFrom_ends (Nat.mod_lt _ (by decide)), value]

theorem decodeFrom_three (above : 0x7FF < number) (below : number ≤ 0xFFFF)
    (valid : number < 0xD800 ∨ 0xDFFF < number) (rest : Bytes) :
    decodeFrom none (UInt8.ofNat (number / 4096 % 16 + 224) ::
      UInt8.ofNat (number / 64 % 64 + 128) :: UInt8.ofNat (number % 64 + 128) :: rest) =
        Char.ofNat number :: decodeFrom none rest := by
  rcases lead_three (number / 4096 % 16) (by omega) with ⟨leads, large⟩
  have middle : number / 64 % 64 < 64 := Nat.mod_lt _ (by decide)
  have low : (if number / 4096 % 16 = 0 then (0xA0 : UInt8) else 0x80).toNat ≤
      number / 64 % 64 + 128 := by
    split
    · show 160 ≤ number / 64 % 64 + 128
      omega
    · exact Nat.le_add_left 128 _
  have high : number / 64 % 64 + 128 ≤
      (if number / 4096 % 16 = 13 then (0x9F : UInt8) else 0xBF).toNat := by
    split
    · show number / 64 % 64 + 128 ≤ 159
      omega
    · show number / 64 % 64 + 128 ≤ 191
      omega
  generalize (if number / 4096 % 16 = 0 then (0xA0 : UInt8) else 0x80) = least at leads low
  generalize (if number / 4096 % 16 = 13 then (0x9F : UInt8) else 0xBF) = most at leads high
  have value : (number / 4096 % 16 * 64 + number / 64 % 64) * 64 + number % 64 = number := by omega
  rw [decodeFrom_lead large leads, decodeFrom_continues middle low high 0,
    decodeFrom_ends (Nat.mod_lt _ (by decide)), value]

theorem decodeFrom_four (above : 0xFFFF < number) (below : number < 0x110000) (rest : Bytes) :
    decodeFrom none (UInt8.ofNat (number / 262144 % 8 + 240) ::
      UInt8.ofNat (number / 4096 % 64 + 128) :: UInt8.ofNat (number / 64 % 64 + 128) ::
        UInt8.ofNat (number % 64 + 128) :: rest) = Char.ofNat number :: decodeFrom none rest := by
  rcases lead_four (number / 262144 % 8) (by omega) with ⟨leads, large⟩
  have second : number / 4096 % 64 < 64 := Nat.mod_lt _ (by decide)
  have third : number / 64 % 64 < 64 := Nat.mod_lt _ (by decide)
  have low : (if number / 262144 % 8 = 0 then (0x90 : UInt8) else 0x80).toNat ≤
      number / 4096 % 64 + 128 := by
    split
    · show 144 ≤ number / 4096 % 64 + 128
      omega
    · exact Nat.le_add_left 128 _
  have high : number / 4096 % 64 + 128 ≤
      (if number / 262144 % 8 = 4 then (0x8F : UInt8) else 0xBF).toNat := by
    split
    · show number / 4096 % 64 + 128 ≤ 143
      omega
    · show number / 4096 % 64 + 128 ≤ 191
      omega
  generalize (if number / 262144 % 8 = 0 then (0x90 : UInt8) else 0x80) = least at leads low
  generalize (if number / 262144 % 8 = 4 then (0x8F : UInt8) else 0xBF) = most at leads high
  have below : number / 64 % 64 + 128 ≤ UInt8.toNat 0xBF := by
    show number / 64 % 64 + 128 ≤ 191
    omega
  have value : ((number / 262144 % 8 * 64 + number / 4096 % 64) * 64 + number / 64 % 64) * 64 +
      number % 64 = number := by omega
  rw [decodeFrom_lead large leads, decodeFrom_continues second low high 1,
    decodeFrom_continues third (Nat.le_add_left 128 _) below 0,
    decodeFrom_ends (Nat.mod_lt _ (by decide)), value]

end Characters

/-- The bytes of a character are read as that character. -/
theorem decodeFrom_char (character : Char) (rest : Bytes) :
    decodeFrom none (String.utf8EncodeChar character ++ rest) =
      character :: decodeFrom none rest := by
  -- A character is not a surrogate, and there is a greatest one.
  have valid : character.val.toNat < 0xD800 ∨
    0xDFFF < character.val.toNat ∧ character.val.toNat < 0x110000 := character.valid
  have back : Char.ofNat character.val.toNat = character := Char.ofNat_toNat character
  unfold String.utf8EncodeChar
  dsimp only
  generalize character.val.toNat = number at valid back
  subst back
  split
  · next ascii =>
    have same : (UInt8.ofNat number).toNat = number := by
      rw [UInt8.toNat_ofNat']
      omega
    have small : UInt8.ofNat number < 0x80 := by
      rw [UInt8.lt_iff_toNat_lt, same]
      exact Nat.lt_succ_of_le ascii
    rw [List.singleton_append, decodeFrom_ascii small, same]
  · split
    · next above below => exact decodeFrom_two (Nat.not_le.mp above) below rest
    · split
      · next above below => exact decodeFrom_three (Nat.not_le.mp above) below (by omega) rest
      · next above => exact decodeFrom_four (Nat.not_le.mp above) (by omega) rest

theorem decodeFrom_encodeChars (characters : List Char) :
    decodeFrom none (encodeChars characters) = characters := by
  induction characters with
  | nil => rfl
  | cons character characters ih =>
      have step := decodeFrom_char character (encodeChars characters)
      rw [ih] at step
      exact step

/-- A text is read from its bytes. -/
theorem decodeUtf8_encodeUtf8 (text : String) : decodeUtf8 (encodeUtf8 text) = text := by
  unfold decodeUtf8 encodeUtf8
  rw [decodeFrom_encodeChars, String.ofList_toList]

/-! ## Fields -/

/-- Only one character has a zero among its bytes. -/
theorem zero_not_mem_char {character : Char} (other : character ≠ Char.ofNat 0) :
    (0 : UInt8) ∉ String.utf8EncodeChar character := by
  have positive : character.val.toNat ≠ 0 := fun zero => other (by
    rw [← Char.ofNat_toNat character]
    exact congrArg Char.ofNat zero)
  have nonzero : ∀ {number : Nat}, 0 < number -> number < 256 ->
      (0 : UInt8) ≠ UInt8.ofNat number := by
    intro number above below same
    have zero := congrArg UInt8.toNat same
    rw [UInt8.toNat_ofNat', UInt8.toNat_zero] at zero
    omega
  unfold String.utf8EncodeChar
  dsimp only
  generalize character.val.toNat = number at positive
  split
  · exact fun here => nonzero (by omega) (by omega) (List.mem_singleton.mp here)
  · split
    · simp only [List.mem_cons, List.not_mem_nil, or_false, not_or]
      exact ⟨nonzero (by omega) (by omega), nonzero (by omega) (by omega)⟩
    · split
      · simp only [List.mem_cons, List.not_mem_nil, or_false, not_or]
        exact ⟨nonzero (by omega) (by omega), nonzero (by omega) (by omega),
          nonzero (by omega) (by omega)⟩
      · simp only [List.mem_cons, List.not_mem_nil, or_false, not_or]
        exact ⟨nonzero (by omega) (by omega), nonzero (by omega) (by omega),
          nonzero (by omega) (by omega), nonzero (by omega) (by omega)⟩

namespace Field

/-- A text that stands in a field as it is: there is room for it, and it does not end before
its last character. -/
structure Holds (width : Nat) (text : String) : Prop where
  fits : (encodeUtf8 text).length ≤ width
  unbroken : Char.ofNat 0 ∉ text.toList

variable {width : Nat} {text : String}

theorem Holds.zero_not_mem (holds : Holds width text) : (0 : UInt8) ∉ encodeUtf8 text := by
  intro here
  rcases List.mem_flatMap.mp here with ⟨character, among, zero⟩
  exact zero_not_mem_char (fun same => holds.unbroken (same ▸ among)) zero

theorem textOf_append_zeros {bytes : Bytes} (free : (0 : UInt8) ∉ bytes) (count : Nat) :
    textOf (bytes ++ List.replicate count 0) = decodeUtf8 bytes := by
  have front : (bytes ++ List.replicate count 0).takeWhile (· != 0) = bytes := by
    have nonzero : ∀ byte ∈ bytes, (byte != 0) = true := by
      intro byte here
      refine bne_iff_ne.mpr fun zero => free ?_
      rwa [zero] at here
    rw [List.takeWhile_append_of_pos nonzero]
    cases count with
    | zero => exact List.append_nil bytes
    | succ count => exact List.append_nil bytes
  unfold textOf
  rw [front]

theorem toList_ofBytes {bytes : Bytes} (fits : bytes.length ≤ width) :
    (ofBytes width bytes).toList = bytes ++ List.replicate (width - bytes.length) 0 := by
  have content : (ofBytes width bytes).toList = (bytes ++ List.replicate width 0).take width := rfl
  rw [content, List.take_append, List.take_of_length_le fits, List.take_replicate,
    Nat.min_eq_left (Nat.sub_le ..)]

theorem Holds.text_ofBytes (holds : Holds width text) :
    (ofBytes width (encodeUtf8 text)).text = text := by
  unfold Field.text
  rw [toList_ofBytes holds.fits, textOf_append_zeros holds.zero_not_mem, decodeUtf8_encodeUtf8]

/-- A text that a field holds is the text that is read from it. -/
theorem Holds.text_ofText? (holds : Holds width text) :
    ∃ field, ofText? width text = .ok field ∧ field.text = text :=
  ⟨_, if_pos holds.fits, holds.text_ofBytes⟩

end Field

end Text
end MessageBus
