import Mathlib
import MessageBus.Proofs.Texts

namespace MessageBus
namespace Text

open Wire (Bytes)

/-!
# Texts that are cut

The reader of UTF-8 makes a text of any bytes, and the text can be longer than they are: what
stands for a broken character takes three.  So a text that came out of a field need not fit into a
field of the same width, and what is put there is cut.

What is left is as much of the text as there is room for, in whole characters, and `Field.CutsTo`
says this without saying how it is found.  It is also what is read back, unless the text has an
end in it, a character whose byte is zero.  No text that came out of a field has one: a
character that has begun can only become one that takes as many bytes as its first byte has
said (`Partial.Sound`), and that is never the one whose number is zero.
-/

/-! ## Bytes that are no text -/

theorem ofNat_ne_nul {number : Nat} (positive : 0 < number)
    (valid : number < 0xD800 ∨ 0xDFFF < number ∧ number < 0x110000) :
    Char.ofNat number ≠ Char.ofNat 0 := by
  intro same
  have toNat : (Char.ofNat number).toNat = number :=
    (Char.toNat_ofNat number).trans (if_pos valid)
  rw [same] at toNat
  exact absurd positive (toNat ▸ Nat.lt_irrefl 0)

theorem replacement_ne_nul : replacement ≠ Char.ofNat 0 := by
  decide

theorem ascii_ne_nul {byte : UInt8} (small : byte < 0x80) (other : byte ≠ 0) :
    Char.ofNat byte.toNat ≠ Char.ofNat 0 := by
  have small : byte.toNat < 128 := small
  refine ofNat_ne_nul (Nat.pos_of_ne_zero fun zero => other ?_) (Or.inl (by omega))
  exact UInt8.toNat_inj.mp zero

namespace Partial

/-- The least number that a character that has begun can still come to. -/
def least (character : Partial) : Nat :=
  character.extend character.low * 64 ^ (character.missing - 1)

/-- The first number that it is too late for. -/
def bound (character : Partial) : Nat :=
  (character.extend character.high + 1) * 64 ^ (character.missing - 1)

/-- Whatever completes it, it becomes a character, and not the one that ends a text. -/
structure Sound (character : Partial) : Prop where
  positive : 0 < character.least
  valid : character.bound ≤ 0xD800 ∨ 0xDFFF < character.least ∧ character.bound ≤ 0x110000

variable {character later : Partial} {byte : UInt8}

theorem extend_mono {first second : UInt8} (ordered : first ≤ second) :
    character.extend first ≤ character.extend second := by
  have ordered : first.toNat ≤ second.toNat := ordered
  unfold extend
  omega

/-- The next byte narrows down what it can come to. -/
theorem within_of_admits (admits : character.admits byte = true) :
    character.least ≤ character.extend byte * 64 ^ (character.missing - 1) ∧
      (character.extend byte + 1) * 64 ^ (character.missing - 1) ≤ character.bound := by
  unfold Partial.admits at admits
  rw [Bool.and_eq_true, decide_eq_true_iff, decide_eq_true_iff] at admits
  exact ⟨Nat.mul_le_mul_right _ (extend_mono admits.1),
    Nat.mul_le_mul_right _ (Nat.succ_le_succ (extend_mono admits.2))⟩

theorem Sound.of_within (sound : character.Sound) (least : character.least ≤ later.least)
    (bound : later.bound ≤ character.bound) : later.Sound where
  positive := Nat.lt_of_lt_of_le sound.positive least
  valid := sound.valid.imp (Nat.le_trans bound)
    fun ⟨low, high⟩ => ⟨Nat.lt_of_lt_of_le low least, Nat.le_trans bound high⟩

/-- Where nothing narrows the next byte, all its six bits are open. -/
theorem open_of_continues (value missing : Nat) :
    least ⟨value, missing + 1, 0x80, 0xBF⟩ = value * 64 ^ (missing + 1) ∧
      bound ⟨value, missing + 1, 0x80, 0xBF⟩ = (value + 1) * 64 ^ (missing + 1) := by
  have low : extend ⟨value, missing + 1, 0x80, 0xBF⟩ 0x80 = value * 64 := rfl
  have high : extend ⟨value, missing + 1, 0x80, 0xBF⟩ 0xBF + 1 = (value + 1) * 64 :=
    (Nat.succ_mul value 64).symm
  unfold least bound
  rw [low, high, Nat.add_sub_cancel, Nat.mul_assoc, Nat.mul_assoc, ← Nat.pow_succ']
  exact ⟨rfl, rfl⟩

theorem Sound.next (sound : character.Sound) (admits : character.admits byte = true)
    (more : 1 < character.missing) :
    Sound ⟨character.extend byte, character.missing - 1, 0x80, 0xBF⟩ := by
  rcases within_of_admits admits with ⟨least, bound⟩
  rcases Nat.exists_eq_succ_of_ne_zero (Nat.sub_ne_zero_of_lt more) with ⟨missing, left⟩
  rcases open_of_continues (character.extend byte) missing with ⟨sameLeast, sameBound⟩
  rw [left] at least bound ⊢
  rw [← sameLeast] at least
  rw [← sameBound] at bound
  exact sound.of_within least bound

theorem Sound.ne_nul (sound : character.Sound) (admits : character.admits byte = true)
    (last : character.missing ≤ 1) : Char.ofNat (character.extend byte) ≠ Char.ofNat 0 := by
  rcases within_of_admits admits with ⟨least, bound⟩
  rw [Nat.sub_eq_zero_of_le last, Nat.pow_zero, Nat.mul_one] at least bound
  refine ofNat_ne_nul (Nat.lt_of_lt_of_le sound.positive least) ?_
  rcases sound.valid with below | ⟨above, below⟩
  · exact Or.inl (Nat.le_trans bound below)
  · exact Or.inr ⟨Nat.lt_of_lt_of_le above least, Nat.le_trans bound below⟩

end Partial

/-- A byte that leads a character says enough about it. -/
theorem sound_of_lead? {byte : UInt8} {character : Partial} (leads : lead? byte = some character) :
    character.Sound := by
  have all : ∀ number < 256, ∀ character ∈ lead? (UInt8.ofNat number),
      0 < character.least ∧
        (character.bound ≤ 0xD800 ∨ 0xDFFF < character.least ∧ character.bound ≤ 0x110000) := by
    decide +kernel
  have same : lead? (UInt8.ofNat byte.toNat) = some character := by
    rw [UInt8.ofNat_toNat, leads]
  rcases all byte.toNat byte.toNat_lt character same with ⟨positive, valid⟩
  exact ⟨positive, valid⟩

/-- Whatever the bytes are, if no zero is among them then what is read has no end in it. -/
theorem nul_not_mem_decodeFrom {bytes : Bytes} (free : (0 : UInt8) ∉ bytes)
    (open? : Option Partial) (sound : ∀ character ∈ open?, character.Sound) :
    Char.ofNat 0 ∉ decodeFrom open? bytes := by
  have step {character : Char} {rest : List Char} (other : character ≠ Char.ofNat 0)
      (later : Char.ofNat 0 ∉ rest) : Char.ofNat 0 ∉ character :: rest :=
    List.not_mem_cons_of_ne_of_not_mem other.symm later
  fun_induction decodeFrom open? bytes with
  | case1 => exact List.not_mem_nil
  | case2 character => exact step replacement_ne_nul List.not_mem_nil
  | case3 byte rest small ih =>
      rcases List.ne_and_not_mem_of_not_mem_cons free with ⟨first, later⟩
      exact step (ascii_ne_nul small first.symm) (ih later nofun)
  | case4 byte rest large unled ih =>
      exact step replacement_ne_nul (ih (List.not_mem_of_not_mem_cons free) nofun)
  | case5 byte rest large character leads ih =>
      refine ih (List.not_mem_of_not_mem_cons free) fun begun here => ?_
      exact Option.mem_some.mp here ▸ sound_of_lead? leads
  | case6 character byte rest admits last ih =>
      have own := sound character rfl
      exact step (own.ne_nul admits last) (ih (List.not_mem_of_not_mem_cons free) nofun)
  | case7 character byte rest admits more ih =>
      refine ih (List.not_mem_of_not_mem_cons free) fun begun here => ?_
      exact Option.mem_some.mp here ▸ (sound character rfl).next admits (Nat.lt_of_not_le more)
  | case8 character byte rest refused small ih =>
      rcases List.ne_and_not_mem_of_not_mem_cons free with ⟨first, later⟩
      exact step replacement_ne_nul (step (ascii_ne_nul small first.symm) (ih later nofun))
  | case9 character byte rest refused large unled ih =>
      exact step replacement_ne_nul
        (step replacement_ne_nul (ih (List.not_mem_of_not_mem_cons free) nofun))
  | case10 character byte rest refused large next leads ih =>
      refine step replacement_ne_nul (ih (List.not_mem_of_not_mem_cons free) fun begun here => ?_)
      exact Option.mem_some.mp here ▸ sound_of_lead? leads

/-! ## As much as there is room for -/

section Prefixes

variable {room : Nat} {characters other : List Char}

theorem length_encodeChars_cons (character : Char) (rest : List Char) :
    (encodeChars (character :: rest)).length =
      character.utf8Size + (encodeChars rest).length := by
  show (String.utf8EncodeChar character ++ encodeChars rest).length = _
  rw [List.length_append, String.length_utf8EncodeChar]

theorem prefixWithin_leads (room : Nat) (characters : List Char) :
    prefixWithin room characters <+: characters := by
  induction characters generalizing room with
  | nil => exact List.prefix_rfl
  | cons character rest ih =>
      unfold prefixWithin
      split
      · exact List.cons_prefix_cons.mpr ⟨rfl, ih _⟩
      · exact List.nil_prefix

theorem prefixWithin_fits (room : Nat) (characters : List Char) :
    (encodeChars (prefixWithin room characters)).length ≤ room := by
  induction characters generalizing room with
  | nil => exact Nat.zero_le room
  | cons character rest ih =>
      unfold prefixWithin
      split
      · next enough =>
        have behind := ih (room - character.utf8Size)
        rw [length_encodeChars_cons]
        omega
      · exact Nat.zero_le room

theorem prefixWithin_longest (leads : other <+: characters)
    (fits : (encodeChars other).length ≤ room) : other <+: prefixWithin room characters := by
  induction characters generalizing room other with
  | nil => exact leads
  | cons character rest ih =>
      rcases List.prefix_cons_iff.mp leads with rfl | ⟨behind, rfl, leadsRest⟩
      · exact List.nil_prefix
      · rw [length_encodeChars_cons] at fits
        unfold prefixWithin
        rw [if_pos (Nat.le_trans (Nat.le_add_right ..) fits)]
        exact List.cons_prefix_cons.mpr ⟨rfl, ih leadsRest (Nat.le_sub_of_add_le' fits)⟩

end Prefixes

namespace Field

/-- What a text is cut to: as much of it as there is room for, in whole characters. -/
structure CutsTo (width : Nat) (text cut : String) : Prop where
  leads : cut.toList <+: text.toList
  fits : (encodeUtf8 cut).length ≤ width
  longest : ∀ other : String, other.toList <+: text.toList ->
    (encodeUtf8 other).length ≤ width -> other.toList <+: cut.toList

variable {width : Nat} {text cut : String}

/-- A text that fits is left as it is. -/
theorem CutsTo.eq_of_fits (cuts : CutsTo width text cut)
    (fits : (encodeUtf8 text).length ≤ width) : cut = text := by
  have whole := cuts.longest text List.prefix_rfl fits
  exact String.toList_inj.mp (cuts.leads.eq_of_length_le whole.length_le)

/-- There is only one way to cut a text. -/
theorem CutsTo.unique {other : String} (cuts : CutsTo width text cut)
    (also : CutsTo width text other) : cut = other := by
  have first := also.longest cut cuts.leads cuts.fits
  have second := cuts.longest other also.leads also.fits
  exact String.toList_inj.mp (first.eq_of_length_le second.length_le)

/-- To take whole characters while there is room is the way to cut a text. -/
theorem cutsTo_prefixWithin (width : Nat) (text : String) :
    CutsTo width text (String.ofList (prefixWithin width text.toList)) := by
  constructor
  case leads =>
    rw [String.toList_ofList]
    exact prefixWithin_leads width text.toList
  case fits =>
    unfold encodeUtf8
    rw [String.toList_ofList]
    exact prefixWithin_fits width text.toList
  case longest =>
    intro other leads fits
    rw [String.toList_ofList]
    exact prefixWithin_longest leads fits

theorem CutsTo.ofPrefix_eq (cuts : CutsTo width text cut) :
    ofPrefix width text = ofBytes width (encodeUtf8 cut) := by
  rw [cuts.unique (cutsTo_prefixWithin width text)]
  unfold ofPrefix encodeUtf8
  rw [String.toList_ofList]

/-- What is read of a text that was cut is what it was cut to. -/
theorem cutsTo_ofPrefix (unbroken : Char.ofNat 0 ∉ text.toList) (width : Nat) :
    CutsTo width text (ofPrefix width text).text := by
  have cuts := cutsTo_prefixWithin width text
  have holds : Holds width (String.ofList (prefixWithin width text.toList)) :=
    ⟨cuts.fits, fun here => unbroken (cuts.leads.subset here)⟩
  rw [cuts.ofPrefix_eq, holds.text_ofBytes]
  exact cuts

/-- What is read from a field has no end in it. -/
theorem unbroken_text (field : Field width) : Char.ofNat 0 ∉ field.text.toList := by
  have free : (0 : UInt8) ∉ field.toList.takeWhile (· != 0) := fun here =>
    absurd (List.mem_takeWhile_imp here) (by decide)
  unfold Field.text textOf decodeUtf8
  rw [String.toList_ofList]
  exact nul_not_mem_decodeFrom free none nofun

/-- Bytes that are a text are read as that text, which fits where they came from. -/
theorem text_of_written {field : Field width}
    (written : encodeUtf8 text = field.toList.takeWhile (· != 0)) :
    field.text = text ∧ (encodeUtf8 text).length ≤ width := by
  constructor
  · unfold Field.text textOf
    rw [← written, decodeUtf8_encodeUtf8]
  · rw [written]
    exact Nat.le_trans (List.takeWhile_sublist _).length_le (Nat.le_of_eq field.length_toList)

end Field

end Text
end MessageBus
