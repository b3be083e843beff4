import Mathlib
import MessageBus.Proofs.Clipped

namespace MessageBus
namespace Text

open Wire (Bytes)

/-!
# Where a text can be cut

A text that is too long for a field can be cut without looking at its characters: from the width
of the field one goes back, byte by byte, as long as the byte that would come next goes on with a
character.  This is the same as taking whole characters from the front while there is room
(`boundaryFrom?_encodeChars`), since a byte tells by itself whether it begins a character
(`continues_char`), so the places where one may stop are the ends of the leading characters
(`isBoundary_encodeChars_iff`).

The way back is short, and it does not lead below the first byte: a text can always be cut before
everything.  What stands in front of the cut is text and is read as such, up to the first
character whose byte is zero; the zeros that fill up the field come after that.
-/

/-- Whether a byte goes on with a character that has begun. -/
def continues (byte : UInt8) : Bool :=
  0x80 <= byte && byte <= 0xBF

/-- Whether a text can be cut at a position: at its ends, and before a byte that does not go on
with a character. -/
def isBoundary (bytes : Bytes) (position : Nat) : Bool :=
  if position = 0 then true
  else match bytes[position]? with
    | none => position == bytes.length
    | some byte => !continues byte

/-- The first position, going back from the given one, where the text can be cut.  There is none
if the search passes the beginning. -/
def boundaryFrom? (bytes : Bytes) : (position : Nat) -> Option Nat
  | 0 => if isBoundary bytes 0 then some 0 else none
  | position + 1 =>
      if isBoundary bytes (position + 1) then some (position + 1)
      else boundaryFrom? bytes position

/-! ## Going back -/

section Search

variable {bytes front rest : Bytes} {start stop position : Nat}

/-- The search stops at the last position, up to its start, where the text can be cut. -/
theorem boundaryFrom?_eq_some (near : stop ≤ start) (cuttable : isBoundary bytes stop = true)
    (last : ∀ between, stop < between -> between ≤ start -> isBoundary bytes between = false) :
    boundaryFrom? bytes start = some stop := by
  induction start with
  | zero =>
      rcases Nat.le_zero.mp near with rfl
      exact if_pos cuttable
  | succ start ih =>
      unfold boundaryFrom?
      rcases Nat.eq_or_lt_of_le near with rfl | before
      · exact if_pos cuttable
      · rw [last (start + 1) before (Nat.le_refl _), if_neg Bool.false_ne_true]
        exact ih (Nat.le_of_lt_succ before)
          fun between after upTo => last between after (Nat.le_succ_of_le upTo)

/-- Behind other bytes the same places are left, except that the beginning is no end any more. -/
theorem isBoundary_append (inside : position ≠ 0) :
    isBoundary (front ++ rest) (front.length + position) = isBoundary rest position := by
  have same : (front ++ rest)[front.length + position]? = rest[position]? := by
    rw [List.getElem?_append_right (Nat.le_add_right ..), Nat.add_sub_cancel_left]
  unfold isBoundary
  rw [if_neg inside, if_neg (by omega), same, List.length_append]
  cases rest[position]? with
  | none => exact Bool.eq_iff_iff.mpr (by simp)
  | some byte => rfl

end Search

/-! ## The bytes of a character -/

theorem continues_of_part {part : Nat} (small : part < 64) :
    continues (UInt8.ofNat (part + 128)) = true := by
  have least : UInt8.toNat 0x80 ≤ part + 128 := Nat.le_add_left 128 part
  have most : part + 128 ≤ UInt8.toNat 0xBF := by
    show part + 128 ≤ 191
    omega
  exact admits_continuation small least most 0 0

/-- A byte that is below all that go on with a character, or above them. -/
theorem continues_of_outside {number : Nat} (bounded : number < 256)
    (outside : number < 0x80 ∨ 0xBF < number) : continues (UInt8.ofNat number) = false := by
  have same : (UInt8.ofNat number).toNat = number := UInt8.toNat_ofNat_of_lt' bounded
  unfold continues
  rw [Bool.and_eq_false_iff, decide_eq_false_iff_not, decide_eq_false_iff_not,
    UInt8.le_iff_toNat_le, UInt8.le_iff_toNat_le, same]
  exact outside.imp Nat.not_le.mpr Nat.not_le.mpr

/-- Of the bytes of a character the first does not go on with one, and all others do. -/
theorem continues_char (character : Char) :
    ∃ first later, String.utf8EncodeChar character = first :: later ∧
      continues first = false ∧ ∀ byte ∈ later, continues byte = true := by
  have part (number : Nat) : continues (UInt8.ofNat (number % 64 + 128)) = true :=
    continues_of_part (Nat.mod_lt _ (by decide))
  unfold String.utf8EncodeChar
  dsimp only
  generalize character.val.toNat = number
  split
  · next ascii =>
    exact ⟨_, _, rfl, continues_of_outside (by omega) (Or.inl (by omega)), List.forall_mem_nil _⟩
  · split
    · refine ⟨_, _, rfl, continues_of_outside (by omega) (Or.inr (by omega)), ?_⟩
      exact List.forall_mem_singleton.mpr (part _)
    · split
      · refine ⟨_, _, rfl, continues_of_outside (by omega) (Or.inr (by omega)), ?_⟩
        exact List.forall_mem_cons.mpr ⟨part _, List.forall_mem_singleton.mpr (part _)⟩
      · refine ⟨_, _, rfl, continues_of_outside (by omega) (Or.inr (by omega)), ?_⟩
        exact List.forall_mem_cons.mpr ⟨part _,
          List.forall_mem_cons.mpr ⟨part _, List.forall_mem_singleton.mpr (part _)⟩⟩

/-! ## Cutting between characters -/

section Characters

variable {characters front rest : List Char} {position : Nat}

theorem encodeChars_append (front rest : List Char) :
    encodeChars (front ++ rest) = encodeChars front ++ encodeChars rest :=
  List.flatMap_append

/-- What begins with a character, or with nothing, can be cut off. -/
theorem isBoundary_of_front (leads : front <+: characters) :
    isBoundary (encodeChars characters) (encodeChars front).length = true := by
  rcases leads with ⟨rest, rfl⟩
  unfold isBoundary
  rw [encodeChars_append, List.getElem?_append_right (Nat.le_refl _), Nat.sub_self]
  split
  · rfl
  · cases rest with
    | nil => simp [encodeChars]
    | cons character rest =>
        rcases continues_char character with ⟨first, later, bytes, begins, -⟩
        have first? : (encodeChars (character :: rest))[0]? = some first := by
          show (String.utf8EncodeChar character ++ encodeChars rest)[0]? = some first
          rw [bytes]
          rfl
        rw [first?]
        simp [begins]

/-- Within a character there is nothing to cut. -/
theorem isBoundary_within_char {character : Char} {rest : Bytes} (inside : position ≠ 0)
    (within : position < character.utf8Size) :
    isBoundary (String.utf8EncodeChar character ++ rest) position = false := by
  rcases continues_char character with ⟨first, later, bytes, -, goesOn⟩
  rw [← String.length_utf8EncodeChar, bytes] at within
  rcases Nat.exists_eq_succ_of_ne_zero inside with ⟨place, rfl⟩
  have behind : place < later.length := Nat.lt_of_succ_lt_succ within
  have byte? : (first :: later ++ rest)[place + 1]? = some later[place] := by
    rw [List.getElem?_append_left within, List.getElem?_cons_succ,
      List.getElem?_eq_getElem behind]
  unfold isBoundary
  rw [if_neg inside, bytes, byte?]
  exact congrArg not (goesOn _ (List.getElem_mem behind))

/-- Where a text can be cut a character has just ended, or none has begun. -/
theorem exists_front_of_isBoundary (cuttable : isBoundary (encodeChars characters) position = true) :
    ∃ front, front <+: characters ∧ (encodeChars front).length = position := by
  by_cases inside : position = 0
  · exact ⟨[], List.nil_prefix, inside.symm⟩
  induction characters generalizing position with
  | nil =>
      unfold isBoundary at cuttable
      rw [if_neg inside] at cuttable
      exact ⟨[], List.nil_prefix, (beq_iff_eq.mp cuttable).symm⟩
  | cons character rest ih =>
      have size := String.length_utf8EncodeChar character
      by_cases within : position < character.utf8Size
      · have between : isBoundary (encodeChars (character :: rest)) position = false :=
          isBoundary_within_char inside within
        exact absurd cuttable (Bool.eq_false_iff.mp between)
      · rcases Nat.exists_eq_add_of_le (Nat.not_lt.mp within) with ⟨beyond, rfl⟩
        by_cases further : beyond = 0
        · refine ⟨[character], List.cons_prefix_cons.mpr ⟨rfl, List.nil_prefix⟩, ?_⟩
          rw [length_encodeChars_cons, further]
          rfl
        · have behind : isBoundary (encodeChars (character :: rest))
              ((String.utf8EncodeChar character).length + beyond) =
                isBoundary (encodeChars rest) beyond := isBoundary_append further
          rw [size] at behind
          rcases ih (behind.symm.trans cuttable) further with ⟨front, leads, ends⟩
          refine ⟨character :: front, List.cons_prefix_cons.mpr ⟨rfl, leads⟩, ?_⟩
          rw [length_encodeChars_cons, ends]

/-- A text can be cut behind its leading characters, and nowhere else. -/
theorem isBoundary_encodeChars_iff :
    isBoundary (encodeChars characters) position = true ↔
      ∃ front, front <+: characters ∧ (encodeChars front).length = position :=
  ⟨exists_front_of_isBoundary, fun ⟨_, leads, ends⟩ => ends ▸ isBoundary_of_front leads⟩

theorem length_encodeChars_mono (leads : front <+: characters) :
    (encodeChars front).length ≤ (encodeChars characters).length := by
  rcases leads with ⟨rest, rfl⟩
  rw [encodeChars_append, List.length_append]
  exact Nat.le_add_right ..

/-- Going back from the width of a field one finds as many whole characters as there is room
for. -/
theorem boundaryFrom?_encodeChars (width : Nat) (characters : List Char) :
    boundaryFrom? (encodeChars characters) (min (encodeChars characters).length width) =
      some (encodeChars (prefixWithin width characters)).length := by
  have leads := prefixWithin_leads width characters
  have cuttable := isBoundary_encodeChars_iff.mpr ⟨_, leads, rfl⟩
  refine boundaryFrom?_eq_some ?_ cuttable fun between after upTo => ?_
  · exact Nat.le_min.mpr ⟨length_encodeChars_mono leads, prefixWithin_fits width characters⟩
  · refine Bool.eq_false_iff.mpr fun cuttable => ?_
    rcases isBoundary_encodeChars_iff.mp cuttable with ⟨front, leads, rfl⟩
    have fits := Nat.le_trans upTo (Nat.min_le_right ..)
    have most := length_encodeChars_mono (prefixWithin_longest leads fits)
    exact absurd after (Nat.not_lt.mpr most)

/-- Less than one character is given up. -/
theorem room_lt (width : Nat) (characters : List Char) :
    min (encodeChars characters).length width <
      (encodeChars (prefixWithin width characters)).length + 4 := by
  induction characters generalizing width with
  | nil => exact Nat.lt_of_le_of_lt (Nat.min_le_left ..) (Nat.succ_pos _)
  | cons character rest ih =>
      unfold prefixWithin
      split
      · next enough =>
        have behind := ih (width - character.utf8Size)
        rw [length_encodeChars_cons, length_encodeChars_cons]
        omega
      · next scarce =>
        have size := character.utf8Size_le_four
        exact Nat.lt_of_le_of_lt (Nat.min_le_right ..)
          (Nat.lt_of_lt_of_le (Nat.not_le.mp scarce) (Nat.le_trans size (Nat.le_add_left ..)))

/-- The first zero among the bytes of a text that is filled up is where the text ends. -/
theorem takeWhile_encodeChars (characters : List Char) (count : Nat) :
    (encodeChars characters ++ List.replicate count 0).takeWhile (· != 0) =
      encodeChars (characters.takeWhile (· != Char.ofNat 0)) := by
  induction characters with
  | nil =>
      cases count with
      | zero => rfl
      | succ count => rfl
  | cons character rest ih =>
      have split : encodeChars (character :: rest) ++ List.replicate count 0 =
          String.utf8EncodeChar character ++ (encodeChars rest ++ List.replicate count 0) :=
        List.append_assoc ..
      by_cases nul : character = Char.ofNat 0
      · subst nul
        rfl
      · have nonzero : ∀ byte ∈ String.utf8EncodeChar character, (byte != 0) = true := by
          intro byte here
          refine bne_iff_ne.mpr fun zero => zero_not_mem_char nul ?_
          rwa [zero] at here
        have kept : (character :: rest).takeWhile (· != Char.ofNat 0) =
            character :: rest.takeWhile (· != Char.ofNat 0) :=
          List.takeWhile_cons_of_pos (bne_iff_ne.mpr nul)
        rw [split, List.takeWhile_append_of_pos nonzero, ih, kept]
        rfl

end Characters

/-! ## Cut texts in fields -/

namespace Field

variable {width : Nat} {text cut : String}

/-- A cut text has its bytes where the whole text has them. -/
theorem CutsTo.encodeUtf8_eq (cuts : CutsTo width text cut) :
    encodeUtf8 cut = (encodeUtf8 text).take (encodeUtf8 cut).length := by
  rcases cuts.leads with ⟨rest, whole⟩
  unfold encodeUtf8
  rw [← whole, encodeChars_append, List.take_left]

/-- The bytes that go into a field, found from behind. -/
theorem CutsTo.boundaryFrom?_eq (cuts : CutsTo width text cut) :
    boundaryFrom? (encodeUtf8 text) (min (encodeUtf8 text).length width) =
      some (encodeUtf8 cut).length := by
  have found := boundaryFrom?_encodeChars width text.toList
  rw [cuts.unique (cutsTo_prefixWithin width text)]
  unfold encodeUtf8
  rw [String.toList_ofList]
  exact found

/-- What is read of a text that was cut is what it was cut to, up to an end that it has in it. -/
theorem CutsTo.text_ofPrefix (cuts : CutsTo width text cut) :
    (ofPrefix width text).text = String.ofList (cut.toList.takeWhile (· != Char.ofNat 0)) := by
  unfold Field.text textOf decodeUtf8
  rw [cuts.ofPrefix_eq, toList_ofBytes cuts.fits]
  unfold encodeUtf8
  rw [takeWhile_encodeChars, decodeFrom_encodeChars]

/-- A text that fits is not cut. -/
theorem ofPrefix_of_fits (fits : (encodeUtf8 text).length ≤ width) :
    ofPrefix width text = ofBytes width (encodeUtf8 text) := by
  have cuts := cutsTo_prefixWithin width text
  rw [cuts.ofPrefix_eq, cuts.eq_of_fits fits]

theorem ofText?_eq_ok_iff {field : Field width} :
    ofText? width text = .ok field ↔
      (encodeUtf8 text).length ≤ width ∧ field = ofPrefix width text := by
  unfold ofText?
  dsimp only
  split
  · next fits =>
    rw [ofPrefix_of_fits fits]
    exact ⟨fun same => ⟨fits, (Except.ok.inj same).symm⟩, fun ⟨_, same⟩ => congrArg _ same.symm⟩
  · next long => exact iff_of_false nofun fun ⟨fits, _⟩ => long fits

theorem ofText?_eq_error_iff {refusal : TooLong} :
    ofText? width text = .error refusal ↔
      width < (encodeUtf8 text).length ∧ refusal = ⟨(encodeUtf8 text).length, width⟩ := by
  unfold ofText?
  dsimp only
  split
  · next fits => exact iff_of_false nofun fun ⟨long, _⟩ => Nat.not_lt.mpr fits long
  · next long =>
    exact ⟨fun same => ⟨Nat.not_le.mp long, (Except.error.inj same).symm⟩,
      fun ⟨_, same⟩ => congrArg _ same.symm⟩

/-- A text in a field.  Going back from the width of the field, or from the end of the text, one
stops after at most three bytes at a place where the text can be cut.  What stands before it is
the longest part of the text, in whole characters, that the field has room for; it is written
with zeros behind it and read back up to its first NUL.  A whole text is accepted exactly if
there is room for it, and gives the same field; so, if no NUL is in it, it is read back as it
was, also if it leaves no room for a terminator. -/
theorem written_and_read (width : Nat) (text : String) :
    ∃ (stop : Nat) (cut : String),
      boundaryFrom? (encodeUtf8 text) (min (encodeUtf8 text).length width) = some stop ∧
      min (encodeUtf8 text).length width ≤ stop + 3 ∧
      encodeUtf8 cut = (encodeUtf8 text).take stop ∧
      CutsTo width text cut ∧
      (ofPrefix width text).toList =
        (encodeUtf8 text).take stop ++ List.replicate (width - stop) 0 ∧
      (ofPrefix width text).text = String.ofList (cut.toList.takeWhile (· != Char.ofNat 0)) ∧
      (∀ field, ofText? width text = .ok field ↔
        (encodeUtf8 text).length ≤ width ∧ field = ofPrefix width text) ∧
      (∀ refusal, ofText? width text = .error refusal ↔
        width < (encodeUtf8 text).length ∧ refusal = ⟨(encodeUtf8 text).length, width⟩) ∧
      (Char.ofNat 0 ∉ text.toList -> (encodeUtf8 text).length ≤ width ->
        (ofPrefix width text).text = text ∧
          ((encodeUtf8 text).length = width -> (0 : UInt8) ∉ (ofPrefix width text).toList)) := by
  have cuts := cutsTo_prefixWithin width text
  refine ⟨_, _, cuts.boundaryFrom?_eq, ?near, cuts.encodeUtf8_eq, cuts, ?filled,
    cuts.text_ofPrefix, fun _ => ofText?_eq_ok_iff, fun _ => ofText?_eq_error_iff,
    fun unbroken fits => ?back⟩
  case near =>
    have near := room_lt width text.toList
    unfold encodeUtf8
    rw [String.toList_ofList]
    exact Nat.le_of_lt_succ near
  case filled =>
    rw [← cuts.encodeUtf8_eq, cuts.ofPrefix_eq, toList_ofBytes cuts.fits]
  case back =>
    have holds : Holds width text := ⟨fits, unbroken⟩
    rw [ofPrefix_of_fits fits]
    refine ⟨holds.text_ofBytes, fun full => ?_⟩
    rw [toList_ofBytes fits, full, Nat.sub_self, List.replicate_zero, List.append_nil]
    exact holds.zero_not_mem

/-- A text of three characters that leaves no room for a terminator. -/
theorem written_and_read_of_full :
    let text := "abé"
    Char.ofNat 0 ∉ text.toList ∧ (encodeUtf8 text).length = 4 ∧
      (∀ field, ofText? 4 text = .ok field ↔ field = ofPrefix 4 text) ∧
      (ofPrefix 4 text).text = text ∧ (0 : UInt8) ∉ (ofPrefix 4 text).toList := by
  intro text
  have unbroken : Char.ofNat 0 ∉ text.toList := by decide
  have full : (encodeUtf8 text).length = 4 := by decide +kernel
  rcases written_and_read 4 text with ⟨_, _, _, _, _, _, _, _, accepted, _, back⟩
  rcases back unbroken (Nat.le_of_eq full) with ⟨same, unterminated⟩
  exact ⟨unbroken, full, fun field => (accepted field).trans (and_iff_right (Nat.le_of_eq full)),
    same, unterminated full⟩

example : (ofPrefix 4 "abcé").text = "abc" ∧ (ofPrefix 5 "abcé").text = "abcé" := by
  decide +kernel

end Field

end Text
end MessageBus
