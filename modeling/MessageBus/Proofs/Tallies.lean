import Mathlib
import MessageBus.Broker.Diagnostics

namespace MessageBus

open Wire

/-!
# What a traffic report says about a tally

A tally names each type at most once, in ascending order, and counts nothing that it has not
seen and nothing negative.  These are the only tallies that counting can lead to
(`Tally.IsProper.add`), and only on them does one more of a type mean one more when it is
looked up.

A report cuts the tally into parts and writes each part into two tables of fixed size.  The
`rows` of a part are what somebody reads who has only the tables and the number of slots in
use.  Put together they are the tally again (`Traffic.rows_ofTally`), and all that holds of a
report, its order and its sums alike, is read off from there.
-/

namespace Tally

variable {tally : Tally} {messageType other : MessageType}

@[simp] theorem get_nil (messageType : MessageType) : get [] messageType = 0 := rfl

theorem get_cons (entry : MessageType × Nat) (rest : Tally) (messageType : MessageType) :
    get (entry :: rest) messageType =
      if messageType = entry.1 then entry.2 else get rest messageType := by
  unfold get
  rw [List.lookup_cons]
  by_cases same : messageType = entry.1
  · rw [if_pos same, beq_iff_eq.mpr same]
    rfl
  · rw [if_neg same, beq_eq_false_iff_ne.mpr same]

/-- A tally that counting can lead to. -/
structure IsProper (tally : Tally) : Prop where
  ascending : tally.Pairwise fun first second => first.1 < second.1
  counted : ∀ entry ∈ tally, 0 ≤ entry.1 ∧ 0 < entry.2

theorem IsProper.nil : IsProper [] :=
  ⟨.nil, fun _ here => absurd here List.not_mem_nil⟩

theorem isProper_cons {entry : MessageType × Nat} {rest : Tally} :
    IsProper (entry :: rest) ↔
      (∀ later ∈ rest, entry.1 < later.1) ∧ (0 ≤ entry.1 ∧ 0 < entry.2) ∧ IsProper rest := by
  constructor
  · rintro ⟨ascending, counted⟩
    rcases List.pairwise_cons.mp ascending with ⟨first, later⟩
    exact ⟨first, counted entry List.mem_cons_self,
      later, fun other here => counted other (List.mem_cons_of_mem _ here)⟩
  · rintro ⟨first, own, later⟩
    exact ⟨List.pairwise_cons.mpr ⟨first, later.ascending⟩, List.forall_mem_cons.mpr
      ⟨own, later.counted⟩⟩

/-- What comes before all types of a tally is not in it. -/
theorem get_eq_zero (before : ∀ entry ∈ tally, messageType < entry.1) :
    tally.get messageType = 0 := by
  induction tally with
  | nil => rfl
  | cons entry rest ih =>
      rcases List.forall_mem_cons.mp before with ⟨first, later⟩
      rw [get_cons, if_neg (Int32.ne_of_lt first)]
      exact ih later

theorem get_lt {bound : Nat} (below : ∀ entry ∈ tally, entry.2 < bound) (positive : 0 < bound) :
    tally.get messageType < bound := by
  induction tally with
  | nil => exact positive
  | cons entry rest ih =>
      rcases List.forall_mem_cons.mp below with ⟨first, later⟩
      rw [get_cons]
      split
      · exact first
      · exact ih later

theorem mem_add {entry : MessageType × Nat} (here : entry ∈ tally.add messageType) :
    entry.1 = messageType ∨ entry ∈ tally := by
  induction tally with
  | nil => exact Or.inl (congrArg Prod.fst (List.mem_singleton.mp here))
  | cons first rest ih =>
      unfold add at here
      split at here
      · next same =>
        rcases List.mem_cons.mp here with rfl | later
        · exact Or.inl same.symm
        · exact Or.inr (List.mem_cons_of_mem _ later)
      split at here
      · rcases List.mem_cons.mp here with rfl | later
        · exact Or.inl rfl
        · exact Or.inr later
      · rcases List.mem_cons.mp here with rfl | later
        · exact Or.inr List.mem_cons_self
        · exact (ih later).imp_right (List.mem_cons_of_mem _)

/-- One message more of a type is one more of this type, and of no other. -/
theorem get_add (proper : tally.IsProper) (messageType other : MessageType) :
    (tally.add messageType).get other =
      tally.get other + if other = messageType then 1 else 0 := by
  induction tally with
  | nil =>
      unfold add
      rw [get_cons, get_nil, Nat.zero_add]
  | cons entry rest ih =>
      rcases isProper_cons.mp proper with ⟨first, _, later⟩
      unfold add
      split
      · next same =>
        subst same
        rw [get_cons, get_cons]
        split <;> rfl
      split
      · next before =>
        have absent : get (entry :: rest) messageType = 0 := by
          refine get_eq_zero (List.forall_mem_cons.mpr ⟨before, fun other here => ?_⟩)
          exact Int32.lt_trans before (first other here)
        rw [get_cons]
        by_cases own : other = messageType
        · rw [if_pos own, if_pos own, own, absent]
        · rw [if_neg own, if_neg own]
          rfl
      · next different _ =>
        rw [get_cons, get_cons, ih later]
        split
        · next same => rw [if_neg fun own => different (own.symm.trans same)]; rfl
        · rfl

theorem IsProper.add (proper : tally.IsProper) (counts : 0 ≤ messageType) :
    (tally.add messageType).IsProper := by
  induction tally with
  | nil =>
      unfold Tally.add
      exact isProper_cons.mpr
        ⟨fun _ here => absurd here List.not_mem_nil, ⟨counts, Nat.one_pos⟩, .nil⟩
  | cons entry rest ih =>
      rcases isProper_cons.mp proper with ⟨first, ⟨nonneg, positive⟩, later⟩
      unfold Tally.add
      split
      · exact isProper_cons.mpr ⟨first, ⟨nonneg, Nat.succ_pos _⟩, later⟩
      split
      · next before =>
        refine isProper_cons.mpr ⟨?_, ⟨counts, Nat.one_pos⟩, proper⟩
        exact List.forall_mem_cons.mpr
          ⟨before, fun other here => Int32.lt_trans before (first other here)⟩
      · next different notBefore =>
        refine isProper_cons.mpr ⟨fun other here => ?_, ⟨nonneg, positive⟩, ih later⟩
        rcases mem_add here with same | old
        · rw [same]
          exact Int32.lt_of_le_of_ne (Int32.not_lt.mp notBefore) (Ne.symm different)
        · exact first other old

theorem get_of_mem (proper : tally.IsProper) {entry : MessageType × Nat} (here : entry ∈ tally) :
    tally.get entry.1 = entry.2 := by
  induction tally with
  | nil => exact absurd here List.not_mem_nil
  | cons head rest ih =>
      rcases isProper_cons.mp proper with ⟨first, _, later⟩
      rw [get_cons]
      rcases List.mem_cons.mp here with same | inRest
      · rw [same, if_pos rfl]
      · rw [if_neg (Ne.symm (Int32.ne_of_lt (first entry inRest)))]
        exact ih later inRest

/-- Several messages more.  Those of negative types do not count. -/
def addAll (tally : Tally) (messageTypes : List MessageType) : Tally :=
  messageTypes.foldl
    (fun tally messageType => if messageType < 0 then tally else tally.add messageType) tally

theorem addAll_cons (tally : Tally) (head : MessageType) (rest : List MessageType) :
    tally.addAll (head :: rest) =
      addAll (if head < 0 then tally else tally.add head) rest := rfl

theorem addAll_append (tally : Tally) (first second : List MessageType) :
    tally.addAll (first ++ second) = (tally.addAll first).addAll second :=
  List.foldl_append

theorem IsProper.addAll (proper : tally.IsProper) (messageTypes : List MessageType) :
    (tally.addAll messageTypes).IsProper := by
  induction messageTypes generalizing tally with
  | nil => exact proper
  | cons messageType rest ih =>
      rw [addAll_cons]
      split
      · exact ih proper
      · next counts => exact ih (proper.add (Int32.not_lt.mp counts))

theorem get_addAll (proper : tally.IsProper) (messageTypes : List MessageType)
    (counts : 0 ≤ messageType) :
    (tally.addAll messageTypes).get messageType =
      tally.get messageType + messageTypes.count messageType := by
  induction messageTypes generalizing tally with
  | nil => rfl
  | cons head rest ih =>
      rw [addAll_cons, List.count_cons]
      split
      · next negative =>
        have other : head ≠ messageType := fun same =>
          Int32.not_lt.mpr counts (same ▸ negative)
        rw [ih proper, beq_eq_false_iff_ne.mpr other]
        rfl
      · next nonnegative =>
        rw [ih (proper.add (Int32.not_lt.mp nonnegative)), get_add proper]
        by_cases same : messageType = head
        · rw [if_pos same, if_pos (beq_iff_eq.mpr same.symm)]
          omega
        · rw [if_neg same, beq_eq_false_iff_ne.mpr (Ne.symm same)]
          rfl

/-- A negative type is in no tally. -/
theorem get_of_negative (proper : tally.IsProper) (negative : messageType < 0) :
    tally.get messageType = 0 :=
  get_eq_zero fun entry here => Int32.lt_of_lt_of_le negative (proper.counted entry here).1

theorem IsProper.numbers_ascending (proper : tally.IsProper) :
    (tally.map fun entry => entry.1.toUInt32.toNat).Pairwise (· < ·) := by
  refine List.pairwise_map.mpr (proper.ascending.imp_of_mem fun {first second} here there lt => ?_)
  have firstCounts := (proper.counted first here).1
  have secondCounts := (proper.counted second there).1
  rw [Int32.toNat_toUInt32_of_le firstCounts, Int32.toNat_toUInt32_of_le secondCounts]
  have ascends := Int32.lt_iff_toInt_lt.mp lt
  have nonneg := Int32.le_iff_toInt_le.mp firstCounts
  rw [Int32.toInt_zero] at nonneg
  show first.1.toInt.toNat < second.1.toInt.toNat
  omega

/-- There are not more types than numbers for them. -/
theorem IsProper.length_le (proper : tally.IsProper) : tally.length ≤ UInt32.size := by
  have distinct := proper.numbers_ascending.imp fun lt => Nat.ne_of_lt lt
  have inside : (tally.map fun entry => entry.1.toUInt32.toNat) ⊆ List.range UInt32.size := by
    intro number here
    rcases List.mem_map.mp here with ⟨entry, _, rfl⟩
    exact List.mem_range.mpr entry.1.toUInt32.toNat_lt_size
  have bounded := (List.Nodup.subperm distinct inside).length_le
  rwa [List.length_map, List.length_range] at bounded

end Tally

/-! ## Filling slots one after the other -/

theorem getElem_fillSlots {size : Nat} (value : β -> α) (piece : List β) (table : Vector α size)
    (offset slot : Nat) (inside : slot < size) :
    (fillSlots table ((piece.zipIdx offset).map fun entry =>
      ((entry.2 : Int), value entry.1)))[slot] =
        if offset ≤ slot then (piece[slot - offset]?.map value).getD table[slot]
        else table[slot] := by
  induction piece generalizing table offset with
  | nil =>
      show table[slot] = _
      simp
  | cons head rest ih =>
      have filled : fillSlots table (((head :: rest).zipIdx offset).map fun entry =>
          ((entry.2 : Int), value entry.1)) =
          fillSlots (table.setIfInBounds offset (value head))
            ((rest.zipIdx (offset + 1)).map fun entry => ((entry.2 : Int), value entry.1)) := rfl
      rw [filled, ih, Vector.getElem_setIfInBounds inside]
      rcases Nat.lt_trichotomy slot offset with before | rfl | after
      · rw [if_neg (by omega), if_neg (by omega), if_neg (by omega)]
      · rw [if_neg (by omega), if_pos rfl, if_pos (Nat.le_refl _), Nat.sub_self]
        rfl
      · have shifted : slot - offset = slot - (offset + 1) + 1 := by omega
        rw [if_pos (by omega), if_neg (by omega), if_pos (by omega), shifted,
          List.getElem?_cons_succ]

/-- Everything that has room stands at the beginning, and the rest of the table is empty. -/
theorem toList_fillSlots {size : Nat} (value : β -> α) (empty : α) {piece : List β}
    (room : piece.length ≤ size) :
    (fillSlots (Vector.replicate size empty) (piece.zipIdx.map fun entry =>
      ((entry.2 : Int), value entry.1))).toList =
        piece.map value ++ List.replicate (size - piece.length) empty := by
  apply List.ext_getElem
  · rw [Vector.length_toList, List.length_append, List.length_map, List.length_replicate]
    omega
  · intro slot inside _
    rw [Vector.length_toList] at inside
    rw [Vector.getElem_toList, getElem_fillSlots, if_pos (Nat.zero_le _), Nat.sub_zero,
      Vector.getElem_replicate]
    by_cases used : slot < piece.length
    · rw [List.getElem_append_left (by rwa [List.length_map]), List.getElem_map,
        List.getElem?_eq_getElem used]
      rfl
    · rw [List.getElem_append_right (by rw [List.length_map]; omega), List.getElem_replicate,
        List.getElem?_eq_none (by omega)]
      rfl

namespace Traffic

/-! ## Pieces -/

variable {size : Nat} {values : List α}

theorem pieces_cons (size : Nat) (head : α) (tail : List α) :
    pieces size (head :: tail) = (head :: tail.take size) :: pieces size (tail.drop size) := by
  rw [pieces]

@[simp] theorem pieces_nil (size : Nat) : pieces size ([] : List α) = [] := by
  rw [pieces]

theorem flatten_pieces (size : Nat) (values : List α) : (pieces size values).flatten = values := by
  fun_induction pieces size values with
  | case1 => rfl
  | case2 head tail ih =>
      rw [List.flatten_cons, ih, List.cons_append, List.take_append_drop]

theorem length_pieces_le (size : Nat) (values : List α) :
    (pieces size values).length ≤ values.length := by
  fun_induction pieces size values with
  | case1 => exact Nat.le_refl _
  | case2 head tail ih =>
      rw [List.length_drop] at ih
      simp only [List.length_cons]
      omega

/-- No piece is empty or longer than it may be. -/
theorem length_of_mem_pieces {piece : List α} (here : piece ∈ pieces size values) :
    1 ≤ piece.length ∧ piece.length ≤ size + 1 := by
  fun_induction pieces size values with
  | case1 => exact absurd here List.not_mem_nil
  | case2 head tail ih =>
      rcases List.mem_cons.mp here with rfl | later
      · rw [List.length_cons, List.length_take]
        omega
      · exact ih later

/-- Only the last piece may be shorter. -/
theorem length_of_mem_dropLast_pieces {piece : List α}
    (here : piece ∈ (pieces size values).dropLast) : piece.length = size + 1 := by
  fun_induction pieces size values with
  | case1 => exact absurd here List.not_mem_nil
  | case2 head tail ih =>
      cases rest : tail.drop size with
      | nil =>
          rw [rest, pieces_nil] at here
          exact absurd here List.not_mem_nil
      | cons next later =>
          have long : size < tail.length := by
            by_contra short
            rw [List.drop_eq_nil_of_le (Nat.le_of_not_lt short)] at rest
            cases rest
          have more : pieces size (tail.drop size) ≠ [] := by
            rw [rest, pieces_cons]
            exact List.cons_ne_nil _ _
          rw [List.dropLast_cons_of_ne_nil more] at here
          rcases List.mem_cons.mp here with rfl | inRest
          · rw [List.length_cons, List.length_take]
            omega
          · exact ih inRest

/-! ## Parts -/

/-- The types that a part lists, with their counts. -/
def rows (traffic : Traffic) : List (UInt32 × UInt32) :=
  (traffic.types.toList.zip traffic.counts.toList).take traffic.listed.toNat

/-- What a part says that there was of a type. -/
def countOf (messageType : MessageType) (traffic : Traffic) : Nat :=
  ((traffic.rows.filter (·.1 = messageType.toUInt32)).map (·.2.toNat)).sum

/-- A report as it should be: what its parts have in common and what tells them apart, what
stands in their slots, and what does not. -/
structure IsReport (sequence : UInt32) (parts : List Traffic) : Prop where
  sequence : ∀ traffic ∈ parts, traffic.sequence = sequence
  numbered : ∀ (index : Nat) (traffic : Traffic),
    parts[index]? = some traffic -> traffic.part.toNat = index
  full : ∀ traffic ∈ parts.dropLast, traffic.listed.toNat = 128
  last : ∀ traffic ∈ parts.getLast?, 1 ≤ traffic.listed.toNat ∧ traffic.listed.toNat ≤ 128
  ascending : (parts.flatMap rows).Pairwise fun first second => first.1 < second.1
  counted : ∀ row ∈ parts.flatMap rows, 0 < row.2.toNat
  nonnegative : ∀ row ∈ parts.flatMap rows, row.1.toNat < 2 ^ 31
  unused : ∀ traffic ∈ parts, ∀ slot (inside : slot < Limit.trafficEntries),
    traffic.listed.toNat ≤ slot -> traffic.types[slot] = 0 ∧ traffic.counts[slot] = 0

variable {sequence : UInt32} {timestamp duration : UInt64} {part : Nat} {piece tally : Tally}

/-- How a part writes down an entry of a tally. -/
def row (entry : MessageType × Nat) : UInt32 × UInt32 :=
  (entry.1.toUInt32, UInt32.ofNat entry.2)

theorem listed_ofPiece (short : piece.length ≤ Limit.trafficEntries) :
    (ofPiece sequence timestamp duration part piece).listed.toNat = piece.length :=
  UInt32.toNat_ofNat_of_lt' (Nat.lt_of_le_of_lt short (by decide))

theorem types_ofPiece (short : piece.length ≤ Limit.trafficEntries) :
    (ofPiece sequence timestamp duration part piece).types.toList =
      piece.map (·.1.toUInt32) ++ List.replicate (Limit.trafficEntries - piece.length) 0 :=
  toList_fillSlots (fun entry : MessageType × Nat => entry.1.toUInt32) 0 short

theorem counts_ofPiece (short : piece.length ≤ Limit.trafficEntries) :
    (ofPiece sequence timestamp duration part piece).counts.toList =
      piece.map (UInt32.ofNat ·.2) ++ List.replicate (Limit.trafficEntries - piece.length) 0 :=
  toList_fillSlots (fun entry : MessageType × Nat => UInt32.ofNat entry.2) 0 short

theorem rows_ofPiece (short : piece.length ≤ Limit.trafficEntries) :
    (ofPiece sequence timestamp duration part piece).rows = piece.map row := by
  unfold rows
  rw [listed_ofPiece short, types_ofPiece short, counts_ofPiece short,
    List.zip_append (by rw [List.length_map, List.length_map]), List.zip_map']
  exact List.take_left' (List.length_map ..)

theorem unused_ofPiece (short : piece.length ≤ Limit.trafficEntries) {slot : Nat}
    (inside : slot < Limit.trafficEntries) (unused : piece.length ≤ slot) :
    let traffic := ofPiece sequence timestamp duration part piece
    traffic.types[slot] = 0 ∧ traffic.counts[slot] = 0 := by
  intro traffic
  have empty : ∀ {table : Vector UInt32 Limit.trafficEntries} {used : List UInt32},
      used.length = piece.length ->
      table.toList = used ++ List.replicate (Limit.trafficEntries - piece.length) 0 ->
        table[slot] = 0 := by
    intro table used length filled
    rw [← Vector.getElem_toList (by rwa [Vector.length_toList])]
    simp only [filled]
    rw [List.getElem_append_right (by omega), List.getElem_replicate]
  exact ⟨empty (List.length_map ..) (types_ofPiece short),
    empty (List.length_map ..) (counts_ofPiece short)⟩

/-! ## Whole reports -/

theorem ofTally_nil (sequence : UInt32) (timestamp duration : UInt64) :
    ofTally sequence timestamp duration [] = [] := by
  unfold ofTally
  rw [pieces_nil]
  rfl

theorem getElem?_ofTally (sequence : UInt32) (timestamp duration : UInt64) (tally : Tally)
    (index : Nat) :
    (ofTally sequence timestamp duration tally)[index]? =
      (pieces (Limit.trafficEntries - 1) tally)[index]?.map
        (ofPiece sequence timestamp duration index) := by
  unfold ofTally
  rw [List.getElem?_map, List.getElem?_zipIdx, Option.map_map, Nat.zero_add]
  rfl

theorem exists_of_mem_ofTally {traffic : Traffic}
    (here : traffic ∈ ofTally sequence timestamp duration tally) :
    ∃ part piece, 1 ≤ piece.length ∧ piece.length ≤ Limit.trafficEntries ∧
      traffic = ofPiece sequence timestamp duration part piece := by
  rcases List.mem_iff_getElem?.mp here with ⟨part, found⟩
  rw [getElem?_ofTally] at found
  rcases Option.map_eq_some_iff.mp found with ⟨piece, cut, same⟩
  rcases length_of_mem_pieces (List.mem_of_getElem? cut) with ⟨some, short⟩
  exact ⟨part, piece, some, short, same.symm⟩

/-- What can be told of a part by its piece alone can be told of the report by the pieces. -/
theorem map_ofTally {read : Traffic -> α} {ofEntries : Tally -> α}
    (agree : ∀ part piece, piece.length ≤ Limit.trafficEntries ->
      read (ofPiece sequence timestamp duration part piece) = ofEntries piece) :
    (ofTally sequence timestamp duration tally).map read =
      (pieces (Limit.trafficEntries - 1) tally).map ofEntries := by
  apply List.ext_getElem?
  intro index
  rw [List.getElem?_map, List.getElem?_map, getElem?_ofTally, Option.map_map]
  cases cut : (pieces (Limit.trafficEntries - 1) tally)[index]? with
  | none => rfl
  | some piece =>
      exact congrArg some (agree index piece (length_of_mem_pieces (List.mem_of_getElem? cut)).2)

theorem rows_ofTally (sequence : UInt32) (timestamp duration : UInt64) (tally : Tally) :
    (ofTally sequence timestamp duration tally).flatMap rows = tally.map row := by
  rw [List.flatMap_def, map_ofTally fun _ _ => rows_ofPiece, ← List.map_flatten,
    flatten_pieces]

theorem ofTally_ne_nil (sequence : UInt32) (timestamp duration : UInt64)
    (some : tally ≠ []) : ofTally sequence timestamp duration tally ≠ [] := by
  intro empty
  have nothing := rows_ofTally sequence timestamp duration tally
  rw [empty] at nothing
  exact some (List.map_eq_nil_iff.mp nothing.symm)

/-- The report on a tally is as it should be. -/
theorem isReport_ofTally (sequence : UInt32) (timestamp duration : UInt64)
    (proper : tally.IsProper) (bounded : ∀ messageType, tally.get messageType < 2 ^ 32) :
    IsReport sequence (ofTally sequence timestamp duration tally) where
  sequence := by
    intro traffic here
    rcases exists_of_mem_ofTally here with ⟨part, piece, _, _, rfl⟩
    rfl
  numbered := by
    intro index traffic found
    rw [getElem?_ofTally] at found
    rcases Option.map_eq_some_iff.mp found with ⟨piece, cut, rfl⟩
    have early : index < tally.length :=
      Nat.lt_of_lt_of_le (List.getElem?_eq_some_iff.mp cut).1 (length_pieces_le _ _)
    exact UInt32.toNat_ofNat_of_lt' (Nat.lt_of_lt_of_le early proper.length_le)
  full := by
    intro traffic here
    have listed : traffic.listed.toNat ∈ (ofTally sequence timestamp duration tally).dropLast.map
        fun traffic => traffic.listed.toNat :=
      List.mem_map_of_mem here
    rw [List.map_dropLast, map_ofTally fun _ _ => listed_ofPiece, ← List.map_dropLast] at listed
    rcases List.mem_map.mp listed with ⟨piece, cut, same⟩
    exact same.symm.trans (length_of_mem_dropLast_pieces cut)
  last := by
    intro traffic here
    rcases exists_of_mem_ofTally (List.mem_of_getLast? here) with ⟨part, piece, some, short, rfl⟩
    rw [listed_ofPiece short]
    exact ⟨some, short⟩
  ascending := by
    rw [rows_ofTally]
    refine List.pairwise_map.mpr ((List.pairwise_map.mp proper.numbers_ascending).imp ?_)
    exact fun lt => UInt32.lt_iff_toNat_lt.mpr lt
  counted := by
    rw [rows_ofTally]
    intro row here
    rcases List.mem_map.mp here with ⟨entry, counted, rfl⟩
    show 0 < (UInt32.ofNat entry.2).toNat
    rw [UInt32.toNat_ofNat_of_lt' (Tally.get_of_mem proper counted ▸ bounded entry.1)]
    exact (proper.counted entry counted).2
  nonnegative := by
    rw [rows_ofTally]
    intro row here
    rcases List.mem_map.mp here with ⟨entry, counted, rfl⟩
    show entry.1.toUInt32.toNat < 2 ^ 31
    rw [Int32.toNat_toUInt32_of_le (proper.counted entry counted).1]
    have below := entry.1.toInt_lt
    show entry.1.toInt.toNat < 2 ^ 31
    omega
  unused := by
    intro traffic here slot inside unused
    rcases exists_of_mem_ofTally here with ⟨part, piece, _, short, rfl⟩
    rw [listed_ofPiece short] at unused
    exact unused_ofPiece short inside unused

example :
    let tally : Tally := (List.range 257).map fun number => (Int32.ofNat number, 1)
    (ofTally 7 0 0 tally).map (fun traffic => (traffic.part, traffic.listed)) =
      [(0, 128), (1, 128), (2, 1)] := by
  decide +kernel

/-- The counts of a type in a row of parts are those of all their rows together. -/
theorem sum_countOf (messageType : MessageType) (parts : List Traffic) :
    (parts.map (countOf messageType)).sum =
      (((parts.flatMap rows).filter (·.1 = messageType.toUInt32)).map (·.2.toNat)).sum := by
  induction parts with
  | nil => rfl
  | cons traffic rest ih =>
      rw [List.map_cons, List.sum_cons, ih, List.flatMap_cons, List.filter_append, List.map_append,
        List.sum_append]
      rfl

theorem sum_rows (proper : tally.IsProper) (bounded : ∀ entry ∈ tally, entry.2 < 2 ^ 32)
    (messageType : MessageType) :
    (((tally.map row).filter (·.1 = messageType.toUInt32)).map (·.2.toNat)).sum =
      tally.get messageType := by
  induction tally with
  | nil => rfl
  | cons entry rest ih =>
      rcases Tally.isProper_cons.mp proper with ⟨first, _, later⟩
      rcases List.forall_mem_cons.mp bounded with ⟨own, boundedRest⟩
      have inRest := ih later boundedRest
      rw [List.map_cons, Tally.get_cons, List.filter_cons]
      by_cases same : messageType = entry.1
      · subst same
        have own' : decide ((row entry).1 = entry.1.toUInt32) = true := decide_eq_true rfl
        rw [if_pos own', if_pos rfl, List.map_cons, List.sum_cons, inRest,
          Tally.get_eq_zero first, Nat.add_zero]
        exact UInt32.toNat_ofNat_of_lt' own
      · have different : (row entry).1 ≠ messageType.toUInt32 := by
          intro equal
          exact same (congrArg UInt32.toInt32 equal).symm
        rw [if_neg (by rwa [decide_eq_true_eq]), if_neg same, inRest]

/-- A report says of each type what the tally says. -/
theorem sum_countOf_ofTally (sequence : UInt32) (timestamp duration : UInt64)
    (proper : tally.IsProper) (bounded : ∀ messageType, tally.get messageType < 2 ^ 32)
    (messageType : MessageType) :
    ((ofTally sequence timestamp duration tally).map (countOf messageType)).sum =
      tally.get messageType := by
  rw [sum_countOf, rows_ofTally]
  exact sum_rows proper (fun entry here => Tally.get_of_mem proper here ▸ bounded entry.1)
    messageType

/-! ## One report after the other -/

/-- The reports on the tallies of successive periods, up to the one with a number.  A period
without traffic has no part and takes no number. -/
inductive Series : List Tally -> List (List Traffic) -> UInt32 -> Prop where
  | start : Series [] [] 0
  | silent {tallies : List Tally} {reports : List (List Traffic)} {last : UInt32}
      (earlier : Series tallies reports last) : Series (tallies ++ [[]]) (reports ++ [[]]) last
  | reported {tallies : List Tally} {reports : List (List Traffic)} {last : UInt32}
      {tally : Tally} {parts : List Traffic} (earlier : Series tallies reports last)
      (some : tally ≠ []) (written : parts ≠ []) (isReport : IsReport (last + 1) parts)
      (counts : ∀ messageType, (parts.map (countOf messageType)).sum = tally.get messageType) :
      Series (tallies ++ [tally]) (reports ++ [parts]) (last + 1)

namespace Series

variable {tallies : List Tally} {reports : List (List Traffic)} {last : UInt32}

theorem ofTally (earlier : Series tallies reports last) (timestamp duration : UInt64)
    (proper : tally.IsProper) (bounded : ∀ messageType, tally.get messageType < 2 ^ 32) :
    Series (tallies ++ [tally]) (reports ++ [Traffic.ofTally (last + 1) timestamp duration tally])
      (if tally = [] then last else last + 1) := by
  split
  · next empty =>
    subst empty
    rw [ofTally_nil]
    exact .silent earlier
  · next some =>
    exact .reported earlier some (ofTally_ne_nil _ _ _ some)
      (isReport_ofTally _ _ _ proper bounded) (sum_countOf_ofTally _ _ _ proper bounded)

/-- All reports together say what all tallies say. -/
theorem sum_eq (series : Series tallies reports last) (messageType : MessageType) :
    (reports.flatten.map (countOf messageType)).sum = (tallies.map (·.get messageType)).sum := by
  induction series with
  | start => rfl
  | silent earlier ih =>
      rw [List.flatten_append, List.map_append, List.sum_append, ih, List.map_append,
        List.sum_append]
      rfl
  | reported earlier some written isReport counts ih =>
      rw [List.flatten_append, List.map_append, List.sum_append, ih, List.map_append,
        List.sum_append, List.flatten_singleton, counts]
      rfl

end Series

end Traffic

end MessageBus
