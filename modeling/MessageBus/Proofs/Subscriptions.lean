import Mathlib
import MessageBus.Subscriptions

namespace MessageBus

open Wire

/-!
# The two directions of a subscription

Who wants a type and what a module wants are kept in two indices.  Each request
changes both, by different routes: a single type is entered on both sides, but
the types of a module that turns to everything are found on one side and struck
off on the other.  `Subscriptions.Consistent` says that the sides nevertheless
always tell the same.

An index finds its values through its keys, so every statement about it needs
the keys to ascend.  `Index.Sorted` is that fact, and each operation keeps it.
-/

section Insertion

variable [LT α] [DecidableLT α] [DecidableEq α]
  [Trans (· < · : α -> α -> Prop) (· < · : α -> α -> Prop) (· < · : α -> α -> Prop)]
  [Std.Trichotomous (· < · : α -> α -> Prop)]

theorem Ascending.pairwise_insert {values : List α} (ascending : values.Pairwise (· < ·))
    (value : α) : (Ascending.insert value values).Pairwise (· < ·) := by
  induction values with
  | nil => exact List.pairwise_singleton _ _
  | cons head tail ih =>
      rcases List.pairwise_cons.mp ascending with ⟨least, later⟩
      unfold Ascending.insert
      split
      · exact ascending
      · next different =>
        split
        · next smaller =>
          refine List.Pairwise.cons ?_ ascending
          intro other among
          rcases List.mem_cons.mp among with same | among
          · exact same ▸ smaller
          · exact Std.lt_trans smaller (least other among)
        · next notSmaller =>
          have greater : head < value := by
            by_contra notGreater
            exact different (Std.Trichotomous.trichotomous value head notSmaller notGreater)
          refine List.Pairwise.cons ?_ (ih later)
          intro other among
          rcases Ascending.mem_insert.mp among with same | among
          · exact same ▸ greater
          · exact least other among

theorem Ascending.pairwise_union (first : List α) {second : List α}
    (ascending : second.Pairwise (· < ·)) : (Ascending.union first second).Pairwise (· < ·) := by
  induction first generalizing second with
  | nil => exact ascending
  | cons head tail ih => exact ih (Ascending.pairwise_insert ascending head)

end Insertion

namespace Index

/-- The keys ascend. -/
def Sorted [LT κ] (index : Index κ ν) : Prop :=
  (index.entries.map Prod.fst).Pairwise (· < ·)

theorem Sorted.empty [LT κ] : Sorted ({} : Index κ ν) :=
  List.Pairwise.nil

/-! ## What an operation does to the keys -/

/-- Entries that are changed or dropped under their keys stay in order. -/
theorem map_fst_filterMap_sublist {change : κ × List ν -> Option (κ × List ν)}
    (keeps : ∀ entry left, change entry = some left -> left.1 = entry.1)
    (entries : List (κ × List ν)) :
    ((entries.filterMap change).map Prod.fst).Sublist (entries.map Prod.fst) := by
  induction entries with
  | nil => exact List.Sublist.slnil
  | cons entry rest ih =>
      rw [List.filterMap_cons]
      split
      · exact ih.cons _
      · next left kept =>
        rw [List.map_cons, List.map_cons, keeps entry left kept]
        exact ih.cons_cons _

theorem keys_erase_sublist [DecidableEq κ] [DecidableEq ν] (index : Index κ ν) (key : κ) (value : ν) :
    ((index.erase key value).entries.map Prod.fst).Sublist (index.entries.map Prod.fst) := by
  refine map_fst_filterMap_sublist ?_ index.entries
  intro entry left kept
  dsimp only at kept
  split at kept
  · split at kept
    · cases kept
    · exact (congrArg Prod.fst (Option.some.inj kept)).symm
  · exact (congrArg Prod.fst (Option.some.inj kept)).symm

section Keys

variable [LT κ] [DecidableEq κ] {index : Index κ ν}

theorem Sorted.eraseKey (sorted : index.Sorted) (key : κ) : (index.eraseKey key).Sorted :=
  List.Pairwise.sublist (List.filter_sublist.map _) sorted

theorem Sorted.erase [DecidableEq ν] (sorted : index.Sorted) (key : κ) (value : ν) :
    (index.erase key value).Sorted :=
  List.Pairwise.sublist (keys_erase_sublist index key value) sorted

variable [DecidableLT κ] [LT ν] [DecidableLT ν] [DecidableEq ν] {key other : κ} {value : ν}

/-- The keys are an ordered list of their own. -/
theorem keys_insertEntry (entries : List (κ × List ν)) :
    (insertEntry key value entries).map Prod.fst =
      Ascending.insert key (entries.map Prod.fst) := by
  induction entries with
  | nil => rfl
  | cons entry rest ih =>
      rcases entry with ⟨first, values⟩
      rw [List.map_cons, insertEntry, Ascending.insert]
      by_cases same : key = first
      · rw [if_pos same, if_pos same]
        rfl
      · rw [if_neg same, if_neg same]
        by_cases smaller : key < first
        · rw [if_pos smaller, if_pos smaller]
          rfl
        · rw [if_neg smaller, if_neg smaller]
          exact congrArg (first :: ·) ih

theorem Sorted.insert
    [Trans (· < · : κ -> κ -> Prop) (· < · : κ -> κ -> Prop) (· < · : κ -> κ -> Prop)]
    [Std.Trichotomous (· < · : κ -> κ -> Prop)] (sorted : index.Sorted) (key : κ) (value : ν) :
    (index.insert key value).Sorted := by
  show ((insertEntry key value index.entries).map Prod.fst).Pairwise (· < ·)
  rw [keys_insertEntry]
  exact Ascending.pairwise_insert sorted key

end Keys

/-! ## What an operation does to the values -/

section Values

variable [LT κ] [DecidableEq κ] [Std.Irrefl (· < · : κ -> κ -> Prop)]
  {index : Index κ ν} {key other : κ} {value wanted : ν}

theorem mem_get_iff (sorted : index.Sorted) :
    value ∈ index.get key ↔ ∃ values, (key, values) ∈ index.entries ∧ value ∈ values := by
  unfold get
  constructor
  · intro here
    cases found : index.entries.find? (·.1 = key) with
    | none => simp [found] at here
    | some entry =>
        have same : entry.1 = key := by simpa using List.find?_some found
        rw [found] at here
        exact ⟨entry.2, same ▸ List.mem_of_find?_eq_some found, here⟩
  · rintro ⟨values, listed, here⟩
    cases found : index.entries.find? (·.1 = key) with
    | none =>
        have absent := List.find?_eq_none.mp found _ listed
        simp at absent
    | some entry =>
        have same : entry.1 = key := by simpa using List.find?_some found
        have equal := List.inj_on_of_nodup_map sorted.nodup
          (List.mem_of_find?_eq_some found) listed same
        simpa [equal] using here

theorem mem_values_iff (sorted : index.Sorted) :
    (∃ entry ∈ index.entries, value ∈ entry.2) ↔ ∃ key, value ∈ index.get key := by
  constructor
  · rintro ⟨⟨key, values⟩, listed, here⟩
    exact ⟨key, (mem_get_iff sorted).mpr ⟨values, listed, here⟩⟩
  · rintro ⟨key, here⟩
    rcases (mem_get_iff sorted).mp here with ⟨values, listed, among⟩
    exact ⟨(key, values), listed, among⟩

theorem mem_get_eraseKey (sorted : index.Sorted) :
    value ∈ (index.eraseKey key).get other ↔ other ≠ key ∧ value ∈ index.get other := by
  rw [mem_get_iff (sorted.eraseKey key), mem_get_iff sorted]
  unfold eraseKey
  constructor
  · rintro ⟨values, kept, here⟩
    rcases List.mem_filter.mp kept with ⟨listed, different⟩
    exact ⟨by simpa using different, values, listed, here⟩
  · rintro ⟨different, values, listed, here⟩
    exact ⟨values, List.mem_filter.mpr ⟨listed, by simpa using different⟩, here⟩

variable [DecidableEq ν]

theorem mem_get_erase (sorted : index.Sorted) :
    wanted ∈ (index.erase key value).get other ↔
      wanted ∈ index.get other ∧ ¬ (other = key ∧ wanted = value) := by
  rw [mem_get_iff (sorted.erase key value), mem_get_iff sorted]
  unfold erase
  constructor
  · rintro ⟨left, kept, here⟩
    rcases List.mem_filterMap.mp kept with ⟨⟨found, values⟩, listed, result⟩
    by_cases same : key = found
    · subst same
      simp only [if_true] at result
      split at result
      · cases result
      · cases result
        rcases List.mem_filter.mp here with ⟨among, different⟩
        exact ⟨⟨values, listed, among⟩, fun both => by simp [both.2] at different⟩
    · simp only [if_neg same] at result
      cases result
      exact ⟨⟨left, listed, here⟩, fun both => same both.1.symm⟩
  · rintro ⟨⟨values, listed, here⟩, apart⟩
    by_cases same : key = other
    · subst same
      have kept : wanted ∈ values.filter (· ≠ value) :=
        List.mem_filter.mpr ⟨here, by simpa using apart⟩
      refine ⟨values.filter (· ≠ value), List.mem_filterMap.mpr ⟨(key, values), listed, ?_⟩, kept⟩
      have filled : (values.filter (· ≠ value)).isEmpty = false :=
        List.isEmpty_eq_false_iff.mpr (List.ne_nil_of_mem kept)
      simp only [if_true, filled, Bool.false_eq_true, if_false]
    · exact ⟨values, List.mem_filterMap.mpr ⟨(other, values), listed, if_neg same⟩, here⟩

variable [DecidableLT κ] [LT ν] [DecidableLT ν]
  [Trans (· < · : κ -> κ -> Prop) (· < · : κ -> κ -> Prop) (· < · : κ -> κ -> Prop)]
  [Std.Trichotomous (· < · : κ -> κ -> Prop)]

theorem mem_get_insert (sorted : index.Sorted) :
    wanted ∈ (index.insert key value).get other ↔
      (other = key ∧ wanted = value) ∨ wanted ∈ index.get other := by
  have first : ∀ (head : κ) (values : List ν) (rest : List (κ × List ν)),
      (∃ found, (other, found) ∈ (head, values) :: rest ∧ wanted ∈ found) ↔
        (other = head ∧ wanted ∈ values) ∨ ∃ found, (other, found) ∈ rest ∧ wanted ∈ found := by
    intro head values rest
    simp only [List.mem_cons, Prod.mk.injEq, or_and_right, exists_or, and_assoc,
      exists_and_left, exists_eq_left]
  rw [mem_get_iff (sorted.insert key value), mem_get_iff sorted]
  rcases index with ⟨entries⟩
  show (∃ found, (other, found) ∈ insertEntry key value entries ∧ wanted ∈ found) ↔ _
  clear sorted
  induction entries with
  | nil => simp [insertEntry]
  | cons entry rest ih =>
      rcases entry with ⟨head, values⟩
      unfold insertEntry
      split
      · next same =>
        subst same
        rw [first, first, Ascending.mem_insert]
        tauto
      · split
        · rw [first, List.mem_singleton]
        · rw [first, first, ih]
          tauto

end Values

end Index

namespace Subscriptions

variable {subscriptions : Subscriptions} {handle other : Handle} {messageType wanted : MessageType}

/-- Both directions tell the same, and whoever wants everything wants nothing
besides. -/
structure Consistent (subscriptions : Subscriptions) : Prop where
  typesSorted : subscriptions.byType.Sorted
  modulesSorted : subscriptions.byModule.Sorted
  agree : ∀ handle messageType,
    handle ∈ subscriptions.byType.get messageType ↔ messageType ∈ subscriptions.typesOf handle
  exclusive : ∀ handle ∈ subscriptions.everything, subscriptions.typesOf handle = []
  individual : ∀ handle, MessageType.everything ∉ subscriptions.typesOf handle

theorem wantsEverything_iff :
    subscriptions.wantsEverything handle = true ↔ handle ∈ subscriptions.everything :=
  List.contains_iff_mem

theorem mem_subscribers :
    handle ∈ subscriptions.subscribers messageType ↔
      subscriptions.wants handle messageType = true := by
  unfold subscribers wants Index.has
  rw [List.mem_append, Bool.or_eq_true, wantsEverything_iff, List.contains_iff_mem]
  exact Or.comm

theorem mem_typesOf_dropTypes (sorted : subscriptions.byModule.Sorted) :
    wanted ∈ (subscriptions.dropTypes handle).typesOf other ↔
      other ≠ handle ∧ wanted ∈ subscriptions.typesOf other :=
  Index.mem_get_eraseKey sorted

theorem sorted_foldl_erase {index : Index MessageType Handle} (sorted : index.Sorted)
    (types : List MessageType) :
    (types.foldl (fun index messageType => index.erase messageType handle) index).Sorted := by
  induction types generalizing index with
  | nil => exact sorted
  | cons first rest ih => exact ih (sorted.erase first handle)

theorem mem_foldl_erase {index : Index MessageType Handle} (sorted : index.Sorted)
    (types : List MessageType) :
    other ∈ (types.foldl (fun index messageType => index.erase messageType handle) index).get
        wanted ↔
      other ∈ index.get wanted ∧ ¬ (other = handle ∧ wanted ∈ types) := by
  induction types generalizing index with
  | nil => simp
  | cons first rest ih =>
      rw [List.foldl_cons, ih (sorted.erase first handle), Index.mem_get_erase sorted,
        List.mem_cons]
      tauto

namespace Consistent

theorem empty : Consistent {} where
  typesSorted := Index.Sorted.empty
  modulesSorted := Index.Sorted.empty
  agree := by simp [typesOf, Index.get]
  exclusive := by simp
  individual := by simp [typesOf, Index.get]

theorem wants_iff (consistent : subscriptions.Consistent) :
    subscriptions.wants handle messageType = true ↔
      messageType ∈ subscriptions.typesOf handle ∨
        subscriptions.wantsEverything handle = true := by
  unfold wants Index.has
  rw [Bool.or_eq_true, List.contains_iff_mem, consistent.agree]
  exact Or.comm

theorem dropTypes (consistent : subscriptions.Consistent) (handle : Handle) :
    (subscriptions.dropTypes handle).Consistent where
  typesSorted := sorted_foldl_erase consistent.typesSorted _
  modulesSorted := consistent.modulesSorted.eraseKey handle
  agree other messageType := by
    rw [mem_typesOf_dropTypes consistent.modulesSorted, ← consistent.agree]
    refine (mem_foldl_erase consistent.typesSorted _).trans ?_
    rw [← consistent.agree]
    constructor
    · rintro ⟨here, apart⟩
      exact ⟨fun same => apart ⟨same, same ▸ here⟩, here⟩
    · rintro ⟨different, here⟩
      exact ⟨here, fun both => different both.1⟩
  exclusive other masked := by
    apply List.eq_nil_iff_forall_not_mem.mpr
    intro messageType here
    have before := (mem_typesOf_dropTypes consistent.modulesSorted).mp here
    rw [consistent.exclusive other masked] at before
    exact List.not_mem_nil before.2
  individual other here :=
    consistent.individual other ((mem_typesOf_dropTypes consistent.modulesSorted).mp here).2

theorem subscribe (consistent : subscriptions.Consistent) (handle : Handle)
    (messageType : MessageType) :
    (subscriptions.subscribe handle messageType).2.Consistent := by
  unfold Subscriptions.subscribe
  split
  · have dropped := consistent.dropTypes handle
    refine ⟨dropped.typesSorted, dropped.modulesSorted, dropped.agree, ?_, dropped.individual⟩
    intro other masked
    rcases Ascending.mem_insert.mp masked with same | before
    · apply List.eq_nil_iff_forall_not_mem.mpr
      intro wanted here
      exact ((mem_typesOf_dropTypes consistent.modulesSorted).mp here).1 same
    · exact dropped.exclusive other before
  · next single =>
    split
    · exact consistent
    · next unmasked =>
      have entered : ∀ other wanted,
          wanted ∈ (subscriptions.byModule.insert handle messageType).get other ↔
            (other = handle ∧ wanted = messageType) ∨ wanted ∈ subscriptions.typesOf other :=
        fun other wanted => Index.mem_get_insert consistent.modulesSorted
      refine ⟨consistent.typesSorted.insert _ _, consistent.modulesSorted.insert _ _, ?_, ?_, ?_⟩
      · intro other wanted
        refine (Index.mem_get_insert consistent.typesSorted).trans (Iff.trans ?_
          (entered other wanted).symm)
        rw [consistent.agree, and_comm]
      · intro other masked
        apply List.eq_nil_iff_forall_not_mem.mpr
        intro wanted here
        rcases (entered other wanted).mp here with new | before
        · exact unmasked (wantsEverything_iff.mpr (new.1 ▸ masked))
        · rw [consistent.exclusive other masked] at before
          exact List.not_mem_nil before
      · intro other here
        rcases (entered other _).mp here with new | before
        · exact single new.2.symm
        · exact consistent.individual other before

theorem unsubscribe (consistent : subscriptions.Consistent) (handle : Handle)
    (messageType : MessageType) :
    (subscriptions.unsubscribe handle messageType).2.Consistent := by
  unfold Subscriptions.unsubscribe
  split
  · exact ⟨consistent.typesSorted, consistent.modulesSorted, consistent.agree,
      fun other masked => consistent.exclusive other (List.mem_filter.mp masked).1,
      consistent.individual⟩
  · split
    · exact consistent
    · have struck : ∀ other wanted,
          wanted ∈ (subscriptions.byModule.erase handle messageType).get other ↔
            wanted ∈ subscriptions.typesOf other ∧ ¬ (other = handle ∧ wanted = messageType) :=
        fun other wanted => Index.mem_get_erase consistent.modulesSorted
      refine ⟨consistent.typesSorted.erase _ _, consistent.modulesSorted.erase _ _, ?_, ?_, ?_⟩
      · intro other wanted
        refine (Index.mem_get_erase consistent.typesSorted).trans (Iff.trans ?_
          (struck other wanted).symm)
        rw [consistent.agree, and_comm (a := wanted = messageType)]
      · intro other masked
        apply List.eq_nil_iff_forall_not_mem.mpr
        intro wanted here
        have before := ((struck other wanted).mp here).1
        rw [consistent.exclusive other masked] at before
        exact List.not_mem_nil before
      · intro other here
        exact consistent.individual other ((struck other _).mp here).1

theorem remove (consistent : subscriptions.Consistent) (handle : Handle) :
    (subscriptions.remove handle).Consistent := by
  have dropped := consistent.dropTypes handle
  exact ⟨dropped.typesSorted, dropped.modulesSorted, dropped.agree,
    fun other masked => dropped.exclusive other (List.mem_filter.mp masked).1, dropped.individual⟩

end Consistent

/-! ## Where a handle stands -/

/-- A handle stands in one of the parts, on whichever side. -/
def Mentions (subscriptions : Subscriptions) (handle : Handle) : Prop :=
  handle ∈ subscriptions.everything ∨
    (∃ entry ∈ subscriptions.byType.entries, handle ∈ entry.2) ∨
      ∃ entry ∈ subscriptions.byModule.entries, entry.1 = handle

/-- Whoever stands under a type also has types listed. -/
theorem mentions_iff (consistent : subscriptions.Consistent) :
    subscriptions.Mentions handle ↔
      handle ∈ subscriptions.everything ∨
        handle ∈ subscriptions.byModule.entries.map Prod.fst := by
  unfold Mentions
  rw [Index.mem_values_iff consistent.typesSorted, List.mem_map]
  constructor
  · rintro (masked | ⟨messageType, here⟩ | listed)
    · exact Or.inl masked
    · have wanted := (consistent.agree handle messageType).mp here
      rcases (Index.mem_get_iff consistent.modulesSorted).mp wanted with ⟨types, entry, _⟩
      exact Or.inr ⟨(handle, types), entry, rfl⟩
    · exact Or.inr listed
  · rintro (masked | listed)
    · exact Or.inl masked
    · exact Or.inr (Or.inr listed)

theorem not_mentions_empty : ¬ Mentions {} handle := by
  simp [Mentions]

theorem mentions_of_subscribe (consistent : subscriptions.Consistent)
    (later : (subscriptions.subscribe handle messageType).2.Mentions other) :
    other = handle ∨ subscriptions.Mentions other := by
  rw [mentions_iff (consistent.subscribe handle messageType)] at later
  rw [mentions_iff consistent]
  unfold Subscriptions.subscribe at later
  split at later
  · rcases later with masked | listed
    · exact (Ascending.mem_insert.mp masked).imp_right Or.inl
    · exact Or.inr (Or.inr ((List.filter_sublist.map Prod.fst).subset listed))
  · split at later
    · exact Or.inr later
    · rcases later with masked | listed
      · exact Or.inr (Or.inl masked)
      · change other ∈ (Index.insertEntry handle messageType _).map Prod.fst at listed
        rw [Index.keys_insertEntry] at listed
        exact (Ascending.mem_insert.mp listed).imp_right Or.inr

theorem mentions_of_unsubscribe (consistent : subscriptions.Consistent)
    (later : (subscriptions.unsubscribe handle messageType).2.Mentions other) :
    subscriptions.Mentions other := by
  rw [mentions_iff (consistent.unsubscribe handle messageType)] at later
  rw [mentions_iff consistent]
  unfold Subscriptions.unsubscribe at later
  split at later
  · exact later.imp_left fun masked => (List.mem_filter.mp masked).1
  · split at later
    · exact later
    · exact later.imp_right fun listed => (Index.keys_erase_sublist _ _ _).subset listed

/-- Whoever is forgotten stands nowhere, and nobody else is entered for it. -/
theorem mentions_of_remove (consistent : subscriptions.Consistent)
    (later : (subscriptions.remove handle).Mentions other) :
    other ≠ handle ∧ subscriptions.Mentions other := by
  rw [mentions_iff (consistent.remove handle)] at later
  rw [mentions_iff consistent]
  rcases later with masked | listed
  · rcases List.mem_filter.mp masked with ⟨before, different⟩
    exact ⟨by simpa using different, Or.inl before⟩
  · rcases List.mem_map.mp listed with ⟨entry, kept, rfl⟩
    rcases List.mem_filter.mp kept with ⟨before, different⟩
    exact ⟨by simpa using different, Or.inr (List.mem_map_of_mem before)⟩

/-- Forgetting somebody who stands nowhere changes nothing. -/
theorem remove_of_not_mentioned (unmentioned : ¬ subscriptions.Mentions handle) :
    subscriptions.remove handle = subscriptions := by
  have keys : ∀ entry ∈ subscriptions.byModule.entries, entry.1 ≠ handle :=
    fun entry here same => unmentioned (Or.inr (Or.inr ⟨entry, here, same⟩))
  have nothing : subscriptions.typesOf handle = [] := by
    unfold typesOf Index.get
    rw [List.find?_eq_none.mpr fun entry here => by simpa using keys entry here]
    rfl
  have unlisted : subscriptions.byModule.entries.filter (·.1 ≠ handle) =
      subscriptions.byModule.entries :=
    List.filter_eq_self.mpr fun entry here => decide_eq_true (keys entry here)
  have unmasked : subscriptions.everything.filter (· ≠ handle) = subscriptions.everything :=
    List.filter_eq_self.mpr fun other here =>
      decide_eq_true fun same => unmentioned (Or.inl (same ▸ here))
  unfold remove dropTypes Index.eraseKey
  rw [nothing, unlisted, unmasked]
  rfl

end Subscriptions

end MessageBus
