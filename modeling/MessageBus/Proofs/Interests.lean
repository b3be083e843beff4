import MessageBus.Proofs.Subscriptions

namespace MessageBus

open Wire

/-!
# What a registry stands for

The registry keeps three lists, and what they are for is one thing for each module: a
finite set of types, or everything.  `Interest` is that one thing, with the order of
being contained, and a request to the registry is a function on the interest of the
module that makes it.  Nothing that another module asks for enters into it.

The theorems here say that the lists never stand for anything else.  Whatever was
asked for, and by whom, `Subscriptions.Represents` holds of the registry and of the
interests that come from each module's own requests.  Two registries that stand for
the same interests are equal (`Represents.unique`), because every list is in order
and nothing is listed that stands for nothing.  So when a request leaves an interest
as it was, it leaves the registry as it was, and this is what its answer tells.

There is one request that does not do what one might take it to do.  To give up
everything gives up everything that was asked for as such.  A module that has asked
for single types keeps them (`Subscriptions.not_emptied_of_single`).
-/

/-! ## What a module wants -/

/-- Finitely many types, or everything. -/
abbrev Interest := WithTop (Finset MessageType)

namespace Interest

/-- The types that are wanted one by one. -/
def types : Interest -> Finset MessageType
  | ⊤ => ∅
  | (types : Finset MessageType) => types

/-- To ask for everything takes the place of every single type, and whoever has
everything gets nothing more. -/
def subscribe (messageType : MessageType) : Interest -> Interest
  | ⊤ => ⊤
  | (types : Finset MessageType) =>
      if messageType = MessageType.everything then ⊤ else ↑(insert messageType types)

/-- To give up everything leaves nothing of it, but only somebody who has it can do so.
Whoever has everything cannot give up a single type. -/
def unsubscribe (messageType : MessageType) : Interest -> Interest
  | ⊤ => if messageType = MessageType.everything then ↑(∅ : Finset MessageType) else ⊤
  | (types : Finset MessageType) =>
      if messageType = MessageType.everything then ↑types else ↑(types.erase messageType)

@[simp] theorem subscribe_top (messageType : MessageType) : subscribe messageType ⊤ = ⊤ := rfl

@[simp] theorem subscribe_everything (interest : Interest) :
    interest.subscribe MessageType.everything = ⊤ := by
  cases interest using WithTop.recTopCoe with
  | top => rfl
  | coe types =>
      unfold subscribe
      exact if_pos rfl

theorem subscribe_single {messageType : MessageType} (single : messageType ≠ MessageType.everything)
    (types : Finset MessageType) :
    subscribe messageType ↑types = ↑(insert messageType types) :=
  if_neg single

@[simp] theorem unsubscribe_everything_top : unsubscribe MessageType.everything ⊤ = ↑(∅ : Finset MessageType) :=
  rfl

theorem unsubscribe_everything (types : Finset MessageType) :
    unsubscribe MessageType.everything ↑types = ↑types := by
  unfold unsubscribe
  exact if_pos rfl

theorem unsubscribe_top {messageType : MessageType} (single : messageType ≠ MessageType.everything) :
    unsubscribe messageType ⊤ = ⊤ :=
  if_neg single

theorem unsubscribe_single {messageType : MessageType} (single : messageType ≠ MessageType.everything)
    (types : Finset MessageType) :
    unsubscribe messageType ↑types = ↑(types.erase messageType) :=
  if_neg single

theorem eq_of_types {first second : Interest} (masked : first = ⊤ ↔ second = ⊤)
    (types : first.types = second.types) : first = second := by
  cases first using WithTop.recTopCoe with
  | top => exact (masked.mp rfl).symm
  | coe one =>
      cases second using WithTop.recTopCoe with
      | top => exact masked.mpr rfl
      | coe other => exact congrArg _ types

end Interest

namespace Subscriptions

/-- What can be asked of a registry. -/
inductive Operation where
  | subscribe (handle : Handle) (messageType : MessageType)
  | unsubscribe (handle : Handle) (messageType : MessageType)
  | remove (handle : Handle)
deriving DecidableEq, Repr

namespace Operation

def handle : Operation -> Handle
  | .subscribe handle _ | .unsubscribe handle _ | .remove handle => handle

/-- What it makes of the interest of the module that it is about. -/
def effect : Operation -> Interest -> Interest
  | .subscribe _ messageType => Interest.subscribe messageType
  | .unsubscribe _ messageType => Interest.unsubscribe messageType
  | .remove _ => fun _ => ↑(∅ : Finset MessageType)

end Operation

def apply (subscriptions : Subscriptions) : Operation -> Subscriptions
  | .subscribe handle messageType => (subscriptions.subscribe handle messageType).2
  | .unsubscribe handle messageType => (subscriptions.unsubscribe handle messageType).2
  | .remove handle => subscriptions.remove handle

/-- The registry after some operations, from nothing. -/
def after (operations : List Operation) : Subscriptions :=
  operations.foldl apply {}

end Subscriptions

/-- What a module is interested in after some operations: those about other modules do
not count. -/
def Interest.after (operations : List Subscriptions.Operation) (handle : Handle) : Interest :=
  (operations.filter (·.handle = handle)).foldl (fun interest operation => operation.effect interest)
    ↑(∅ : Finset MessageType)

theorem Interest.after_append (operations : List Subscriptions.Operation)
    (operation : Subscriptions.Operation) :
    Interest.after (operations ++ [operation]) =
      Function.update (Interest.after operations) operation.handle
        (operation.effect (Interest.after operations operation.handle)) := by
  funext handle
  unfold Interest.after
  rw [List.filter_append, List.foldl_append]
  by_cases own : handle = operation.handle
  · subst own
    rw [Function.update_self, List.filter_cons_of_pos (by simp)]
    rfl
  · rw [Function.update_of_ne own, List.filter_cons_of_neg (by simpa using Ne.symm own)]
    rfl

/-! ## Lists in order -/

namespace Index

/-- Every key has values, and they ascend. -/
def Tidy [LT ν] (index : Index κ ν) : Prop :=
  ∀ entry ∈ index.entries, entry.2 ≠ [] ∧ entry.2.Pairwise (· < ·)

theorem Tidy.empty [LT ν] : Tidy ({} : Index κ ν) := by
  simp [Tidy]

section Entries

variable [DecidableEq κ] [LT ν] {index : Index κ ν} {key : κ}

theorem Tidy.eraseKey (tidy : index.Tidy) (key : κ) : (index.eraseKey key).Tidy :=
  fun entry kept => tidy entry (List.mem_filter.mp kept).1

theorem Tidy.erase [DecidableEq ν] (tidy : index.Tidy) (key : κ) (value : ν) :
    (index.erase key value).Tidy := by
  intro entry kept
  rcases List.mem_filterMap.mp kept with ⟨⟨other, values⟩, listed, result⟩
  by_cases same : key = other
  · simp only [if_pos same] at result
    split at result
    · cases result
    · next filled =>
      cases result
      exact ⟨fun empty => filled (List.isEmpty_iff.mpr empty), (tidy _ listed).2.filter _⟩
  · simp only [if_neg same] at result
    cases result
    exact tidy _ listed

theorem Tidy.ascending (tidy : index.Tidy) (key : κ) : (index.get key).Pairwise (· < ·) := by
  unfold get
  cases found : index.entries.find? (·.1 = key) with
  | none => exact List.Pairwise.nil
  | some entry => exact (tidy entry (List.mem_of_find?_eq_some found)).2

variable [LT κ] [Std.Irrefl (· < · : κ -> κ -> Prop)]

/-- An entry is a key that has values, together with them. -/
theorem Tidy.mem_entries_iff (tidy : index.Tidy) (sorted : index.Sorted) {values : List ν} :
    (key, values) ∈ index.entries ↔ values ≠ [] ∧ index.get key = values := by
  unfold get
  cases found : index.entries.find? (·.1 = key) with
  | none =>
      refine iff_of_false (fun listed => ?_) fun both => both.1 both.2.symm
      simpa using List.find?_eq_none.mp found _ listed
  | some entry =>
      have listed := List.mem_of_find?_eq_some found
      have same : entry.1 = key := by simpa using List.find?_some found
      constructor
      · intro here
        have equal := List.inj_on_of_nodup_map sorted.nodup listed here same
        exact ⟨(tidy _ here).1, congrArg Prod.snd equal⟩
      · rintro ⟨_, rfl⟩
        exact same ▸ listed

/-- Two indices with the same values under every key have the same entries. -/
theorem Tidy.eq_of_mem_iff {first second : Index κ ν} [Std.Asymm (· < · : κ -> κ -> Prop)]
    [Std.Asymm (· < · : ν -> ν -> Prop)] (tidy : first.Tidy) (sorted : first.Sorted)
    (tidyAlso : second.Tidy) (sortedAlso : second.Sorted)
    (same : ∀ key value, value ∈ first.get key ↔ value ∈ second.get key) : first = second := by
  have equal : ∀ key, first.get key = second.get key := fun key =>
    List.Pairwise.eq_of_mem_iff (tidy.ascending key) (tidyAlso.ascending key) (same key)
  have entries : first.entries = second.entries := by
    let before (one other : κ × List ν) : Prop := one.1 < other.1
    have : Std.Antisymm before := ⟨fun one other less more => absurd more (Std.Asymm.asymm _ _ less)⟩
    have : Std.Irrefl before := ⟨fun one less => Std.Asymm.asymm _ _ less less⟩
    refine List.Pairwise.eq_of_mem_iff (r := before) (List.pairwise_map.mp sorted)
      (List.pairwise_map.mp sortedAlso) fun entry => ?_
    rw [tidy.mem_entries_iff sorted, tidyAlso.mem_entries_iff sortedAlso, equal]
  exact congrArg Index.mk entries

end Entries

section Insertion

variable [LT ν] [DecidableLT ν] [DecidableEq ν]
  [Trans (· < · : ν -> ν -> Prop) (· < · : ν -> ν -> Prop) (· < · : ν -> ν -> Prop)]
  [Std.Trichotomous (· < · : ν -> ν -> Prop)]

theorem Tidy.insert [LT κ] [DecidableLT κ] [DecidableEq κ] {index : Index κ ν}
    (tidy : index.Tidy) (key : κ) (value : ν) : (index.insert key value).Tidy := by
  rcases index with ⟨entries⟩
  show ∀ entry ∈ insertEntry key value entries, _
  have single : [value] ≠ [] ∧ [value].Pairwise (· < ·) :=
    ⟨List.cons_ne_nil _ _, List.pairwise_singleton _ _⟩
  induction entries with
  | nil => exact List.forall_mem_singleton.mpr single
  | cons entry rest ih =>
      rcases entry with ⟨other, values⟩
      rcases List.forall_mem_cons.mp tidy with ⟨first, later⟩
      unfold insertEntry
      split
      · have filled : Ascending.insert value values ≠ [] :=
          List.ne_nil_of_mem (Ascending.mem_insert.mpr (Or.inl rfl))
        exact List.forall_mem_cons.mpr ⟨⟨filled, Ascending.pairwise_insert first.2 value⟩, later⟩
      · split
        · exact List.forall_mem_cons.mpr ⟨single, tidy⟩
        · exact List.forall_mem_cons.mpr ⟨first, ih later⟩

end Insertion

end Index

/-! ## What the lists stand for -/

namespace Subscriptions

variable {subscriptions : Subscriptions} {interests others : Handle -> Interest}
  {handle other : Handle} {messageType wanted : MessageType}

/-- The lists stand for an interest of each module, and for nothing else. -/
structure Represents (subscriptions : Subscriptions) (interests : Handle -> Interest) : Prop where
  consistent : subscriptions.Consistent
  tidyTypes : subscriptions.byType.Tidy
  tidyModules : subscriptions.byModule.Tidy
  ascending : subscriptions.everything.Pairwise (· < ·)
  masked : ∀ handle, handle ∈ subscriptions.everything ↔ interests handle = ⊤
  types : ∀ handle messageType,
    messageType ∈ subscriptions.typesOf handle ↔ messageType ∈ (interests handle).types

namespace Represents

theorem empty : Represents {} fun _ => ↑(∅ : Finset MessageType) where
  consistent := .empty
  tidyTypes := .empty
  tidyModules := .empty
  ascending := List.Pairwise.nil
  masked := by simp
  types := by simp [typesOf, Index.get, Interest.types]

theorem wantsEverything_iff (represents : subscriptions.Represents interests) :
    subscriptions.wantsEverything handle = true ↔ interests handle = ⊤ :=
  Subscriptions.wantsEverything_iff.trans (represents.masked handle)

theorem dropTypes_tidy (represents : subscriptions.Represents interests) (handle : Handle) :
    (subscriptions.dropTypes handle).byType.Tidy ∧ (subscriptions.dropTypes handle).byModule.Tidy := by
  refine ⟨?_, represents.tidyModules.eraseKey handle⟩
  have struck : ∀ (types : List MessageType) {index : Index MessageType Handle}, index.Tidy ->
      (types.foldl (fun index messageType => index.erase messageType handle) index).Tidy := by
    intro types
    induction types with
    | nil => exact fun tidy => tidy
    | cons first rest ih => exact fun tidy => ih (tidy.erase first handle)
  exact struck _ represents.tidyTypes

/-- What is to be looked at after a request: the lists are still in order, nobody else is
affected, and the one who made it is listed according to its new interest. -/
theorem update {later : Subscriptions} {interest : Interest}
    (represents : subscriptions.Represents interests) (consistent : later.Consistent)
    (tidyTypes : later.byType.Tidy) (tidyModules : later.byModule.Tidy)
    (ascending : later.everything.Pairwise (· < ·))
    (masked : ∀ other, other ∈ later.everything ↔
      if other = handle then interest = ⊤ else other ∈ subscriptions.everything)
    (types : ∀ other wanted, wanted ∈ later.typesOf other ↔
      if other = handle then wanted ∈ interest.types else wanted ∈ subscriptions.typesOf other) :
    later.Represents (Function.update interests handle interest) where
  consistent := consistent
  tidyTypes := tidyTypes
  tidyModules := tidyModules
  ascending := ascending
  masked other := by
    rw [masked]
    by_cases own : other = handle
    · rw [if_pos own, own, Function.update_self]
    · rw [if_neg own, Function.update_of_ne own]
      exact represents.masked other
  types other wanted := by
    rw [types]
    by_cases own : other = handle
    · rw [if_pos own, own, Function.update_self]
    · rw [if_neg own, Function.update_of_ne own]
      exact represents.types other wanted

theorem subscribe (represents : subscriptions.Represents interests) (handle : Handle)
    (messageType : MessageType) :
    (subscriptions.subscribe handle messageType).2.Represents
      (Function.update interests handle ((interests handle).subscribe messageType)) := by
  have consistent := represents.consistent.subscribe handle messageType
  unfold Subscriptions.subscribe at consistent ⊢
  by_cases all : messageType = MessageType.everything
  · rw [if_pos all] at consistent ⊢
    rcases represents.dropTypes_tidy handle with ⟨tidyTypes, tidyModules⟩
    rw [all, Interest.subscribe_everything]
    refine represents.update consistent tidyTypes tidyModules
      (Ascending.pairwise_insert represents.ascending handle) (fun other => ?_)
      fun other wanted => ?_
    · refine Ascending.mem_insert.trans ?_
      by_cases own : other = handle
      · simp [own]
      · rw [if_neg own]
        exact or_iff_right own
    · refine (mem_typesOf_dropTypes represents.consistent.modulesSorted).trans ?_
      by_cases own : other = handle
      · simp [own, Interest.types]
      · rw [if_neg own]
        exact and_iff_right own
  · rw [if_neg all] at consistent ⊢
    by_cases masked : subscriptions.wantsEverything handle = true
    · rw [if_pos masked] at consistent ⊢
      have interest := represents.wantsEverything_iff.mp masked
      have same : (interests handle).subscribe messageType = interests handle := by
        rw [interest, Interest.subscribe_top]
      rwa [same, Function.update_eq_self]
    · rw [if_neg masked] at consistent ⊢
      have unmasked : interests handle ≠ ⊤ := fun top =>
        masked (represents.wantsEverything_iff.mpr top)
      rcases WithTop.ne_top_iff_exists.mp unmasked with ⟨types, interest⟩
      have listed := represents.types handle
      rw [← interest] at listed ⊢
      rw [Interest.subscribe_single all]
      refine represents.update consistent (represents.tidyTypes.insert _ _)
        (represents.tidyModules.insert _ _) represents.ascending (fun other => ?_)
        fun other wanted => ?_
      · by_cases own : other = handle
        · rw [if_pos own, own, represents.masked]
          exact iff_of_false unmasked (WithTop.coe_ne_top)
        · rw [if_neg own]
      · refine (Index.mem_get_insert represents.consistent.modulesSorted).trans ?_
        by_cases own : other = handle
        · rw [if_pos own, own]
          show _ ∨ wanted ∈ subscriptions.typesOf handle ↔ wanted ∈ insert messageType types
          rw [listed, Finset.mem_insert]
          exact or_congr_left (and_iff_right rfl)
        · rw [if_neg own]
          exact or_iff_right fun both => own both.1

theorem unsubscribe (represents : subscriptions.Represents interests) (handle : Handle)
    (messageType : MessageType) :
    (subscriptions.unsubscribe handle messageType).2.Represents
      (Function.update interests handle ((interests handle).unsubscribe messageType)) := by
  have consistent := represents.consistent.unsubscribe handle messageType
  unfold Subscriptions.unsubscribe at consistent ⊢
  by_cases all : messageType = MessageType.everything
  · rw [if_pos all] at consistent ⊢
    rw [all]
    refine represents.update consistent represents.tidyTypes represents.tidyModules
      (represents.ascending.filter _) (fun other => ?_) fun other wanted => ?_
    · rw [List.mem_filter, decide_eq_true_eq]
      by_cases own : other = handle
      · rw [if_pos own]
        refine iff_of_false (fun both => both.2 own) ?_
        cases interests handle using WithTop.recTopCoe with
        | top => exact WithTop.coe_ne_top
        | coe types =>
            rw [Interest.unsubscribe_everything]
            exact WithTop.coe_ne_top
      · rw [if_neg own]
        exact and_iff_left own
    · by_cases own : other = handle
      · rw [if_pos own, own]
        refine (represents.types handle wanted).trans ?_
        cases interests handle using WithTop.recTopCoe with
        | top => rfl
        | coe types => rw [Interest.unsubscribe_everything]
      · rw [if_neg own]
        rfl
  · rw [if_neg all] at consistent ⊢
    by_cases masked : subscriptions.wantsEverything handle = true
    · rw [if_pos masked] at consistent ⊢
      have interest := represents.wantsEverything_iff.mp masked
      have same : (interests handle).unsubscribe messageType = interests handle := by
        rw [interest, Interest.unsubscribe_top all]
      rwa [same, Function.update_eq_self]
    · rw [if_neg masked] at consistent ⊢
      have unmasked : interests handle ≠ ⊤ := fun top =>
        masked (represents.wantsEverything_iff.mpr top)
      rcases WithTop.ne_top_iff_exists.mp unmasked with ⟨types, interest⟩
      have listed := represents.types handle
      rw [← interest] at listed ⊢
      rw [Interest.unsubscribe_single all]
      refine represents.update consistent (represents.tidyTypes.erase _ _)
        (represents.tidyModules.erase _ _) represents.ascending (fun other => ?_)
        fun other wanted => ?_
      · by_cases own : other = handle
        · rw [if_pos own, own, represents.masked]
          exact iff_of_false unmasked (WithTop.coe_ne_top)
        · rw [if_neg own]
      · refine (Index.mem_get_erase represents.consistent.modulesSorted).trans ?_
        by_cases own : other = handle
        · rw [if_pos own, own]
          show wanted ∈ subscriptions.typesOf handle ∧ _ ↔ wanted ∈ types.erase messageType
          rw [listed, Finset.mem_erase, and_comm]
          exact and_congr_left' ⟨fun apart same => apart ⟨rfl, same⟩, fun apart both => apart both.2⟩
        · rw [if_neg own]
          exact and_iff_left fun both => own both.1

theorem remove (represents : subscriptions.Represents interests) (handle : Handle) :
    (subscriptions.remove handle).Represents
      (Function.update interests handle ↑(∅ : Finset MessageType)) := by
  rcases represents.dropTypes_tidy handle with ⟨tidyTypes, tidyModules⟩
  refine represents.update (represents.consistent.remove handle) tidyTypes tidyModules
    (represents.ascending.filter _) (fun other => ?_) fun other wanted => ?_
  · show other ∈ subscriptions.everything.filter _ ↔ _
    rw [List.mem_filter, decide_eq_true_eq]
    by_cases own : other = handle
    · rw [if_pos own]
      exact iff_of_false (fun both => both.2 own) WithTop.coe_ne_top
    · rw [if_neg own]
      exact and_iff_left own
  · refine (mem_typesOf_dropTypes represents.consistent.modulesSorted).trans ?_
    by_cases own : other = handle
    · simp [own, Interest.types]
    · rw [if_neg own]
      exact and_iff_right own

theorem apply (represents : subscriptions.Represents interests) (operation : Operation) :
    (subscriptions.apply operation).Represents
      (Function.update interests operation.handle
        (operation.effect (interests operation.handle))) := by
  cases operation with
  | subscribe handle messageType => exact represents.subscribe handle messageType
  | unsubscribe handle messageType => exact represents.unsubscribe handle messageType
  | remove handle => exact represents.remove handle

/-- A registry stands for one interest of each module. -/
theorem interests_unique (represents : subscriptions.Represents interests)
    (also : subscriptions.Represents others) : interests = others := by
  funext handle
  apply Interest.eq_of_types
  · exact (represents.masked handle).symm.trans (also.masked handle)
  · ext messageType
    exact (represents.types handle messageType).symm.trans (also.types handle messageType)

/-- Two registries that stand for the same interests do not differ. -/
theorem unique {second : Subscriptions} (represents : subscriptions.Represents interests)
    (also : second.Represents interests) : subscriptions = second := by
  have modules : subscriptions.byModule = second.byModule := by
    refine represents.tidyModules.eq_of_mem_iff represents.consistent.modulesSorted
      also.tidyModules also.consistent.modulesSorted fun handle messageType => ?_
    exact (represents.types handle messageType).trans (also.types handle messageType).symm
  have types : subscriptions.byType = second.byType := by
    refine represents.tidyTypes.eq_of_mem_iff represents.consistent.typesSorted
      also.tidyTypes also.consistent.typesSorted fun messageType handle => ?_
    rw [represents.consistent.agree, also.consistent.agree, represents.types, also.types]
  have everything : subscriptions.everything = second.everything :=
    List.Pairwise.eq_of_mem_iff represents.ascending also.ascending fun handle =>
      (represents.masked handle).trans (also.masked handle).symm
  cases subscriptions
  cases second
  simp_all

end Represents

theorem represents_after (operations : List Operation) :
    (after operations).Represents (Interest.after operations) := by
  induction operations using List.reverseRecOn with
  | nil => exact .empty
  | append_singleton earlier operation ih =>
      have last : after (earlier ++ [operation]) = (after earlier).apply operation := by
        unfold after
        rw [List.foldl_append]
        rfl
      rw [last, Interest.after_append]
      exact ih.apply operation

/-! ## What a request answers -/

/-- An answer tells in which direction an interest has changed, if it has. -/
structure Change.Tells (change : Change) (before after : Interest) : Prop where
  added : change = .added ↔ before < after
  removed : change = .removed ↔ after < before
  unchanged : change = .unchanged ↔ after = before

theorem Change.tells_added {before after : Interest} (more : before < after) :
    Change.added.Tells before after where
  added := iff_of_true rfl more
  removed := iff_of_false (by decide) more.asymm
  unchanged := iff_of_false (by decide) more.ne'

theorem Change.tells_removed {before after : Interest} (less : after < before) :
    Change.removed.Tells before after where
  added := iff_of_false (by decide) less.asymm
  removed := iff_of_true rfl less
  unchanged := iff_of_false (by decide) less.ne

theorem Change.tells_unchanged (interest : Interest) : Change.unchanged.Tells interest interest where
  added := iff_of_false (by decide) (lt_irrefl interest)
  removed := iff_of_false (by decide) (lt_irrefl interest)
  unchanged := iff_of_true rfl rfl

namespace Represents

theorem has_iff (represents : subscriptions.Represents interests) :
    subscriptions.byType.has messageType handle = true ↔ messageType ∈ (interests handle).types := by
  unfold Index.has
  rw [List.contains_iff_mem, represents.consistent.agree, represents.types]

theorem subscribe_tells (represents : subscriptions.Represents interests) (handle : Handle)
    (messageType : MessageType) :
    (subscriptions.subscribe handle messageType).1.Tells (interests handle)
      ((interests handle).subscribe messageType) := by
  have masked : subscriptions.wantsEverything handle = true ↔ interests handle = ⊤ :=
    represents.wantsEverything_iff
  have has : subscriptions.byType.has messageType handle = true ↔
      messageType ∈ (interests handle).types := represents.has_iff
  generalize interests handle = interest at masked has ⊢
  unfold Subscriptions.subscribe
  by_cases all : messageType = MessageType.everything
  · rw [if_pos all, all, Interest.subscribe_everything]
    by_cases top : interest = ⊤
    · rw [if_pos (masked.mpr top), top]
      exact Change.tells_unchanged ⊤
    · rw [if_neg fun wants => top (masked.mp wants)]
      exact Change.tells_added (lt_top_iff_ne_top.mpr top)
  · rw [if_neg all]
    cases interest using WithTop.recTopCoe with
    | top =>
        rw [if_pos (masked.mpr rfl)]
        exact Change.tells_unchanged ⊤
    | coe types =>
        rw [if_neg fun wants => WithTop.coe_ne_top (masked.mp wants),
          Interest.subscribe_single all]
        by_cases here : messageType ∈ types
        · rw [if_pos (has.mpr here), Finset.insert_eq_of_mem here]
          exact Change.tells_unchanged _
        · rw [if_neg fun listed => here (has.mp listed)]
          exact Change.tells_added (WithTop.coe_lt_coe.mpr (Finset.ssubset_insert here))

theorem unsubscribe_tells (represents : subscriptions.Represents interests) (handle : Handle)
    (messageType : MessageType) :
    (subscriptions.unsubscribe handle messageType).1.Tells (interests handle)
      ((interests handle).unsubscribe messageType) := by
  have masked : subscriptions.wantsEverything handle = true ↔ interests handle = ⊤ :=
    represents.wantsEverything_iff
  have has : subscriptions.byType.has messageType handle = true ↔
      messageType ∈ (interests handle).types := represents.has_iff
  generalize interests handle = interest at masked has ⊢
  unfold Subscriptions.unsubscribe
  by_cases all : messageType = MessageType.everything
  · rw [if_pos all, all]
    cases interest using WithTop.recTopCoe with
    | top =>
        rw [if_pos (masked.mpr rfl), Interest.unsubscribe_everything_top]
        exact Change.tells_removed (WithTop.coe_lt_top _)
    | coe types =>
        rw [if_neg fun wants => WithTop.coe_ne_top (masked.mp wants),
          Interest.unsubscribe_everything]
        exact Change.tells_unchanged _
  · rw [if_neg all]
    cases interest using WithTop.recTopCoe with
    | top =>
        rw [if_pos (masked.mpr rfl), Interest.unsubscribe_top all]
        exact Change.tells_unchanged ⊤
    | coe types =>
        rw [if_neg fun wants => WithTop.coe_ne_top (masked.mp wants),
          Interest.unsubscribe_single all]
        by_cases here : messageType ∈ types
        · rw [if_pos (has.mpr here)]
          exact Change.tells_removed (WithTop.coe_lt_coe.mpr (Finset.erase_ssubset here))
        · rw [if_neg fun listed => here (has.mp listed), Finset.erase_eq_of_notMem here]
          exact Change.tells_unchanged _

/-- If nobody else's interest is touched, the registry stays as it was exactly if the
interest does. -/
theorem eq_iff {later : Subscriptions} {interest : Interest}
    (represents : subscriptions.Represents interests)
    (updated : later.Represents (Function.update interests handle interest)) :
    later = subscriptions ↔ interest = interests handle := by
  constructor
  · rintro rfl
    have same := congrFun (updated.interests_unique represents) handle
    rwa [Function.update_self] at same
  · intro same
    rw [same, Function.update_eq_self] at updated
    exact updated.unique represents

/-! ## What the lists look like -/

theorem byType_entries (represents : subscriptions.Represents interests) :
    ∀ entry ∈ subscriptions.byType.entries, entry.2 ≠ [] ∧ entry.1 ≠ MessageType.everything := by
  rintro ⟨messageType, handles⟩ listed
  have filled := (represents.tidyTypes _ listed).1
  refine ⟨filled, fun all => ?_⟩
  rcases List.exists_mem_of_ne_nil handles filled with ⟨handle, here⟩
  have wanted : handle ∈ subscriptions.byType.get messageType :=
    (Index.mem_get_iff represents.consistent.typesSorted).mpr ⟨handles, listed, here⟩
  rw [represents.consistent.agree] at wanted
  exact represents.consistent.individual handle (all ▸ wanted)

theorem byModule_entries (represents : subscriptions.Represents interests) :
    ∀ entry ∈ subscriptions.byModule.entries, entry.2 ≠ [] ∧ MessageType.everything ∉ entry.2 := by
  rintro ⟨handle, types⟩ listed
  refine ⟨(represents.tidyModules _ listed).1, fun here => ?_⟩
  exact represents.consistent.individual handle
    ((Index.mem_get_iff represents.consistent.modulesSorted).mpr ⟨types, listed, here⟩)

/-- Whoever wants everything is in neither index. -/
theorem not_listed_of_masked (represents : subscriptions.Represents interests)
    (masked : handle ∈ subscriptions.everything) :
    (∀ entry ∈ subscriptions.byType.entries, handle ∉ entry.2) ∧
      ∀ entry ∈ subscriptions.byModule.entries, entry.1 ≠ handle := by
  have none := represents.consistent.exclusive handle masked
  constructor
  · rintro ⟨messageType, handles⟩ listed here
    have wanted := (Index.mem_get_iff represents.consistent.typesSorted).mpr ⟨handles, listed, here⟩
    rw [represents.consistent.agree, none] at wanted
    cases wanted
  · rintro ⟨_, types⟩ listed rfl
    rcases (represents.tidyModules.mem_entries_iff represents.consistent.modulesSorted).mp listed
      with ⟨filled, own⟩
    exact filled (own.symm.trans none)

theorem subscribers_nodup (represents : subscriptions.Represents interests)
    (messageType : MessageType) : (subscriptions.subscribers messageType).Nodup := by
  unfold subscribers
  rw [List.nodup_append']
  refine ⟨(represents.tidyTypes.ascending messageType).nodup, represents.ascending.nodup, ?_⟩
  intro handle wanted masked
  rw [represents.consistent.agree, represents.consistent.exclusive handle masked] at wanted
  cases wanted

theorem wants_iff (represents : subscriptions.Represents interests) :
    subscriptions.wants handle messageType = true ↔
      interests handle = ⊤ ∨ messageType ∈ (interests handle).types := by
  rw [represents.consistent.wants_iff, represents.types, represents.wantsEverything_iff, or_comm]

end Represents

/-- Whatever was asked for, the registry stands for the interests that come of it.  Both
indices tell the same, nothing is in them that stands for nothing, and whoever wants
everything is in neither.  A module's types and a type's modules can be read off.  The
answer to the next request tells how the interest of the module changes, and it is
`unchanged` exactly if the whole registry stays as it is. -/
theorem refines_interests (operations : List Operation) :
    let subscriptions := after operations
    let interests := Interest.after operations
    (∀ handle messageType, handle ∈ subscriptions.byType.get messageType ↔
        messageType ∈ subscriptions.byModule.get handle) ∧
      (∀ entry ∈ subscriptions.byType.entries,
        entry.2 ≠ [] ∧ entry.1 ≠ MessageType.everything) ∧
      (∀ entry ∈ subscriptions.byModule.entries,
        entry.2 ≠ [] ∧ MessageType.everything ∉ entry.2) ∧
      (∀ handle ∈ subscriptions.everything,
        (∀ entry ∈ subscriptions.byType.entries, handle ∉ entry.2) ∧
          ∀ entry ∈ subscriptions.byModule.entries, entry.1 ≠ handle) ∧
      (∀ handle, subscriptions.wantsEverything handle = true ↔ interests handle = ⊤) ∧
      (∀ handle, (subscriptions.typesOf handle).Pairwise (· < ·) ∧
        ∀ messageType, messageType ∈ subscriptions.typesOf handle ↔
          messageType ∈ (interests handle).types) ∧
      (∀ handle messageType, subscriptions.wants handle messageType = true ↔
        interests handle = ⊤ ∨ messageType ∈ (interests handle).types) ∧
      (∀ messageType, (subscriptions.subscribers messageType).Nodup ∧
        ∀ handle, handle ∈ subscriptions.subscribers messageType ↔
          subscriptions.wants handle messageType = true) ∧
      (∀ handle messageType,
        let (change, later) := subscriptions.subscribe handle messageType
        change.Tells (interests handle) ((interests handle).subscribe messageType) ∧
          (change = .unchanged ↔ later = subscriptions)) ∧
      ∀ handle messageType,
        let (change, later) := subscriptions.unsubscribe handle messageType
        change.Tells (interests handle) ((interests handle).unsubscribe messageType) ∧
          (change = .unchanged ↔ later = subscriptions) := by
  intro subscriptions interests
  have represents : subscriptions.Represents interests := represents_after operations
  refine ⟨represents.consistent.agree, represents.byType_entries, represents.byModule_entries,
    fun _ masked => represents.not_listed_of_masked masked,
    fun _ => represents.wantsEverything_iff,
    fun handle => ⟨represents.tidyModules.ascending handle, represents.types handle⟩,
    fun _ _ => represents.wants_iff,
    fun messageType => ⟨represents.subscribers_nodup messageType, fun _ => mem_subscribers⟩,
    fun handle messageType => ?_, fun handle messageType => ?_⟩
  · have tells := represents.subscribe_tells handle messageType
    exact ⟨tells, tells.unchanged.trans
      (represents.eq_iff (represents.subscribe handle messageType)).symm⟩
  · have tells := represents.unsubscribe_tells handle messageType
    exact ⟨tells, tells.unchanged.trans
      (represents.eq_iff (represents.unsubscribe handle messageType)).symm⟩

/-- To give up everything does not empty the interest of somebody who has asked for a
single type. -/
theorem not_emptied_of_single :
    let subscriptions := after [.subscribe 1 5]
    let (change, later) := subscriptions.unsubscribe 1 MessageType.everything
    change = .unchanged ∧ later.typesOf 1 = [5] ∧ later.wants 1 5 = true := by
  decide

end Subscriptions

end MessageBus
