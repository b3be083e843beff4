import MessageBus.Proofs.Run

namespace MessageBus

open Wire

/-!
# Who can be told from whom

A module is addressed by its number and known by its name, and neither is always
its own.  Below `dynamicStart` a number is shared as long as at most one of its
holders wants it alone; a name is shared as long as at most one of its holders
wants to be the only one.  From `dynamicStart` on, the manager hands out the
numbers itself, and there nobody shares one.

The asymmetry is in the code.  A number that was asked for is compared with the
holders that want theirs alone, also if the newcomer does not mind sharing; a
name is compared only if the newcomer minds.  Both still come to the same thing,
because an existing holder that minds is never joined by another that minds.
-/

namespace Broker.Sound

variable {config : Config} {broker : Broker} {module : Module}

/-- Zero is the number of those who are not registered. -/
theorem id_eq_zero_iff (sound : broker.Sound config) (here : module ∈ broker.modules.modules) :
    module.id = 0 ↔ module.isRegistered = false := by
  have found := sound.modules.get?_of_mem here
  constructor
  · intro zero
    apply Bool.eq_false_iff.mpr
    intro registered
    have positive := (sound.distinct.ranged _ module found registered).1
    rw [zero] at positive
    exact absurd positive (by decide)
  · intro unregistered
    rw [sound.modules.blank _ module found unregistered]

/-- No two registered modules clash. -/
theorem registered_apart (sound : broker.Sound config) :
    broker.modules.registered.Pairwise fun first second =>
      ¬ first.Clash config.identity.dynamicStart second := by
  have ascending : broker.modules.registered.Pairwise fun first second =>
      first.handle < second.handle :=
    (List.pairwise_map.mp sound.modules.ascending).sublist List.filter_sublist
  refine ascending.imp_of_mem fun one two before => ?_
  rcases sound.modules.mem_registered_iff.mp one with ⟨foundOne, registeredOne⟩
  rcases sound.modules.mem_registered_iff.mp two with ⟨foundTwo, registeredTwo⟩
  have different := (Nat.ne_of_lt before).symm
  exact sound.distinct.apart _ _ _ _ different foundOne registeredOne foundTwo registeredTwo

end Broker.Sound

namespace Bus.Reachable

variable {σ : Type} {behaviour : Behaviour σ} {config : Config} {bus : Bus σ}

/-- In every state of every run, numbers and names are shared only where sharing
is allowed. -/
theorem identities_distinct (reachable : bus.Reachable behaviour config) :
    (∀ module ∈ bus.broker.modules.modules,
      (module.id = 0 ↔ module.isRegistered = false) ∧
        (module.isRegistered = true ->
          1 ≤ module.id ∧ module.id < config.identity.maxModules)) ∧
      bus.broker.modules.registered.Pairwise fun first second =>
        (first.id = second.id -> first.id < config.identity.dynamicStart) ∧
          (first.isUnique = true -> second.isUnique = true ->
            first.id ≠ second.id ∧ (first.name = second.name -> first.name = none)) := by
  have sound := reachable.sound
  constructor
  · intro module here
    refine ⟨sound.id_eq_zero_iff here, fun registered => ?_⟩
    exact sound.distinct.ranged _ module (sound.modules.get?_of_mem here) registered
  · apply sound.registered_apart.imp
    intro first second apart
    constructor
    · intro sameId
      apply Int16.not_le.mp
      intro dynamic
      exact apart (Or.inl ⟨sameId, Or.inl dynamic⟩)
    · intro unique alsoUnique
      refine ⟨fun sameId => apart (Or.inl ⟨sameId, Or.inr ⟨unique, alsoUnique⟩⟩), ?_⟩
      intro sameName
      cases named : first.name with
      | none => rfl
      | some name =>
          have alsoNamed : second.name = some name := sameName ▸ named
          exact absurd (Or.inr ⟨unique, alsoUnique, name, named, alsoNamed⟩) apart

end Bus.Reachable

/-- The module that asked for a number that was taken is not there. -/
theorem Bus.identities_distinct_of_small :
    Bus.small.broker.modules.registered.map Module.id = [100, 7, 101] ∧
      Bus.small.broker.modules.registered.Pairwise fun first second =>
        (first.id = second.id -> first.id < ModuleId.dynamicStart) ∧
          (first.isUnique = true -> second.isUnique = true ->
            first.id ≠ second.id ∧ (first.name = second.name -> first.name = none)) :=
  ⟨by decide +kernel, Bus.small_reachable.identities_distinct.2⟩

end MessageBus
