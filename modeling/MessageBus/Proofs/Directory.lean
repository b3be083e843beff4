import MessageBus.Proofs.Chronicle
import MessageBus.Proofs.Orderly
import Mathlib.Data.Finset.Basic

namespace MessageBus

open Wire History

/-!
# The directory that a logger can keep

Whoever gets all frames can keep a list of the modules on the bus, by entering a number
when a notice says that it is there and by striking it out when one says that it has gone.
If every module is the only one of its number then the list never has anybody who is not
there.  It has the one who keeps it, and everybody who came later; and those who came
before as soon as all modules have been gone through once.

What the list is compared with is not the table alone, because somebody who came earlier
may not have been heard of yet.  `History.Shown` says who has been, and the invariant is
`Bus.Mirrors`: the numbers on the list, once everything in the outbox has been read as well,
are those of the registered modules that were shown.  Numbers are compared there by
connection.  Striking out a number takes away no other module because no other has it,
and this is the only place where it matters that everybody asked to be the only one.
-/

/-! ## Keeping a list -/

namespace Notice

variable {α β : Type} [DecidableEq α] [DecidableEq β]

/-- Enter or strike out. -/
def heed (there : Finset α) : Notice α -> Finset α
  | .entered who => insert who there
  | .left who => there.erase who

/-- Who is there according to notices. -/
def directory (notices : List (Notice α)) : Finset α :=
  notices.foldl heed ∅

theorem mem_foldl_entered {who : α} {there : Finset α} {others : List α} :
    who ∈ (others.map .entered).foldl heed there ↔ who ∈ there ∨ who ∈ others := by
  induction others generalizing there with
  | nil => simp
  | cons other rest ih =>
      rw [List.map_cons, List.foldl_cons, ih, heed, Finset.mem_insert, List.mem_cons]
      tauto

theorem mem_foldl_left {who : α} {there : Finset α} {others : List α} :
    who ∈ (others.map .left).foldl heed there ↔ who ∈ there ∧ who ∉ others := by
  induction others generalizing there with
  | nil => simp
  | cons other rest ih =>
      rw [List.map_cons, List.foldl_cons, ih, heed, Finset.mem_erase, List.mem_cons]
      tauto

theorem mem_directory_append_entered {who : α} {notices : List (Notice α)} {others : List α} :
    who ∈ directory (notices ++ others.map .entered) ↔ who ∈ directory notices ∨ who ∈ others := by
  unfold directory
  rw [List.foldl_append]
  exact mem_foldl_entered

theorem mem_directory_append_left {who : α} {notices : List (Notice α)} {others : List α} :
    who ∈ directory (notices ++ others.map .left) ↔ who ∈ directory notices ∧ who ∉ others := by
  unfold directory
  rw [List.foldl_append]
  exact mem_foldl_left

/-- Under different names the same are there. -/
theorem mem_directory_map {name : α -> β} (injective : Function.Injective name) {who : α}
    {notices : List (Notice α)} :
    name who ∈ directory (notices.map (Notice.map name)) ↔ who ∈ directory notices := by
  have follows : ∀ {there : Finset α} {named : Finset β},
      (∀ who, name who ∈ named ↔ who ∈ there) ->
        (name who ∈ (notices.map (Notice.map name)).foldl heed named ↔
          who ∈ notices.foldl heed there) := by
    induction notices with
    | nil => exact fun same => same who
    | cons notice rest ih =>
        intro there named same
        rw [List.map_cons, List.foldl_cons, List.foldl_cons]
        refine ih fun other => ?_
        cases notice with
        | entered newcomer =>
            rw [map_entered, heed, heed, Finset.mem_insert, Finset.mem_insert, same,
              injective.eq_iff]
        | left gone =>
            rw [map_left, heed, heed, Finset.mem_erase, Finset.mem_erase, same, injective.ne_iff]
  exact follows fun other => by simp

end Notice

open Notice

/-! ## Everybody is the only one -/

/-- A message that asks to be let in asks for a number and a name of its own. -/
def Inbound.isExclusive (inbound : Inbound) : Bool :=
  match Request.classify inbound.broker.schemas inbound.message with
  | .ok (.connect request) => request.unique
  | _ => true

namespace History

/-- Whoever has asked to be let in has asked for a number and a name of its own. -/
def IsExclusive (history : List Moment) : Prop :=
  ∀ arrival ∈ inbound history, arrival.isExclusive = true

instance (history : List Moment) : Decidable (IsExclusive history) :=
  List.decidableBAll _ _

theorem IsExclusive.of_append {first second : List Moment}
    (exclusive : IsExclusive (first ++ second)) : IsExclusive first := by
  intro arrival here
  refine exclusive arrival ?_
  rw [inbound_append]
  exact List.mem_append_left _ here

end History

namespace ModuleTable

variable {first second : ModuleTable} {handle : Handle} {module : Module}

/-- Whoever was registered before is the same as before. -/
theorem Succeeds.keeps (succeeds : first.Succeeds second) (consistent : first.Consistent)
    (was : first.isRegistered handle = true) (found : second.get? handle = some module) :
    ∃ earlier, first.get? handle = some earlier ∧ earlier.isRegistered = true ∧
      earlier.Keeps module := by
  rcases isRegistered_iff.mp was with ⟨earlier, before, registered⟩
  rcases succeeds.found handle module (consistent.le_lastHandle before) found with
    ⟨same, again, keeps⟩
  obtain rfl := Option.some.inj (again.symm.trans before)
  exact ⟨same, before, registered, keeps registered⟩

theorem HasLogger.isRegistered (hasLogger : first.HasLogger handle) :
    first.isRegistered handle = true := by
  rcases hasLogger with ⟨module, found, registered, _⟩
  exact isRegistered_iff.mpr ⟨module, found, registered⟩

theorem HasLogger.contains (hasLogger : first.HasLogger handle) :
    first.contains handle = true := by
  rcases hasLogger with ⟨module, found, _⟩
  exact contains_iff.mpr ⟨module, found⟩

theorem HasLogger.before (hasLogger : second.HasLogger handle) (succeeds : first.Succeeds second)
    (consistent : first.Consistent) (was : first.isRegistered handle = true) :
    first.HasLogger handle := by
  rcases hasLogger with ⟨module, found, _, isLogger⟩
  rcases succeeds.keeps consistent was found with ⟨earlier, before, registered, keeps⟩
  exact ⟨earlier, before, registered, keeps.isLogger.symm.trans isLogger⟩

end ModuleTable

theorem Broker.get?_connect_self {broker : Broker} {handle : Handle} {request : ConnectRequest}
    {id : ModuleId} {identities : IdentityPool}
    (chosen : broker.modules.chooseId broker.identities handle request
      broker.config.identity.dynamicStart = (.ok id, identities)) :
    (broker.connect handle request).modules.get? handle =
      (broker.modules.get? handle).map (Module.admitted id request) := by
  rw [connect_of_ok chosen]
  simp only [modules_publishClientInfo, modules_acknowledge]
  exact ModuleTable.get?_enroll_self id request

/-- Whoever is let in is registered as it has asked. -/
theorem Broker.isUnique_of_admitted {broker : Broker} {handle : Handle} {message : Message}
    {module : Module} (exclusive : Inbound.isExclusive ⟨broker, handle, message⟩ = true)
    (admission : Inbound.IsAdmission ⟨broker, handle, message⟩)
    (found : (broker.receive handle message).modules.get? handle = some module) :
    module.isUnique = true := by
  rcases admission with ⟨unregistered, request, asked⟩
  unfold Inbound.isExclusive at exclusive
  rw [asked] at exclusive
  rcases chosen : broker.modules.chooseId broker.identities handle request
    broker.config.identity.dynamicStart with ⟨rejection | id, identities⟩
  · rw [get?_receive_refused unregistered asked chosen] at found
    cases found
  · unfold receive at found
    split at found
    · unfold dispatch at found
      rw [asked] at found
      dsimp only at found
      rw [unregistered, if_neg Bool.false_ne_true] at found
      unfold greet at found
      dsimp only at found
      rw [get?_connect_self (by exact chosen)] at found
      rcases Option.map_eq_some_iff.mp found with ⟨_, _, rfl⟩
      exact exclusive
    · next absent =>
      exact absurd (ModuleTable.contains_iff.mpr ⟨module, found⟩) absent

namespace Bus

variable {behaviour : Behaviour σ} {config : Config} {bus : Bus σ} {handle : Handle}

theorem exclusive_deliver {pending : Pending} {outbox : List Pending}
    (next : bus.broker.outbox = pending :: outbox)
    (exclusive : IsExclusive (bus.step behaviour .deliver).history) : IsExclusive bus.history := by
  unfold IsExclusive at exclusive ⊢
  rwa [inbound_deliver next] at exclusive

/-- Where everybody asks to be the only one, every module is. -/
theorem Reachable.isUnique (reachable : bus.Reachable behaviour config)
    (exclusive : IsExclusive bus.history) {module : Module}
    (found : bus.broker.modules.get? handle = some module)
    (registered : module.isRegistered = true) : module.isUnique = true := by
  induction reachable using stepwise generalizing module with
  | start started queues =>
      rcases Broker.start_eq started with ⟨_, rfl⟩
      cases found
  | @met bus reachable ih occasion =>
      have earlier : IsExclusive bus.history := exclusive.of_append
      by_cases was : bus.broker.modules.isRegistered handle = true
      · rcases (Broker.succeeds_meet bus.broker occasion).keeps reachable.sound.modules was found
          with ⟨same, before, isModule, keeps⟩
        exact keeps.isUnique.trans (ih earlier before isModule)
      · have is := ModuleTable.isRegistered_iff.mpr ⟨module, found, registered⟩
        rcases (Broker.isRegistered_of_meet reachable.sound is).resolve_left was with
          ⟨message, rfl, granted⟩
        rcases Option.isSome_iff_exists.mp granted with ⟨id, given⟩
        have admission := (Broker.asked_of_grant? given).resolve_right fun service =>
          was service.registered
        refine Broker.isUnique_of_admitted (exclusive _ ?_) admission found
        show _ ∈ inbound (bus.history ++ [.met bus.broker (.event (.message handle message))])
        rw [inbound_append]
        exact List.mem_append_right _ List.mem_cons_self
  | readers reachable ih queues => exact ih exclusive found registered
  | @delivered bus pending outbox reachable ih next =>
      have is := ModuleTable.isRegistered_iff.mpr ⟨module, found, registered⟩
      have was := isRegistered_of_deliver reachable.sound next is
      rcases (succeeds_step behaviour reachable.sound .deliver).keeps reachable.sound.modules was
        found with ⟨same, before, isModule, keeps⟩
      exact keeps.isUnique.trans (ih (exclusive_deliver next exclusive) before isModule)

/-- Then no two modules have one number. -/
theorem Reachable.eq_of_assigned (reachable : bus.Reachable behaviour config)
    (exclusive : IsExclusive bus.history) {one other : Handle}
    (first : bus.broker.modules.isRegistered one = true)
    (second : bus.broker.modules.isRegistered other = true)
    (same : assigned? one bus.history = assigned? other bus.history) : one = other := by
  rcases ModuleTable.isRegistered_iff.mp first with ⟨module, found, registered⟩
  rcases ModuleTable.isRegistered_iff.mp second with ⟨rival, foundRival, registeredRival⟩
  rw [reachable.assigned_of_found found registered,
    reachable.assigned_of_found foundRival registeredRival] at same
  by_contra different
  have unique := reachable.isUnique exclusive found registered
  have uniqueRival := reachable.isUnique exclusive foundRival registeredRival
  exact reachable.sound.distinct.apart one module other rival (Ne.symm different) found registered
    foundRival registeredRival (Or.inl ⟨Option.some.inj same, Or.inr ⟨unique, uniqueRival⟩⟩)

end Bus

/-! ## Who has been heard of -/

theorem History.met_of_inbound {history : List Moment} {arrival : Inbound}
    (here : arrival ∈ inbound history) :
    .met arrival.broker (.event (.message arrival.handle arrival.message)) ∈ history := by
  rcases List.mem_filterMap.mp here with ⟨moment, listed, same⟩
  unfold Moment.inbound? at same
  split at same
  · cases same
    exact listed
  all_goals cases same

/-- One is told to be there while another is registered. -/
def Moment.Shows (watcher handle : Handle) : Moment -> Prop
  | .met broker occasion =>
      (broker.meet occasion).modules.isRegistered watcher = true ∧
        .entered handle ∈ (Moment.met broker occasion).notices
  | .delivered _ => False

/-- One was told to be there while another was registered. -/
def History.Shown (watcher handle : Handle) (history : List Moment) : Prop :=
  ∃ moment ∈ history, moment.Shows watcher handle

theorem History.shown_append {watcher handle : Handle} {first second : List Moment} :
    Shown watcher handle (first ++ second) ↔
      Shown watcher handle first ∨ Shown watcher handle second := by
  unfold Shown
  simp only [List.mem_append, or_and_right, exists_or]

theorem History.shown_singleton {watcher handle : Handle} {moment : Moment} :
    Shown watcher handle [moment] ↔ moment.Shows watcher handle := by
  unfold Shown
  simp

/-- Whoever is let in is shown to all who are registered then. -/
theorem Broker.Sound.shows {broker : Broker} {config : Config} (sound : broker.Sound config)
    {occasion : Occasion} {watcher handle : Handle}
    (watching : (broker.meet occasion).modules.isRegistered watcher = true)
    (was : ¬ broker.modules.isRegistered handle = true)
    (is : (broker.meet occasion).modules.isRegistered handle = true) :
    (Moment.met broker occasion).Shows watcher handle := by
  refine ⟨watching, ?_⟩
  have census := (announced_meet sound occasion).census sound.modules
  show .entered handle ∈ (broker.notices occasion).map (Notice.map Prod.fst)
  generalize (broker.notices occasion).map (Notice.map Prod.fst) = notices at census
  cases census with
  | entrances handles now => exact List.mem_map_of_mem (((now handle).mp is).resolve_left was)
  | departures handles distinct present now => exact absurd ((now handle).mp is).1 was

namespace Bus

open Broker

variable {behaviour : Behaviour σ} {config : Config} {bus after : Bus σ}
  {watcher handle : Handle} {since : List Moment} {broker : Broker} {occasion : Occasion}
  {pending : Pending} {outbox : List Pending}

namespace Reachable

/-- What a run has met it has met in one of its states. -/
theorem exists_of_met (reachable : bus.Reachable behaviour config)
    (here : .met broker occasion ∈ bus.history) :
    ∃ earlier : Bus σ, earlier.Reachable behaviour config ∧ earlier.broker = broker ∧
      (earlier.step behaviour (.occasion occasion)).history <+: bus.history := by
  induction reachable using stepwise with
  | start started queues => cases here
  | @met bus reachable ih now =>
      rcases List.mem_append.mp here with before | new
      · rcases ih before with ⟨earlier, run, same, early⟩
        exact ⟨earlier, run, same, early.trans (List.prefix_append ..)⟩
      · cases List.mem_singleton.mp new
        exact ⟨bus, reachable, rfl, List.prefix_refl _⟩
  | readers reachable ih queues => exact ih here
  | @delivered bus pending outbox reachable ih next =>
      have history := congrArg Bus.history (deliver_of_cons behaviour next)
      rcases List.mem_append.mp (history ▸ here) with before | now
      · rcases ih before with ⟨earlier, run, same, early⟩
        refine ⟨earlier, run, same, early.trans ?_⟩
        exact history ▸ List.prefix_append ..
      · cases List.mem_singleton.mp now

/-- Whoever was registered when something happened, or right after it, was let in. -/
theorem granted_of_met (reachable : bus.Reachable behaviour config)
    (here : .met broker occasion ∈ bus.history)
    (registered : broker.modules.isRegistered handle = true ∨
      (broker.meet occasion).modules.isRegistered handle = true) :
    granted handle bus.history ≠ [] := by
  rcases reachable.exists_of_met here with ⟨earlier, run, rfl, rest, all⟩
  have admitted := (run.granted_step (.occasion occasion) handle).mpr
    (registered.imp_left run.granted_of_isRegistered)
  rw [← all, granted_append]
  exact List.append_ne_nil_of_left_ne_nil admitted _

/-- The admission of a connection is shown to itself, and to whoever was registered then. -/
theorem shown_of_admission (reachable : bus.Reachable behaviour config) {admission : Inbound}
    (first : admission ∈ (granted handle bus.history).head?)
    (there : watcher = handle ∨ admission.broker.modules.isRegistered watcher = true) :
    Shown watcher handle bus.history := by
  rcases List.head?_eq_some_iff.mp first with ⟨rest, all⟩
  have here : admission ∈ granted handle bus.history := all ▸ List.mem_cons_self
  rcases exists_grant here with ⟨id, given⟩
  rcases mem_granted.mp here with ⟨inbound, rfl, _⟩
  have outside := (reachable.granted_cons all).1.unregistered
  have met := History.met_of_inbound inbound
  rcases reachable.exists_of_met met with ⟨earlier, run, same, _⟩
  have sound : admission.broker.Sound config := same ▸ run.sound
  have inside : (admission.broker.meet
      (.event (.message admission.handle admission.message))).modules.isRegistered
        admission.handle = true := isRegistered_of_grant? given
  refine ⟨_, met, sound.shows ?_ (Bool.eq_false_iff.mp outside) inside⟩
  rcases there with rfl | registered
  · exact inside
  · have different : watcher ≠ admission.handle := by
      rintro rfl
      rw [outside] at registered
      cases registered
    exact (ModuleTable.isRegistered_congr (get?_receive_of_ne different _)).trans registered

/-- Whoever was registered after a step and was let in before was registered before it. -/
theorem isRegistered_of_step (reachable : bus.Reachable behaviour config) (move : Move σ)
    (admitted : granted handle bus.history ≠ [])
    (after : (bus.step behaviour move).broker.modules.isRegistered handle = true) :
    bus.broker.modules.isRegistered handle = true := by
  by_contra unregistered
  rcases reachable.gone_of_granted admitted unregistered with ⟨had, gone⟩
  have still := (succeeds_step behaviour reachable.sound move).get?_eq_none had gone
  rcases ModuleTable.isRegistered_iff.mp after with ⟨module, found, _⟩
  cases still.symm.trans found

/-- Once all modules have been gone through, nobody is there who was not shown. -/
theorem shown_of_listing (reachable : bus.Reachable behaviour config) {now : Milliseconds}
    (polled : .met broker (.poll now) ∈ bus.history) (due : broker.isDirectoryDue now = true)
    (watched : broker.modules.isRegistered watcher = true)
    (watching : bus.broker.modules.isRegistered watcher = true)
    (registered : bus.broker.modules.isRegistered handle = true) :
    Shown watcher handle bus.history := by
  induction reachable using stepwise with
  | start started queues => cases polled
  | @met bus reachable ih occasion =>
      show Shown watcher handle (bus.history ++ [.met bus.broker occasion])
      rw [shown_append, shown_singleton]
      by_cases was : bus.broker.modules.isRegistered handle = true
      · rcases List.mem_append.mp polled with before | new
        · have watched := reachable.isRegistered_of_step (.occasion occasion)
            (reachable.granted_of_met before (Or.inl watched)) watching
          exact Or.inl (ih before watched was)
        · cases List.mem_singleton.mp new
          refine Or.inr ⟨watching, ?_⟩
          show .entered handle ∈ (bus.broker.notices (.poll now)).map (Notice.map Prod.fst)
          unfold notices
          dsimp only
          rw [if_pos due, List.map_map]
          rcases ModuleTable.isRegistered_iff.mp was with ⟨module, found, isModule⟩
          obtain rfl := ModuleTable.handle_of_get? found
          have among := reachable.sound.modules.mem_registered_iff.mpr ⟨found, isModule⟩
          exact List.mem_map.mpr ⟨module, among, rfl⟩
      · exact Or.inr (reachable.sound.shows watching was registered)
  | readers reachable ih queues => exact ih polled watching registered
  | @delivered bus pending outbox reachable ih next =>
      have history := congrArg Bus.history (deliver_of_cons behaviour next)
      have before := isRegistered_of_deliver reachable.sound next watching
      have was := isRegistered_of_deliver reachable.sound next registered
      show Shown watcher handle (bus.deliver behaviour).history
      rw [history, shown_append]
      rcases List.mem_append.mp (history ▸ polled) with listed | new
      · exact Or.inl (ih listed before was)
      · cases List.mem_singleton.mp new

end Reachable

/-! ## The list and the table -/

/-- What is in a queue about who is on the bus, and after it what waits in the outbox. -/
def outlook (format : Format) (bus : Bus σ) (watcher : Handle) : List (Notice ModuleId) :=
  tidings format (bus.contents watcher) ++ bus.broker.told

/-- On the list that is kept from it there are those registered modules that were shown. -/
def Mirrors (config : Config) (watcher : Handle) (bus : Bus σ) : Prop :=
  ∀ number, number ∈ directory ((bus.outlook config.format watcher).map (Notice.map some)) ↔
    ∃ handle, Shown watcher handle bus.history ∧
      bus.broker.modules.isRegistered handle = true ∧ assigned? handle bus.history = number

/-- Where nobody was shown the list is empty. -/
theorem Reachable.mirrors_of_ungranted (reachable : bus.Reachable behaviour config)
    (ungranted : granted watcher bus.history = []) (quiet : bus.broker.outbox = []) :
    Mirrors config watcher bus := by
  have blank : bus.outlook config.format watcher = [] := by
    unfold outlook Broker.told
    rw [(reachable.contents_of_ungranted ungranted).2, quiet]
    rfl
  intro number
  rw [blank]
  refine ⟨fun here => absurd here (Finset.notMem_empty number), ?_⟩
  rintro ⟨handle, ⟨moment, here, shows⟩, _⟩
  cases moment with
  | met broker occasion => exact absurd ungranted (reachable.granted_of_met here (Or.inr shows.1))
  | delivered delivery => exact shows.elim

/-- The list follows the table: who comes is entered, and who goes is struck out, and nobody
else with it. -/
theorem Mirrors.extend (mirrors : Mirrors config watcher bus)
    (reachable : bus.Reachable behaviour config)
    (exclusive : IsExclusive bus.history)
    (history : after.history = bus.history ++ since)
    (chronicles : Chronicles config bus since after)
    (shown : ∀ handle, Shown watcher handle since ↔ .entered handle ∈ chronicle since)
    (contents : tidings config.format (after.contents watcher) =
      tidings config.format (bus.contents watcher) ++ told config.format since) :
    Mirrors config watcher after := by
  have outlook : (after.outlook config.format watcher).map (Notice.map some) =
      (bus.outlook config.format watcher).map (Notice.map some) ++
        (chronicle since).map (Notice.map (assigned? · after.history)) := by
    unfold Bus.outlook
    rw [contents, List.append_assoc, List.map_append, chronicles.told, List.map_append,
      List.append_assoc]
  have kept : ∀ {handle}, bus.broker.modules.isRegistered handle = true ->
      assigned? handle after.history = assigned? handle bus.history := by
    intro handle was
    rcases ModuleTable.isRegistered_iff.mp was with ⟨module, found, registered⟩
    rw [history, reachable.assigned_of_before found registered,
      reachable.assigned_of_found found registered]
  have census := chronicles.census
  intro number
  simp only [outlook, history, shown_append, shown]
  rw [← history]
  generalize chronicle since = notices at census
  cases census with
  | entrances handles now =>
      have entered : ∀ {handle}, Notice.entered handle ∈ handles.map Notice.entered ↔
          handle ∈ handles := by simp
      rw [map_entered_list, mem_directory_append_entered, mirrors number, List.mem_map]
      constructor
      · rintro (⟨handle, before, was, same⟩ | ⟨handle, here, same⟩)
        · exact ⟨handle, Or.inl before, (now handle).mpr (Or.inl was), (kept was).trans same⟩
        · exact ⟨handle, Or.inr (entered.mpr here), (now handle).mpr (Or.inr here), same⟩
      · rintro ⟨handle, shownThen, is, same⟩
        by_cases here : handle ∈ handles
        · exact Or.inr ⟨handle, here, same⟩
        · have was := ((now handle).mp is).resolve_right here
          have before := shownThen.resolve_right fun now => here (entered.mp now)
          exact Or.inl ⟨handle, before, was, (kept was).symm.trans same⟩
  | departures handles distinct present now =>
      have nobody : ∀ {handle}, Notice.entered handle ∉ handles.map Notice.left := by simp
      rw [map_left_list, mem_directory_append_left, mirrors number, List.mem_map]
      constructor
      · rintro ⟨⟨handle, before, was, same⟩, others⟩
        have stays : handle ∉ handles := fun here =>
          others ⟨handle, here, (kept was).trans same⟩
        exact ⟨handle, Or.inl before, (now handle).mpr ⟨was, stays⟩, (kept was).trans same⟩
      · rintro ⟨handle, shownThen, is, same⟩
        rcases (now handle).mp is with ⟨was, stays⟩
        have before := shownThen.resolve_right nobody
        refine ⟨⟨handle, before, was, (kept was).symm.trans same⟩, ?_⟩
        -- Whoever has gone had another number.
        rintro ⟨other, gone, sameNumber⟩
        have there := present other gone
        have numbers : assigned? handle bus.history = assigned? other bus.history := by
          rw [← kept was, ← kept there, same, sameNumber]
        obtain rfl := reachable.eq_of_assigned exclusive was there numbers
        exact stays gone

theorem mirrors_met (reachable : bus.Reachable behaviour config)
    (exclusive : IsExclusive bus.history)
    (mirrors : Mirrors config watcher bus) (occasion : Occasion)
    (watching : (bus.broker.meet occasion).modules.isRegistered watcher = true) :
    Mirrors config watcher (bus.step behaviour (.occasion occasion)) := by
  refine mirrors.extend reachable exclusive rfl (chronicles_met reachable occasion) ?_ ?_
  · intro handle
    rw [shown_singleton]
    have only : chronicle [.met bus.broker occasion] =
        Moment.notices (.met bus.broker occasion) := List.append_nil _
    rw [only]
    exact and_iff_right watching
  · exact (List.append_nil _).symm

theorem mirrors_deliver (reachable : bus.Reachable behaviour config)
    (exclusive : IsExclusive bus.history)
    (mirrors : Mirrors config watcher bus) (next : bus.broker.outbox = pending :: outbox)
    (watched : bus.broker.modules.HasLogger watcher)
    (watching : (bus.deliver behaviour).broker.modules.contains watcher = true) :
    Mirrors config watcher (bus.step behaviour .deliver) := by
  have history := congrArg Bus.history (deliver_of_cons behaviour next)
  refine mirrors.extend reachable exclusive history (chronicles_deliver reachable next) ?_ ?_
  · intro handle
    rw [shown_singleton]
    refine iff_of_false id ?_
    simp [chronicle, Moment.notices]
  · show tidings config.format ((bus.deliver behaviour).contents watcher) = _
    rw [contents_deliver_of_logger reachable.sound next watched watching, tidings_append]
    rfl

/-- In runs in which everything is delivered before something happens, the list follows the
table from the moment on when the one who keeps it is let in. -/
theorem Orderly.mirrors (orderly : bus.Orderly behaviour config)
    (exclusive : IsExclusive bus.history)
    (watching : bus.broker.modules.HasLogger watcher) : Mirrors config watcher bus := by
  induction orderly using Orderly.stepwise with
  | start started queues =>
      rcases start_eq started with ⟨_, rfl⟩
      rcases watching with ⟨module, found, _⟩
      cases found
  | @met bus orderly ih quiet occasion timely =>
      have reachable := orderly.reachable
      have earlier : IsExclusive bus.history := exclusive.of_append
      have is := watching.isRegistered
      refine mirrors_met reachable earlier ?_ occasion is
      by_cases was : bus.broker.modules.isRegistered watcher = true
      · exact ih earlier (watching.before (succeeds_meet _ occasion) reachable.sound.modules was)
      · refine reachable.mirrors_of_ungranted ?_ quiet
        by_contra admitted
        exact was (reachable.isRegistered_of_step (.occasion occasion) admitted is)
  | @clock bus orderly ih reading =>
      have earlier : IsExclusive bus.history := exclusive.of_append
      exact mirrors_met orderly.reachable earlier (ih earlier watching) _ watching.isRegistered
  | readers orderly ih queues => exact ih exclusive watching
  | @delivered bus pending outbox orderly ih next =>
      have sound := orderly.reachable.sound
      have earlier : IsExclusive bus.history := exclusive_deliver next exclusive
      have was := isRegistered_of_deliver sound next watching.isRegistered
      have watched := watching.before (succeeds_step behaviour sound .deliver) sound.modules was
      exact mirrors_deliver orderly.reachable earlier (ih earlier watched) next watched
        watching.contains

/-- The modules that are listed are there. -/
theorem Mirrors.mem_iff (mirrors : Mirrors config watcher bus)
    (reachable : bus.Reachable behaviour config) (quiet : bus.broker.outbox = []) {id : ModuleId} :
    id ∈ directory (tidings config.format (bus.contents watcher)) ↔
      ∃ handle module, Shown watcher handle bus.history ∧
        bus.broker.modules.get? handle = some module ∧ module.isRegistered = true ∧
          module.id = id := by
  have read : bus.outlook config.format watcher =
      tidings config.format (bus.contents watcher) := by
    unfold outlook Broker.told
    rw [quiet]
    exact List.append_nil _
  rw [← mem_directory_map (Option.some_injective _), ← read, mirrors (some id)]
  constructor
  · rintro ⟨handle, shown, registered, number⟩
    rcases ModuleTable.isRegistered_iff.mp registered with ⟨module, found, isModule⟩
    rw [reachable.assigned_of_found found isModule] at number
    exact ⟨handle, module, shown, found, isModule, Option.some.inj number⟩
  · rintro ⟨handle, module, shown, found, isModule, rfl⟩
    exact ⟨handle, shown, ModuleTable.isRegistered_iff.mpr ⟨module, found, isModule⟩,
      reachable.assigned_of_found found isModule⟩

theorem Reachable.mem_idsInUse (reachable : bus.Reachable behaviour config) {id : ModuleId} :
    id ∈ bus.broker.modules.idsInUse ↔ ∃ handle module,
      bus.broker.modules.get? handle = some module ∧ module.isRegistered = true ∧
        module.id = id := by
  unfold ModuleTable.idsInUse
  rw [List.mem_map]
  constructor
  · rintro ⟨module, among, rfl⟩
    rcases reachable.sound.modules.mem_registered_iff.mp among with ⟨found, registered⟩
    exact ⟨module.handle, module, found, registered, rfl⟩
  · rintro ⟨handle, module, found, registered, rfl⟩
    exact ⟨module, ModuleTable.mem_registered.mpr ⟨ModuleTable.mem_of_get? found, registered⟩, rfl⟩

/-- A logger that enters the numbers it is told of, and strikes out those that it is told have
gone, has between two events only numbers of registered modules on its list: its own, those of
all who came later, and of all whatever as soon as they were gone through once.  This holds if
everybody asks to be the only one of its number.  And whether or not they do, each of the
manager's notices is about one connection: none is about a connection that was never let in,
and one that was is told to have gone when it has, once, and never to be there after that. -/
theorem Orderly.directory_reconstructed (orderly : bus.Orderly behaviour config)
    (exclusive : IsExclusive bus.history) :
    (∀ watcher logger, bus.broker.modules.get? watcher = some logger ->
      logger.isRegistered = true -> logger.isLogger = true -> bus.broker.outbox = [] ->
        let listed := directory (tidings config.format (bus.contents watcher))
        (∀ id ∈ listed, id ∈ bus.broker.modules.idsInUse) ∧
          logger.id ∈ listed ∧
          (∀ handle module, bus.broker.modules.get? handle = some module ->
            module.isRegistered = true -> ∀ admission ∈ (granted handle bus.history).head?,
              admission.broker.modules.isRegistered watcher = true -> module.id ∈ listed) ∧
          ∀ broker now, .met broker (.poll now) ∈ bus.history ->
            broker.isDirectoryDue now = true -> broker.modules.isRegistered watcher = true ->
              ∀ id, id ∈ listed ↔ id ∈ bus.broker.modules.idsInUse) ∧
      (tidings config.format ((taken bus.history ++ bus.broker.outbox).map Pending.outbound)).map
          (Notice.map some) =
        (chronicle bus.history).map (Notice.map (assigned? · bus.history)) ∧
      ∀ handle, (granted handle bus.history = [] -> about handle bus.history = []) ∧
        (granted handle bus.history ≠ [] -> ∃ more, about handle bus.history =
          List.replicate (more + 1) (.entered handle) ++
            if bus.broker.modules.isRegistered handle then [] else [.left handle]) := by
  have reachable := orderly.reachable
  refine ⟨?lists, ?chronicle, reachable.about_eq⟩
  case chronicle =>
    rw [← reachable.chronicle_eq, List.map_append, tidings_append]
    unfold History.told Broker.told
    rw [reachable.sound.config_eq]
  case lists =>
    intro watcher logger found registered isLogger quiet listed
    have mirrors := orderly.mirrors exclusive ⟨logger, found, registered, isLogger⟩
    have watching := ModuleTable.isRegistered_iff.mpr ⟨logger, found, registered⟩
    have lists : ∀ handle module, bus.broker.modules.get? handle = some module ->
        module.isRegistered = true -> Shown watcher handle bus.history -> module.id ∈ listed :=
      fun handle module found registered shown =>
        (mirrors.mem_iff reachable quiet).mpr ⟨handle, module, shown, found, registered, rfl⟩
    have there : ∀ id ∈ listed, id ∈ bus.broker.modules.idsInUse := by
      intro id here
      rcases (mirrors.mem_iff reachable quiet).mp here with ⟨handle, module, _, present⟩
      exact reachable.mem_idsInUse.mpr ⟨handle, module, present⟩
    refine ⟨there, ?own, ?later, ?all⟩
    case own =>
      rcases List.exists_cons_of_ne_nil (reachable.granted_of_isRegistered watching) with
        ⟨admission, rest, admitted⟩
      have first : admission ∈ (granted watcher bus.history).head? :=
        List.head?_eq_some_iff.mpr ⟨rest, admitted⟩
      exact lists watcher logger found registered
        (reachable.shown_of_admission first (Or.inl rfl))
    case later =>
      intro handle module found registered admission first watched
      exact lists handle module found registered
        (reachable.shown_of_admission first (Or.inr watched))
    case all =>
      intro broker now polled due watched id
      refine ⟨there id, fun used => ?_⟩
      rcases reachable.mem_idsInUse.mp used with ⟨handle, module, found, registered, rfl⟩
      have is := ModuleTable.isRegistered_iff.mpr ⟨module, found, registered⟩
      exact lists handle module found registered
        (reachable.shown_of_listing polled due watched watching is)

/-- A module was there before the logger, and another one came after it; the directory was told;
and when the first module had left a newcomer asked for its number. -/
def visited : Bus (Handle -> Nat) :=
  (vacant 40).run QueueRule.bounded.each
    (joining 1 7 false ++ List.replicate 2 .deliver ++ joining 2 0 true ++
      List.replicate 2 .deliver ++ [.occasion (.poll 5000)] ++ List.replicate 4 .deliver ++
      joining 3 8 false ++ List.replicate 2 .deliver ++
      [.occasion (.event (.message 1
        { header := { messageType := MessageType.disconnect }, timecode := none, payload := [] }))] ++
      [.deliver] ++ joining 4 7 false ++ List.replicate 2 .deliver)

theorem visited_orderly : visited.Orderly QueueRule.bounded.each {} :=
  Orderly.run (.start rfl _) (by decide +kernel)

theorem directory_reconstructed_of_visited :
    visited.broker.modules.idsInUse = [100, 8, 7] ∧
      (∀ id, id ∈ directory (tidings (Config.format {}) (visited.contents 2)) ↔
        id ∈ [100, 8, 7]) ∧
      visited.broker.modules.isRegistered 1 = false ∧
      ∃ more, about 1 visited.history = List.replicate (more + 1) (.entered 1) ++ [.left 1] := by
  have quiet : visited.broker.outbox = [] := by decide +kernel
  have exclusive : IsExclusive visited.history := by decide +kernel
  have used : visited.broker.modules.idsInUse = [100, 8, 7] := by decide +kernel
  have gone : visited.broker.modules.isRegistered 1 = false := by decide +kernel
  have admitted : granted 1 visited.history ≠ [] :=
    List.ne_nil_of_length_pos (by decide +kernel)
  have isLogger : (visited.broker.modules.get? 2).map
      (fun module => (module.isRegistered, module.isLogger)) = some (true, true) := by
    decide +kernel
  have polled : visited.history.any (fun
      | .met broker (.poll now) =>
          broker.isDirectoryDue now && broker.modules.isRegistered 2
      | _ => false) = true := by decide +kernel
  rcases Option.map_eq_some_iff.mp isLogger with ⟨logger, found, both⟩
  rcases visited_orderly.directory_reconstructed exclusive with ⟨lists, _, shares⟩
  rcases lists 2 logger found (congrArg Prod.fst both) (congrArg Prod.snd both) quiet with
    ⟨_, _, _, all⟩
  refine ⟨used, ?_, gone, ?_⟩
  · rcases List.any_eq_true.mp polled with ⟨moment, here, isPoll⟩
    split at isPoll
    · next broker now =>
      rcases Bool.and_eq_true_iff.mp isPoll with ⟨due, watched⟩
      rw [← used]
      exact all broker now here due watched
    · cases isPoll
  · have share := (shares 1).2 admitted
    rwa [gone] at share

end Bus

end MessageBus
