import MessageBus.Proofs.Notices

namespace MessageBus

open Wire History

/-!
# Whom the notices are about

A notice names its subject by a number, which somebody else may have had before, so frames
alone do not say which connection they are about.  The history of a run does.  What is told
when something happens is `Broker.notices`, and a module that cannot be reached any more is
told to have gone when its frame is lost.  Put together this is the `History.chronicle` of
a run, in which connections stand and not numbers.

That the frames of a run say what its chronicle says is `Bus.Reachable.chronicle_eq`; no
order of events is needed for it, because the outbox is a queue.  How the chronicle follows
the table of modules is `Broker.Census`: at each step some are told to be there, who then
are, or some are told to have gone, who were there before.  The share of one connection in
the chronicle (`Bus.Reachable.about_eq`) is then a matter of what its place can be: not yet
let in, registered, or gone for good.
-/

/-! ## Modules that a delivery costs their places -/

/-- Those that were lost at a delivery. -/
def Delivery.lost (delivery : Delivery) : List Handle :=
  (delivery.attempts.filter fun attempt => !attempt.2.isOpen).map Prod.fst

theorem Delivery.lost_cons (pending : Pending) (handle : Handle) (outcome : Outcome)
    (attempts : List (Handle × Outcome)) :
    Delivery.lost ⟨pending, (handle, outcome) :: attempts⟩ =
      (if outcome.isOpen then [] else [handle]) ++ Delivery.lost ⟨pending, attempts⟩ := by
  unfold lost
  cases opened : outcome.isOpen with
  | true => simp [opened]
  | false => simp [opened]

namespace Broker

variable {broker before after : Broker} {handle other : Handle} {module : Module}
  {config : Config}

theorem told_settle (found : broker.modules.get? handle = some module)
    (registered : module.isRegistered = true) (header : Header) (outcome : Outcome) :
    (broker.settle handle header outcome).told =
      broker.told ++ if outcome.isOpen then [] else [.left module.id] := by
  have lost : ∀ cause, (broker.fail handle header cause).told = broker.told ++ [.left module.id] := by
    intro cause
    have removed := told_remove found (.lost cause)
    rw [registered, if_pos rfl] at removed
    unfold fail
    rw [found]
    exact (told_notifyFailure _ _ _).trans removed
  cases outcome with
  | delivered => exact (List.append_nil _).symm
  | full =>
      unfold settle drop
      rw [found]
      exact (told_notifyFailure _ _ _).trans (List.append_nil _).symm
  | closed => exact lost _
  | timedOut => exact lost _

namespace Course

variable {behaviour : Behaviour σ} {pending : Pending} {handles : List Handle} {queues : σ}
  {swept : Swept σ}

theorem mem_of_lost (course : Course behaviour pending handles queues broker swept)
    (lost : other ∈ Delivery.lost ⟨pending, swept.attempts⟩) : other ∈ handles := by
  rcases List.mem_map.mp lost with ⟨⟨same, outcome⟩, attempted, rfl⟩
  exact course.mem_of_attempted (List.mem_of_mem_filter attempted)

/-- A delivery tells that those have left who were lost at it. -/
theorem told_eq (course : Course behaviour pending handles queues broker swept) :
    swept.broker.told.map (Notice.map some) = broker.told.map (Notice.map some) ++
      (Delivery.lost ⟨pending, swept.attempts⟩).map fun handle =>
        .left ((broker.modules.get? handle).map Module.id) := by
  induction course with
  | done queues broker => exact (List.append_nil _).symm
  | @offered handle rest _ _ broker module outcome swept found registered answered absent later ih =>
      have others : ∀ other ∈ Delivery.lost ⟨pending, swept.attempts⟩,
          (broker.settle handle pending.header outcome).modules.get? other =
            broker.modules.get? other := by
        intro other lost
        refine get?_settle_of_ne found _ _ fun same => absent ?_
        exact same ▸ later.mem_of_lost lost
      have behind : (Delivery.lost ⟨pending, swept.attempts⟩).map (fun other => Notice.left
            (((broker.settle handle pending.header outcome).modules.get? other).map Module.id)) =
          (Delivery.lost ⟨pending, swept.attempts⟩).map fun other =>
            .left ((broker.modules.get? other).map Module.id) :=
        List.map_congr_left fun other lost => by rw [others other lost]
      rw [ih, behind, told_settle found registered, Delivery.lost_cons, List.map_append,
        List.map_append, List.append_assoc]
      cases outcome.isOpen with
      | true => rfl
      | false => simp [found]

theorem isRegistered_iff (course : Course behaviour pending handles queues broker swept) :
    swept.broker.modules.isRegistered other = true ↔
      broker.modules.isRegistered other = true ∧
        other ∉ Delivery.lost ⟨pending, swept.attempts⟩ := by
  induction course with
  | done queues broker => simp [Delivery.lost]
  | @offered handle rest _ _ broker module outcome swept found registered answered absent later ih =>
      rw [ih, Delivery.lost_cons, List.mem_append, not_or]
      by_cases same : other = handle
      · subst same
        unfold ModuleTable.isRegistered
        rw [get?_settle_self found, found]
        cases outcome <;> simp [Outcome.record?, Outcome.isOpen, registered]
      · rw [ModuleTable.isRegistered_congr (get?_settle_of_ne found _ _ same)]
        cases outcome.isOpen <;> simp [same]

end Course

/-! ## The census -/

/-- What notices say about the table of modules: those that are told to be there are, and
those that are told to have gone are not there any more, but were.  About nobody else anything
has changed. -/
inductive Census (before after : Broker) : List (Notice Handle) -> Prop where
  | entrances (handles : List Handle)
      (now : ∀ handle, after.modules.isRegistered handle = true ↔
        before.modules.isRegistered handle = true ∨ handle ∈ handles) :
      Census before after (handles.map .entered)
  | departures (handles : List Handle) (distinct : handles.Nodup)
      (present : ∀ handle ∈ handles, before.modules.isRegistered handle = true)
      (now : ∀ handle, after.modules.isRegistered handle = true ↔
        before.modules.isRegistered handle = true ∧ handle ∉ handles) :
      Census before after (handles.map .left)

theorem Announced.census {notices : List (Notice (Handle × ModuleId))}
    (consistent : before.modules.Consistent) (announced : Announced before after notices) :
    Census before after (notices.map (Notice.map Prod.fst)) := by
  cases announced with
  | nothing told same =>
      exact .entrances [] fun handle => by simp [same handle]
  | @entered handle module told found registered others =>
      refine .entrances [handle] fun other => ?_
      by_cases same : other = handle
      · subst same
        have now := ModuleTable.isRegistered_iff.mpr ⟨module, found, registered⟩
        exact ⟨fun _ => Or.inr List.mem_cons_self, fun _ => now⟩
      · rw [others other same]
        simp [same]
  | @left handle module told found registered gone others =>
      have before := ModuleTable.isRegistered_iff.mpr ⟨module, found, registered⟩
      refine .departures [handle] (List.nodup_singleton handle) ?_ fun other => ?_
      · intro other here
        rwa [List.mem_singleton.mp here]
      · by_cases same : other = handle
        · subst same
          rw [ModuleTable.isRegistered_of_gone gone]
          simp
        · rw [others other same]
          simp [same]
  | listed told same =>
      have handles : (before.modules.registered.map fun module =>
            Notice.entered (module.handle, module.id)).map (Notice.map Prod.fst) =
          (before.modules.registered.map Module.handle).map .entered := by
        rw [List.map_map, List.map_map]
        rfl
      rw [handles]
      refine .entrances _ fun handle => ?_
      rw [same]
      refine ⟨Or.inl, fun either => either.elim id fun listed => ?_⟩
      rcases List.mem_map.mp listed with ⟨module, among, rfl⟩
      exact ModuleTable.isRegistered_iff.mpr ⟨module, consistent.mem_registered_iff.mp among⟩

end Broker

/-! ## The share of one connection -/

/-- The notices about one connection, if there is the same one about each of several. -/
theorem Notice.share_map {notice : Handle -> Notice Handle}
    (own : ∀ handle, (notice handle).who = handle) (handle : Handle) (handles : List Handle) :
    (handles.map notice).filter (·.who = handle) =
      List.replicate (handles.count handle) (notice handle) := by
  rw [List.filter_map, ← List.map_replicate, ← List.filter_eq]
  simp only [Function.comp_def, own]

/-- What is told about a connection that is registered before and after, or is not. -/
inductive Passage (handle : Handle) : Bool -> Bool -> List (Notice Handle) -> Prop where
  | outside : Passage handle false false []
  | comes (more : Nat) : Passage handle false true (List.replicate (more + 1) (.entered handle))
  | stays (more : Nat) : Passage handle true true (List.replicate more (.entered handle))
  | goes : Passage handle true false [.left handle]

theorem Broker.Census.passage {before after : Broker} {notices : List (Notice Handle)}
    (census : Census before after notices) (handle : Handle) :
    Passage handle (before.modules.isRegistered handle) (after.modules.isRegistered handle)
      (notices.filter (·.who = handle)) := by
  cases census with
  | entrances handles now =>
      rw [Notice.share_map (fun _ => rfl)]
      cases was : before.modules.isRegistered handle with
      | true =>
          rw [(now handle).mpr (Or.inl was)]
          exact .stays _
      | false =>
          by_cases here : handle ∈ handles
          · rw [(now handle).mpr (Or.inr here)]
            rcases Nat.exists_eq_add_one_of_ne_zero (List.count_pos_iff.mpr here).ne' with
              ⟨more, counted⟩
            rw [counted]
            exact .comes more
          · have outside : ¬ after.modules.isRegistered handle = true := fun is =>
              ((now handle).mp is).elim (fun wasThere => by simp [was] at wasThere) here
            rw [Bool.eq_false_of_not_eq_true outside, List.count_eq_zero.mpr here]
            exact .outside
  | departures handles distinct present now =>
      rw [Notice.share_map (fun _ => rfl)]
      by_cases here : handle ∈ handles
      · have gone : ¬ after.modules.isRegistered handle = true := fun is => ((now handle).mp is).2 here
        rw [present handle here, Bool.eq_false_of_not_eq_true gone,
          List.count_eq_one_of_mem distinct here]
        exact .goes
      · have same : after.modules.isRegistered handle = before.modules.isRegistered handle :=
          Bool.eq_iff_iff.mpr ((now handle).trans (and_iff_left here))
        rw [same, List.count_eq_zero.mpr here]
        cases before.modules.isRegistered handle with
        | true => exact .stays 0
        | false => exact .outside

/-- What was told about a connection that was let in or not, and is registered or not. -/
inductive Biography (handle : Handle) : Bool -> Bool -> List (Notice Handle) -> Prop where
  | outside : Biography handle false false []
  | there (more : Nat) : Biography handle true true (List.replicate (more + 1) (.entered handle))
  | gone (more : Nat) :
      Biography handle true false (List.replicate (more + 1) (.entered handle) ++ [.left handle])

/-- Nobody who has gone comes back, so it is enough to follow one step. -/
theorem Biography.append {handle : Handle} {admitted was is : Bool}
    {share more : List (Notice Handle)} (biography : Biography handle admitted was share)
    (passage : Passage handle was is more)
    (final : admitted = true -> was = false -> is = false) :
    Biography handle (admitted || is) is (share ++ more) := by
  cases biography with
  | outside =>
      cases passage with
      | outside => exact .outside
      | comes again => exact .there again
  | there earlier =>
      cases passage with
      | stays again =>
          rw [List.replicate_append_replicate, Nat.add_right_comm]
          exact .there _
      | goes => exact .gone earlier
  | gone earlier =>
      cases passage with
      | outside =>
          rw [List.append_nil]
          exact .gone earlier
      | comes again => cases final rfl rfl

/-! ## The chronicle of a run -/

def Moment.notices : Moment -> List (Notice Handle)
  | .met broker occasion => (broker.notices occasion).map (Notice.map Prod.fst)
  | .delivered delivery => delivery.lost.map .left

namespace History

/-- Who is told to have come or gone in a run, by connection. -/
def chronicle (history : List Moment) : List (Notice Handle) :=
  history.flatMap Moment.notices

theorem chronicle_append (first second : List Moment) :
    chronicle (first ++ second) = chronicle first ++ chronicle second :=
  List.flatMap_append

/-- The share of a connection in it. -/
def about (handle : Handle) (history : List Moment) : List (Notice Handle) :=
  (chronicle history).filter (·.who = handle)

theorem about_append (handle : Handle) (first second : List Moment) :
    about handle (first ++ second) = about handle first ++ about handle second := by
  unfold about
  rw [chronicle_append, List.filter_append]

/-- The notices among the frames that have left the outbox. -/
def told (format : Format) (history : List Moment) : List (Notice ModuleId) :=
  tidings format ((taken history).map Pending.outbound)

theorem told_append (format : Format) (first second : List Moment) :
    told format (first ++ second) = told format first ++ told format second := by
  unfold told
  rw [taken_append, List.map_append, tidings_append]

end History

namespace Bus

open Broker

variable {behaviour : Behaviour σ} {config : Config} {bus first second : Bus σ} {handle : Handle}
  {since : List Moment} {pending : Pending} {outbox : List Pending}

/-- What a stretch of a run adds to the notices is what its chronicle says. -/
structure Chronicles (config : Config) (first : Bus σ) (since : List Moment) (second : Bus σ) :
    Prop where
  told : (told config.format since ++ second.broker.told).map (Notice.map some) =
    first.broker.told.map (Notice.map some) ++
      (chronicle since).map (Notice.map (assigned? · second.history))
  census : Census first.broker second.broker (chronicle since)

theorem Reachable.assigned_of_before (reachable : bus.Reachable behaviour config) {module : Module}
    (found : bus.broker.modules.get? handle = some module)
    (registered : module.isRegistered = true) (since : List Moment) :
    assigned? handle (bus.history ++ since) = some module.id :=
  assigned?_of_append (reachable.assigned_of_found found registered)

theorem chronicles_met (reachable : bus.Reachable behaviour config) (occasion : Occasion) :
    Chronicles config bus [.met bus.broker occasion] (bus.step behaviour (.occasion occasion)) := by
  have announced := announced_meet reachable.sound occasion
  have only : chronicle [.met bus.broker occasion] =
      (bus.broker.notices occasion).map (Notice.map Prod.fst) := List.append_nil _
  refine ⟨?_, only ▸ announced.census reachable.sound.modules⟩
  show (bus.broker.meet occasion).told.map (Notice.map some) = _
  rw [only]
  show _ = _ ++ List.map (Notice.map (assigned? · (bus.history ++ [.met bus.broker occasion]))) _
  have after := reachable.step (.occasion occasion)
  generalize bus.broker.notices occasion = notices at announced
  cases announced with
  | nothing told same => rw [told]; simp
  | @entered handle module told found registered others =>
      have assigned : assigned? handle (bus.history ++ [.met bus.broker occasion]) =
        some module.id := after.assigned_of_found found registered
      rw [told, List.map_append]
      simp [assigned]
  | left told found registered gone others =>
      have assigned := reachable.assigned_of_before found registered [.met bus.broker occasion]
      rw [told, List.map_append]
      simp [assigned]
  | listed told same =>
      rw [told, List.map_append, List.map_map, List.map_map, List.map_map]
      congr 1
      refine List.map_congr_left fun module among => ?_
      rcases reachable.sound.modules.mem_registered_iff.mp among with ⟨found, registered⟩
      have assigned := reachable.assigned_of_before found registered [.met bus.broker occasion]
      simp [assigned]

theorem chronicles_deliver (reachable : bus.Reachable behaviour config)
    (next : bus.broker.outbox = pending :: outbox) :
    Chronicles config bus [.delivered ⟨pending, (bus.handOut behaviour pending outbox).attempts⟩]
      (bus.step behaviour .deliver) := by
  have course := course_handOut behaviour reachable.sound pending outbox
  let delivery : Delivery := ⟨pending, (bus.handOut behaviour pending outbox).attempts⟩
  have only : chronicle [.delivered delivery] = delivery.lost.map .left := List.append_nil _
  have same : (bus.step behaviour .deliver).broker = (bus.handOut behaviour pending outbox).broker :=
    congrArg Bus.broker (deliver_of_cons behaviour next)
  have history : (bus.step behaviour .deliver).history = bus.history ++ [.delivered delivery] :=
    congrArg Bus.history (deliver_of_cons behaviour next)
  have present : ∀ handle ∈ delivery.lost, bus.broker.modules.isRegistered handle = true :=
    fun handle lost => awaits_targets reachable.sound.modules _ _ handle (course.mem_of_lost lost)
  have numbers : (delivery.lost.map fun handle =>
        Notice.left ((bus.broker.modules.get? handle).map Module.id)) =
      (delivery.lost.map Notice.left).map
        (Notice.map (assigned? · (bus.history ++ [.delivered delivery]))) := by
    rw [List.map_map]
    refine List.map_congr_left fun handle lost => ?_
    rcases ModuleTable.isRegistered_iff.mp (present handle lost) with ⟨module, found, registered⟩
    have assigned := reachable.assigned_of_before found registered [.delivered delivery]
    simp [found, assigned]
  have waiting : bus.broker.told =
      told config.format [.delivered delivery] ++ told { bus.broker with outbox } := by
    unfold Broker.told
    rw [next, reachable.sound.config_eq, List.map_cons]
    exact tidings_append config.format [pending.outbound] _
  refine ⟨?_, ?_⟩
  · rw [only, history, same, waiting, List.map_append, List.map_append, course.told_eq, numbers,
      List.append_assoc]
  · rw [only, same]
    have distinct := attempts_nodup behaviour reachable.sound pending outbox
    exact .departures _ (distinct.sublist (List.filter_sublist.map _)) present
      fun handle => course.isRegistered_iff

/-- Every step adds to the notices what it adds to the chronicle. -/
theorem chronicles_step (reachable : bus.Reachable behaviour config) (move : Move σ) :
    ∃ since, bus.Extends since (bus.step behaviour move) ∧
      Chronicles config bus since (bus.step behaviour move) := by
  rcases extends_step behaviour reachable.sound move with ⟨since, stretch⟩
  refine ⟨since, stretch, ?_⟩
  have added : ∀ {moments}, (bus.step behaviour move).history = bus.history ++ moments ->
      moments = since := fun same => List.append_cancel_left (same.symm.trans stretch.history)
  have nothing : (bus.step behaviour move).broker = bus.broker ->
      (bus.step behaviour move).history = bus.history -> Chronicles config bus since
        (bus.step behaviour move) := by
    intro same history
    obtain rfl := added (history.trans (List.append_nil _).symm)
    refine ⟨?_, ?_⟩
    · rw [same]
      exact (List.append_nil _).symm
    · refine .entrances [] fun handle => ?_
      rw [same]
      simp
  cases move with
  | occasion occasion =>
      obtain rfl := added rfl
      exact chronicles_met reachable occasion
  | readers queues => exact nothing rfl rfl
  | deliver =>
      cases next : bus.broker.outbox with
      | nil =>
          have idle : bus.step behaviour .deliver = bus := deliver_of_nil behaviour next
          exact nothing (congrArg Bus.broker idle) (congrArg Bus.history idle)
      | cons pending outbox =>
          obtain rfl := added (congrArg Bus.history (deliver_of_cons behaviour next))
          exact chronicles_deliver reachable next

/-- The first request of a connection that is granted makes it a module. -/
theorem isRegistered_of_first (move : Move σ)
    (before : granted handle bus.history = [])
    (after : granted handle (bus.step behaviour move).history ≠ []) :
    (bus.step behaviour move).broker.modules.isRegistered handle = true := by
  cases move with
  | occasion occasion =>
      rcases granted_met handle bus.history bus.broker occasion with
        ⟨same, _⟩ | ⟨message, id, rfl, asked, _⟩
      · exact absurd (same.trans before) after
      · exact isRegistered_of_grant? asked
  | readers queues => exact absurd before after
  | deliver =>
      cases next : bus.broker.outbox with
      | nil =>
          have idle : bus.step behaviour .deliver = bus := deliver_of_nil behaviour next
          exact absurd (idle.symm ▸ before) after
      | cons pending outbox => exact absurd ((granted_deliver next).trans before) after

namespace Reachable

/-- Whoever is let in by a step is registered after it, and whoever is registered was let in. -/
theorem granted_step (reachable : bus.Reachable behaviour config) (move : Move σ)
    (handle : Handle) :
    granted handle (bus.step behaviour move).history ≠ [] ↔
      granted handle bus.history ≠ [] ∨
        (bus.step behaviour move).broker.modules.isRegistered handle = true := by
  constructor
  · intro after
    refine or_iff_not_imp_left.mpr fun before => ?_
    exact isRegistered_of_first move (not_ne_iff.mp before) after
  · rintro (before | registered)
    · rcases extends_step behaviour reachable.sound move with ⟨since, stretch⟩
      rw [stretch.history, granted_append]
      exact List.append_ne_nil_of_left_ne_nil before _
    · exact (reachable.step move).granted_of_isRegistered registered

/-- The notices of a run are those of its chronicle, in the same order, and each has the
number that its subject was given. -/
theorem chronicle_eq (reachable : bus.Reachable behaviour config) :
    (told config.format bus.history ++ bus.broker.told).map (Notice.map some) =
      (chronicle bus.history).map (Notice.map (assigned? · bus.history)) := by
  induction reachable with
  | start started queues =>
      rcases start_eq started with ⟨_, rfl⟩
      rfl
  | @step bus reachable move ih =>
      rcases chronicles_step reachable move with ⟨since, stretch, chronicles⟩
      -- A number that a connection was given is not changed by what happens later.
      have earlier : (chronicle bus.history).map (Notice.map (assigned? · bus.history)) =
          (chronicle bus.history).map
            (Notice.map (assigned? · (bus.step behaviour move).history)) := by
        refine List.map_congr_left fun notice here => Notice.map_congr ?_
        have listed := ih ▸ List.mem_map_of_mem here
        rcases List.mem_map.mp listed with ⟨numbered, _, same⟩
        have number : assigned? notice.who bus.history = some numbered.who := by
          rw [← Notice.who_map (assigned? · bus.history), ← same, Notice.who_map]
        rw [number, stretch.history, assigned?_of_append number]
      rw [stretch.history, told_append, List.append_assoc, List.map_append, chronicles.told,
        ← List.append_assoc, ← List.map_append, ih, earlier, chronicle_append, List.map_append,
        stretch.history]

/-- Whoever was let in and is not registered is gone, and had its handle. -/
theorem gone_of_granted (reachable : bus.Reachable behaviour config)
    (admitted : granted handle bus.history ≠ [])
    (unregistered : ¬ bus.broker.modules.isRegistered handle = true) :
    handle ≤ bus.broker.modules.lastHandle ∧ bus.broker.modules.get? handle = none := by
  rcases List.exists_mem_of_ne_nil _ admitted with ⟨arrival, here⟩
  rcases exists_grant here with ⟨id, given⟩
  rcases reachable.hasOnly_of_granted here given with ⟨had, whoever⟩
  refine ⟨had, Option.eq_none_iff_forall_ne_some.mpr fun module found => unregistered ?_⟩
  exact ModuleTable.isRegistered_iff.mpr ⟨module, found, (whoever module found).1⟩

theorem biography (reachable : bus.Reachable behaviour config) (handle : Handle) :
    Biography handle (!(granted handle bus.history).isEmpty)
      (bus.broker.modules.isRegistered handle) (about handle bus.history) := by
  induction reachable with
  | start started queues =>
      rcases start_eq started with ⟨_, rfl⟩
      exact .outside
  | @step bus reachable move ih =>
      rcases chronicles_step reachable move with ⟨since, stretch, chronicles⟩
      have shares : about handle (bus.step behaviour move).history =
          about handle bus.history ++ (chronicle since).filter (·.who = handle) := by
        rw [stretch.history, about_append]
        rfl
      have admitted : (!(granted handle (bus.step behaviour move).history).isEmpty) =
          (!(granted handle bus.history).isEmpty ||
            (bus.step behaviour move).broker.modules.isRegistered handle) := by
        have step := reachable.granted_step move handle
        rw [Bool.eq_iff_iff]
        simpa using step
      rw [shares, admitted]
      refine ih.append (chronicles.census.passage handle) fun letIn unregistered => ?_
      have some : granted handle bus.history ≠ [] := by simpa using letIn
      rcases reachable.gone_of_granted some (Bool.eq_false_iff.mp unregistered) with ⟨had, gone⟩
      exact ModuleTable.isRegistered_of_gone (stretch.succeeds.get?_eq_none had gone)

/-- About a connection that was not let in nothing is told.  One that was is told to be there,
perhaps several times, and when it is gone it is told to have gone, once and at last. -/
theorem about_eq (reachable : bus.Reachable behaviour config) (handle : Handle) :
    (granted handle bus.history = [] -> about handle bus.history = []) ∧
      (granted handle bus.history ≠ [] -> ∃ more, about handle bus.history =
        List.replicate (more + 1) (.entered handle) ++
          if bus.broker.modules.isRegistered handle then [] else [.left handle]) := by
  have biography := reachable.biography handle
  generalize bus.broker.modules.isRegistered handle = is at biography
  generalize about handle bus.history = share at biography
  cases all : granted handle bus.history with
  | nil =>
      rw [all] at biography
      cases biography with
      | outside => exact ⟨fun _ => rfl, fun some => absurd rfl some⟩
  | cons first rest =>
      rw [all] at biography
      refine ⟨fun none => absurd none (List.cons_ne_nil _ _), fun _ => ?_⟩
      cases biography with
      | there more => exact ⟨more, (List.append_nil _).symm⟩
      | gone more => exact ⟨more, rfl⟩

end Reachable

end Bus

end MessageBus
