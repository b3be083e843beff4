import MessageBus.Proofs.Calls
import MessageBus.Proofs.Forwarding
import MessageBus.Proofs.Isolation
import MessageBus.Proofs.Registries

namespace MessageBus

open Wire

/-!
# Requests and what comes of them

What a connection may ask for is decided by the broker as it is when it reads the message,
and `Inbound.grant?` says how it decides and under which number.  The history of a run
therefore says which requests of a connection were granted.  Everything about
acknowledgements is told by this list: those that were ever written for the connection are
one for each of its members, in their order, all with the number that the first of them
has assigned (`Bus.Reachable.answers_eq`, `Bus.Reachable.assigned`).

One thing is not told by it.  That the first frame which is offered to a module is the
acknowledgement of its own admission needs that nothing is left in the outbox when the
module is let in, for a logger gets whatever leaves the outbox from then on.  A manager
delivers everything that one event has led to before it looks at the next, and a run of
this kind is `Bus.Orderly`.  Between two events such a run stops wherever it likes, so
the outbox is in general not empty, but then it holds only what the last event has led to.
-/

namespace Inbound

/-- The number under which what was asked for is granted, if it is. -/
def grant? (inbound : Inbound) : Option ModuleId :=
  inbound.broker.grant? inbound.handle inbound.message

/-- The acknowledgement of it. -/
def answer? (inbound : Inbound) : Option Pending :=
  inbound.grant?.map (inbound.broker.acknowledgement inbound.handle)

/-- A connection that was not a module has asked to be one. -/
structure IsAdmission (inbound : Inbound) : Prop where
  unregistered : inbound.broker.modules.isRegistered inbound.handle = false
  asked : ∃ request,
    Request.classify inbound.broker.schemas inbound.message = .ok (.connect request)

/-- A module has asked for something that is answered. -/
structure IsService (inbound : Inbound) : Prop where
  registered : inbound.broker.modules.isRegistered inbound.handle = true
  asked : ∃ request, Request.classify inbound.broker.schemas inbound.message = .ok request ∧
    request.isAnswered = true

/-- A connection that was not a module has asked to be one, and was turned away. -/
structure IsRefused (inbound : Inbound) : Prop where
  present : inbound.broker.modules.contains inbound.handle = true
  unregistered : inbound.broker.modules.isRegistered inbound.handle = false
  turnedAway : ∃ request cause identities,
    Request.classify inbound.broker.schemas inbound.message = .ok (.connect request) ∧
      inbound.broker.modules.chooseId inbound.broker.identities inbound.handle request
        inbound.broker.config.identity.dynamicStart = (.error cause, identities)

end Inbound

namespace History

/-- The requests of a connection that were granted. -/
def granted (handle : Handle) (history : List Moment) : List Inbound :=
  (inbound history).filter fun arrival => arrival.handle = handle ∧ arrival.grant?.isSome

/-- The number that a connection was given. -/
def assigned? (handle : Handle) (history : List Moment) : Option ModuleId :=
  (granted handle history).head?.bind Inbound.grant?

/-- What was offered to a module, and what became of it. -/
def offers (handle : Handle) (history : List Moment) : List (Pending × Outcome) :=
  history.flatMap fun
    | .delivered delivery =>
        (delivery.attempts.filter (·.1 = handle)).map fun attempt => (delivery.pending, attempt.2)
    | .met _ _ => []

theorem granted_append (handle : Handle) (first second : List Moment) :
    granted handle (first ++ second) = granted handle first ++ granted handle second := by
  unfold granted
  rw [inbound_append, List.filter_append]

theorem offers_append (handle : Handle) (first second : List Moment) :
    offers handle (first ++ second) = offers handle first ++ offers handle second :=
  List.flatMap_append

/-- What is met and inbound is a message. -/
theorem eq_of_inbound_met {broker : Broker} {occasion : Occasion} {arrival : Inbound}
    (here : arrival ∈ inbound [.met broker occasion]) :
    ∃ source message, occasion = .event (.message source message) ∧
      arrival = ⟨broker, source, message⟩ := by
  cases occasion with
  | event event =>
      cases event with
      | message source message => exact ⟨source, message, rfl, List.mem_singleton.mp here⟩
      | ended source cause => cases here
  | arrival peer => cases here
  | poll now => cases here
  | upkeep clock => cases here

theorem mem_granted {handle : Handle} {history : List Moment} {arrival : Inbound} :
    arrival ∈ granted handle history ↔
      arrival ∈ inbound history ∧ arrival.handle = handle ∧ arrival.grant?.isSome = true := by
  unfold granted
  rw [List.mem_filter, decide_eq_true_eq]

theorem exists_grant {handle : Handle} {history : List Moment} {arrival : Inbound}
    (here : arrival ∈ granted handle history) : ∃ id, arrival.grant? = some id :=
  Option.isSome_iff_exists.mp (mem_granted.mp here).2.2

/-- A moment adds a request to those that were granted, if it is one. -/
theorem granted_met (handle : Handle) (history : List Moment) (broker : Broker)
    (occasion : Occasion) :
    (granted handle (history ++ [.met broker occasion]) = granted handle history ∧
        ∀ message, occasion = .event (.message handle message) ->
          broker.grant? handle message = none) ∨
      ∃ message id, occasion = .event (.message handle message) ∧
        broker.grant? handle message = some id ∧
        granted handle (history ++ [.met broker occasion]) =
          granted handle history ++ [⟨broker, handle, message⟩] := by
  rw [granted_append]
  cases occasion with
  | event event =>
      cases event with
      | message source message =>
          have only : inbound [.met broker (.event (.message source message))] =
              [⟨broker, source, message⟩] := rfl
          by_cases own : source = handle
          · subst own
            cases asked : broker.grant? source message with
            | none =>
                refine Or.inl ⟨?_, fun other same => ?_⟩
                · simp [granted, only, Inbound.grant?, asked]
                · cases same
                  exact asked
            | some id =>
                refine Or.inr ⟨message, id, rfl, asked, ?_⟩
                simp [granted, only, Inbound.grant?, asked]
          · refine Or.inl ⟨by simp [granted, only, own], fun other same => ?_⟩
            cases same
            exact absurd rfl own
      | ended source cause => exact Or.inl ⟨List.append_nil _, fun _ same => nomatch same⟩
  | arrival peer => exact Or.inl ⟨List.append_nil _, fun _ same => nomatch same⟩
  | poll now => exact Or.inl ⟨List.append_nil _, fun _ same => nomatch same⟩
  | upkeep clock => exact Or.inl ⟨List.append_nil _, fun _ same => nomatch same⟩

theorem offers_met (handle : Handle) (history : List Moment) (broker : Broker)
    (occasion : Occasion) :
    offers handle (history ++ [.met broker occasion]) = offers handle history :=
  (offers_append ..).trans (List.append_nil _)

theorem assigned?_of_append {handle : Handle} {first second : List Moment} {id : ModuleId}
    (given : assigned? handle first = some id) : assigned? handle (first ++ second) = some id := by
  unfold assigned? at given ⊢
  rw [granted_append]
  cases first : granted handle first with
  | nil =>
      rw [first] at given
      cases given
  | cons arrival rest =>
      rw [first] at given
      exact given

end History

open History

namespace Broker

variable {broker : Broker} {handle : Handle} {message : Message} {config : Config}

/-- Who is registered after a message was so before it, or was let in by it. -/
theorem isRegistered_of_receive
    (after : (broker.receive handle message).modules.isRegistered handle = true) :
    broker.modules.isRegistered handle = true ∨ (broker.grant? handle message).isSome = true := by
  rcases ModuleTable.isRegistered_iff.mp after with ⟨later, foundLater, registered⟩
  by_cases before : broker.modules.isRegistered handle = true
  · exact Or.inl before
  · have unregistered := Bool.eq_false_of_not_eq_true before
    have unchanged : (broker.receive handle message).modules ≠ broker.modules := by
      intro same
      rw [same] at after
      exact before after
    have stays : (broker.receive handle message).modules.get? handle ≠ none := by
      rw [foundLater]
      exact Option.some_ne_none _
    cases found : broker.modules.get? handle with
    | none =>
        refine absurd ?_ unchanged
        unfold receive
        rw [if_neg]
        rw [ModuleTable.contains_iff, found]
        exact fun present => by cases present.choose_spec
    | some module =>
        have blank : module.isRegistered = false :=
          (ModuleTable.isRegistered_of_get? found).symm.trans unregistered
        have present := ModuleTable.contains_iff.mpr ⟨module, found⟩
        cases understood : Request.classify broker.schemas message with
        | error error =>
            refine absurd ?_ unchanged
            unfold receive dispatch
            simp only [present, understood, if_true]
            rfl
        | ok request =>
            cases request with
            | connect request =>
                rcases chosen : broker.modules.chooseId broker.identities handle request
                  broker.config.identity.dynamicStart with ⟨rejection | id, identities⟩
                · exact absurd (get?_receive_refused unregistered understood chosen) stays
                · right
                  unfold grant? grants?
                  rw [found, understood]
                  dsimp only
                  rw [blank, ModuleTable.handle_of_get? found, chosen]
                  rfl
            | disconnect => exact absurd (get?_receive_disconnect understood) stays
            | subscribe | unsubscribe | pause | resume | moduleReady | setName | other =>
                refine absurd ?_ unchanged
                unfold receive dispatch
                simp only [present, understood, if_true, unregistered, Bool.false_eq_true, if_false]
                rfl

/-- Nothing is granted to somebody who is not there. -/
theorem present_of_grant? {id : ModuleId} (granted : broker.grant? handle message = some id) :
    ∃ module, broker.modules.get? handle = some module := by
  unfold grant? at granted
  split at granted
  · next module _ found _ => exact ⟨module, found⟩
  · cases granted

/-- Whoever is granted something is registered then. -/
theorem isRegistered_of_grant? {id : ModuleId} (granted : broker.grant? handle message = some id) :
    (broker.receive handle message).modules.isRegistered handle = true := by
  rcases found_of_grant? granted with ⟨module, found, registered, _⟩
  exact ModuleTable.isRegistered_iff.mpr ⟨module, found, registered⟩

/-- A newcomer is only let in, and a module is not let in again. -/
theorem asked_of_grant? {id : ModuleId} (granted : broker.grant? handle message = some id) :
    Inbound.IsAdmission ⟨broker, handle, message⟩ ∨ Inbound.IsService ⟨broker, handle, message⟩ := by
  rcases present_of_grant? granted with ⟨module, found⟩
  have registered := ModuleTable.isRegistered_of_get? found
  unfold grant? at granted
  rw [found] at granted
  cases asked : Request.classify broker.schemas message with
  | error error =>
      rw [asked] at granted
      cases granted
  | ok request =>
      rw [asked] at granted
      dsimp only at granted
      unfold grants? at granted
      split at granted
      · next isModule =>
        refine Or.inr ⟨registered.trans isModule, request, asked, ?_⟩
        cases request with
        | subscribe | unsubscribe | pause | resume | setName => rfl
        | connect | disconnect | moduleReady | other => cases granted
      · next isModule =>
        refine Or.inl ⟨registered.trans (Bool.eq_false_of_not_eq_true isModule), ?_⟩
        cases request with
        | connect request => exact ⟨request, asked⟩
        | subscribe | unsubscribe | pause | resume | setName | disconnect | moduleReady | other =>
            cases granted

/-- Who is registered after something has happened was so before, or was let in by it. -/
theorem isRegistered_of_meet (sound : broker.Sound config) {occasion : Occasion}
    (after : (broker.meet occasion).modules.isRegistered handle = true) :
    broker.modules.isRegistered handle = true ∨
      ∃ message, occasion = .event (.message handle message) ∧
        (broker.grant? handle message).isSome = true := by
  have kept : (broker.meet occasion).modules.get? handle = broker.modules.get? handle ->
      broker.modules.isRegistered handle = true := fun same =>
    (ModuleTable.isRegistered_congr same).symm.trans after
  cases occasion with
  | event event =>
      cases event with
      | message source message =>
          by_cases own : handle = source
          · subst own
            exact (isRegistered_of_receive after).imp_right fun asked => ⟨message, rfl, asked⟩
          · exact Or.inl (kept (get?_receive_of_ne own message))
      | ended source cause =>
          by_cases own : handle = source
          · subst own
            rcases ModuleTable.isRegistered_iff.mp after with ⟨module, found, _⟩
            rw [show (broker.meet (.event (.ended handle cause))).modules.get? handle = none from
              get?_remove_self broker handle _] at found
            cases found
          · exact Or.inl (kept (get?_remove_of_ne own _))
  | arrival peer =>
      by_cases own : handle = broker.modules.lastHandle + 1
      · rcases ModuleTable.isRegistered_iff.mp after with ⟨module, found, registered⟩
        have fresh := sound.modules.get?_of_lt (Nat.lt_succ_self broker.modules.lastHandle)
        rw [own, show (broker.meet (.arrival peer)).modules = (broker.modules.insert peer).2 from rfl,
          ModuleTable.get?_insert_self peer fresh] at found
        cases found
        cases registered
      · exact Or.inl (kept (ModuleTable.get?_insert_of_ne peer own))
  | poll now =>
      exact Or.inl (kept (congrArg (ModuleTable.get? · handle) (modules_report broker now)))
  | upkeep clock => exact Or.inl (kept rfl)

end Broker

/-- Where everybody is tried once, a module has only its own attempt. -/
theorem Delivery.filter_attempts {attempts : List (Handle × Outcome)} {handle : Handle}
    {outcome : Outcome} (distinct : (attempts.map Prod.fst).Nodup)
    (attempted : (handle, outcome) ∈ attempts) :
    attempts.filter (·.1 = handle) = [(handle, outcome)] := by
  induction attempts with
  | nil => cases attempted
  | cons first rest ih =>
      rcases List.nodup_cons.mp distinct with ⟨absent, later⟩
      rcases List.mem_cons.mp attempted with rfl | after
      · rw [List.filter_cons, if_pos (decide_eq_true rfl), List.filter_eq_nil_iff.mpr]
        intro other here
        rw [decide_eq_true_eq]
        exact fun same => absent (List.mem_map.mpr ⟨other, here, same⟩)
      · rw [List.filter_cons_of_neg, ih later after]
        rw [decide_eq_true_eq]
        exact fun same => absent (List.mem_map.mpr ⟨_, after, same.symm⟩)

namespace Bus

open Broker

variable {behaviour : Behaviour σ} {config : Config} {bus : Bus σ} {handle : Handle}
  {pending : Pending} {outbox : List Pending} {arrival : Inbound}

/-- What holds at the start, and is kept by what happens to the broker, by the readers and by
every delivery, holds in all runs. -/
theorem Reachable.stepwise {motive : ∀ bus : Bus σ, bus.Reachable behaviour config -> Prop}
    (start : ∀ {pid clock now broker} (started : Broker.start config pid clock now = .ok broker)
      (queues : σ), motive { broker, queues } (.start started queues))
    (met : ∀ {bus : Bus σ} (reachable : bus.Reachable behaviour config), motive bus reachable ->
      ∀ occasion, motive _ (reachable.step (.occasion occasion)))
    (readers : ∀ {bus : Bus σ} (reachable : bus.Reachable behaviour config),
      motive bus reachable -> ∀ queues, motive _ (reachable.step (.readers queues)))
    (delivered : ∀ {bus : Bus σ} {pending outbox} (reachable : bus.Reachable behaviour config),
      motive bus reachable -> bus.broker.outbox = pending :: outbox ->
        motive _ (reachable.step .deliver))
    (reachable : bus.Reachable behaviour config) : motive bus reachable := by
  induction reachable with
  | start started queues => exact start started queues
  | @step bus reachable move ih =>
      cases move with
      | occasion occasion => exact met reachable ih occasion
      | readers queues => exact readers reachable ih queues
      | deliver =>
          cases next : bus.broker.outbox with
          | nil =>
              have idle : bus.step behaviour .deliver = bus := deliver_of_nil behaviour next
              simp only [idle]
              exact ih
          | cons pending outbox => exact delivered reachable ih next

/-! ## What a delivery is to a module -/

theorem inbound_deliver (next : bus.broker.outbox = pending :: outbox) :
    inbound (bus.step behaviour .deliver).history = inbound bus.history := by
  show inbound (bus.deliver behaviour).history = _
  rw [deliver_of_cons behaviour next]
  exact inbound_delivered bus.history [_]

theorem granted_deliver (next : bus.broker.outbox = pending :: outbox) :
    granted handle (bus.step behaviour .deliver).history = granted handle bus.history :=
  congrArg (List.filter _) (inbound_deliver next)

theorem get?_deliver_of_not_mem (sound : bus.broker.Sound config)
    (next : bus.broker.outbox = pending :: outbox)
    (absent : handle ∉ bus.broker.targets pending.header pending.route) :
    (bus.deliver behaviour).broker.modules.get? handle = bus.broker.modules.get? handle := by
  rw [deliver_of_cons behaviour next]
  exact (course_handOut behaviour sound pending outbox).get?_of_not_mem absent

theorem isRegistered_of_deliver (sound : bus.broker.Sound config)
    (next : bus.broker.outbox = pending :: outbox)
    (after : (bus.deliver behaviour).broker.modules.isRegistered handle = true) :
    bus.broker.modules.isRegistered handle = true := by
  by_cases here : handle ∈ bus.broker.targets pending.header pending.route
  · exact awaits_targets sound.modules _ _ handle here
  · exact (ModuleTable.isRegistered_congr (get?_deliver_of_not_mem sound next here)).symm.trans after

/-- Nobody is tried twice. -/
theorem attempts_nodup (behaviour : Behaviour σ) (sound : bus.broker.Sound config)
    (pending : Pending) (outbox : List Pending) :
    ((bus.handOut behaviour pending outbox).attempts.map Prod.fst).Nodup := by
  rw [(course_handOut behaviour sound pending outbox).attempts_eq]
  exact targets_nodup sound.modules _ _

/-- A module either is not concerned, or is offered the frame once. -/
theorem offers_deliver (behaviour : Behaviour σ) (sound : bus.broker.Sound config)
    (next : bus.broker.outbox = pending :: outbox) (handle : Handle) :
    (handle ∉ bus.broker.targets pending.header pending.route ∧
        offers handle (bus.deliver behaviour).history = offers handle bus.history ∧
        received handle (bus.deliver behaviour).history = received handle bus.history) ∨
      ∃ outcome, handle ∈ bus.broker.targets pending.header pending.route ∧
        (handle, outcome) ∈ (bus.handOut behaviour pending outbox).attempts ∧
        offers handle (bus.deliver behaviour).history =
          offers handle bus.history ++ [(pending, outcome)] ∧
        received handle (bus.deliver behaviour).history =
          received handle bus.history ++ if outcome = .delivered then [pending] else [] := by
  have course := course_handOut behaviour sound pending outbox
  have distinct := attempts_nodup behaviour sound pending outbox
  have added : offers handle (bus.deliver behaviour).history = offers handle bus.history ++
      ((bus.handOut behaviour pending outbox).attempts.filter (·.1 = handle)).map
        fun attempt => (pending, attempt.2) := by
    rw [deliver_of_cons behaviour next]
    exact (offers_append ..).trans (congrArg _ (List.append_nil _))
  have put : received handle (bus.deliver behaviour).history = received handle bus.history ++
      if (handle, .delivered) ∈ (bus.handOut behaviour pending outbox).attempts then [pending]
      else [] := by
    rw [deliver_of_cons behaviour next]
    exact received_delivered ..
  rw [added, put]
  by_cases here : handle ∈ bus.broker.targets pending.header pending.route
  · right
    rw [← course.attempts_eq] at here
    rcases List.mem_map.mp here with ⟨⟨other, outcome⟩, attempted, own⟩
    rw [show other = handle from own] at attempted
    refine ⟨outcome, course.mem_of_attempted attempted, attempted, ?_, ?_⟩
    · rw [Delivery.filter_attempts distinct attempted]
      rfl
    · congr 1
      refine if_congr ⟨fun delivered => ?_, fun same => same ▸ attempted⟩ rfl rfl
      exact congrArg Prod.snd (List.inj_on_of_nodup_map distinct attempted delivered rfl)
  · have none : ∀ outcome, (handle, outcome) ∉ (bus.handOut behaviour pending outbox).attempts :=
      fun outcome attempted => here (course.mem_of_attempted attempted)
    refine Or.inl ⟨here, ?_, ?_⟩
    · rw [List.filter_eq_nil_iff.mpr fun attempt tried own => none attempt.2
        (of_decide_eq_true own ▸ tried)]
      exact List.append_nil _
    · rw [if_neg (none _), List.append_nil]

/-! ## Whose requests were granted -/

/-- What is answered to a connection is what was granted to it. -/
theorem answers_met (handle : Handle) (broker : Broker) (occasion : Occasion) :
    ((broker.answer? occasion).toList.filter (·.route = .direct handle)).map some =
      (granted handle [.met broker occasion]).map Inbound.answer? := by
  cases occasion with
  | event event =>
      cases event with
      | message source message =>
          have only : inbound [.met broker (.event (.message source message))] =
              [⟨broker, source, message⟩] := rfl
          unfold granted answer? Inbound.answer? Inbound.grant?
          rw [only]
          cases asked : broker.grant? source message with
          | none => simp [asked]
          | some id =>
              by_cases own : source = handle
              · subst own
                simp [asked, acknowledgement]
              · simp [asked, acknowledgement, own]
      | ended source cause => rfl
  | arrival peer => rfl
  | poll now => rfl
  | upkeep clock => rfl

namespace Reachable

/-- Whoever is registered was let in. -/
theorem granted_of_isRegistered (reachable : bus.Reachable behaviour config)
    (registered : bus.broker.modules.isRegistered handle = true) :
    granted handle bus.history ≠ [] := by
  induction reachable using stepwise with
  | start started queues =>
      rcases start_eq started with ⟨_, rfl⟩
      cases registered
  | @met bus reachable ih occasion =>
      rcases granted_met handle bus.history bus.broker occasion with
        ⟨same, ungranted⟩ | ⟨message, id, _, _, added⟩
      · refine fun none => ih ?_ (same.symm.trans none)
        refine (isRegistered_of_meet reachable.sound registered).resolve_right ?_
        rintro ⟨message, what, asked⟩
        rw [ungranted message what] at asked
        cases asked
      · refine fun none => List.append_ne_nil_of_right_ne_nil _ (List.cons_ne_nil _ _)
          (added.symm.trans none)
  | readers reachable ih queues => exact ih registered
  | delivered reachable ih next =>
      have before := isRegistered_of_deliver reachable.sound next registered
      exact granted_deliver next ▸ ih before

/-- A number under which a request was granted is that of whoever is there. -/
theorem hasOnly_of_granted (reachable : bus.Reachable behaviour config)
    (here : arrival ∈ granted handle bus.history) {id : ModuleId}
    (given : arrival.grant? = some id) : bus.broker.modules.HasOnly handle (·.id = id) := by
  have kept : ∀ {first second : ModuleTable}, first.HasOnly handle (·.id = id) ->
      first.Succeeds second -> second.HasOnly handle (·.id = id) := fun hasOnly succeeds =>
    hasOnly.of_succeeds (fun keeps same => keeps.id.trans same) succeeds
  induction reachable using stepwise with
  | start started queues => cases here
  | @met bus reachable ih occasion =>
      have succeeds := succeeds_meet bus.broker occasion
      rcases granted_met handle bus.history bus.broker occasion with
        ⟨same, _⟩ | ⟨message, number, rfl, asked, added⟩
      · exact kept (ih (same ▸ here)) succeeds
      · rcases List.mem_append.mp (added ▸ here) with before | new
        · exact kept (ih before) succeeds
        · cases List.mem_singleton.mp new
          obtain rfl : number = id := Option.some.inj (asked.symm.trans given)
          rcases found_of_grant? asked with ⟨module, found, registered, rfl⟩
          exact .of_get? (reachable.sound.meet _).modules found registered rfl
  | readers reachable ih queues => exact ih here
  | delivered reachable ih next =>
      have before := granted_deliver next ▸ here
      exact kept (ih before) (succeeds_step behaviour reachable.sound .deliver)

/-- All requests of a connection are granted under the number that it was given first. -/
theorem assigned (reachable : bus.Reachable behaviour config)
    (here : arrival ∈ granted handle bus.history) :
    arrival.grant? = assigned? handle bus.history := by
  induction reachable using stepwise with
  | start started queues => cases here
  | @met bus reachable ih occasion =>
      show arrival.grant? = assigned? handle (bus.history ++ [.met bus.broker occasion])
      rcases granted_met handle bus.history bus.broker occasion with
        ⟨same, _⟩ | ⟨message, id, what, asked, added⟩
      · unfold assigned?
        rw [same]
        exact ih (same ▸ here)
      · cases before : granted handle bus.history with
        | nil =>
            unfold assigned?
            rw [before] at added
            rw [added]
            cases List.mem_singleton.mp (added ▸ here)
            rfl
        | cons first rest =>
            -- The number of the first request is that of whoever is answered now.
            rcases exists_grant (before ▸ List.mem_cons_self : first ∈ granted handle bus.history)
              with ⟨number, given⟩
            have known : assigned? handle bus.history = some number := by
              unfold assigned?
              rw [before]
              exact given
            rw [assigned?_of_append known]
            rcases List.mem_append.mp (added ▸ here) with old | new
            · exact (ih (before ▸ old)).trans known
            · cases List.mem_singleton.mp new
              have first : first ∈ granted handle
                  (bus.step behaviour (.occasion occasion)).history :=
                added ▸ List.mem_append_left _ (before ▸ List.mem_cons_self)
              have hasOnly := (reachable.step (.occasion occasion)).hasOnly_of_granted first given
              subst what
              rcases found_of_grant? asked with ⟨module, found, _, rfl⟩
              exact asked.trans (congrArg some (hasOnly.2 module found).2)
  | readers reachable ih queues => exact ih here
  | delivered reachable ih next =>
      unfold assigned?
      rw [granted_deliver next] at here ⊢
      exact ih here

/-- The number that a connection was given is the number of its module. -/
theorem assigned_of_found (reachable : bus.Reachable behaviour config) {module : Module}
    (found : bus.broker.modules.get? handle = some module)
    (registered : module.isRegistered = true) :
    assigned? handle bus.history = some module.id := by
  have some := reachable.granted_of_isRegistered
    (ModuleTable.isRegistered_iff.mpr ⟨module, found, registered⟩)
  rcases List.exists_cons_of_ne_nil some with ⟨first, rest, all⟩
  have here : first ∈ granted handle bus.history := all ▸ List.mem_cons_self
  rcases exists_grant here with ⟨id, given⟩
  rw [← reachable.assigned here, given, ((reachable.hasOnly_of_granted here given).2 module found).2]

/-- A connection is let in by the first request of it that is granted, and by no other. -/
theorem granted_cons (reachable : bus.Reachable behaviour config) {first : Inbound}
    {rest : List Inbound} (all : granted handle bus.history = first :: rest) :
    first.IsAdmission ∧ ∀ later ∈ rest, later.IsService := by
  induction reachable using stepwise generalizing first rest with
  | start started queues => cases all
  | @met bus reachable ih occasion =>
      rcases granted_met handle bus.history bus.broker occasion with
        ⟨same, _⟩ | ⟨message, id, rfl, asked, added⟩
      · exact ih (same.symm.trans all)
      · have split := added.symm.trans all
        cases before : granted handle bus.history with
        | nil =>
            rw [before] at split
            cases split
            refine ⟨(asked_of_grant? asked).resolve_right fun service => ?_, List.forall_mem_nil _⟩
            exact reachable.granted_of_isRegistered service.registered before
        | cons known others =>
            rw [before] at split
            obtain ⟨rfl, rfl⟩ := List.cons.inj split
            rcases ih before with ⟨outside, inside⟩
            refine ⟨outside, fun later here => ?_⟩
            rcases List.mem_append.mp here with old | new
            · exact inside later old
            · cases List.mem_singleton.mp new
              refine (asked_of_grant? asked).resolve_left fun admission => ?_
              have here : known ∈ granted handle bus.history := before ▸ List.mem_cons_self
              rcases exists_grant here with ⟨number, given⟩
              rcases present_of_grant? asked with ⟨module, found⟩
              have registered := ((reachable.hasOnly_of_granted here given).2 module found).1
              exact Bool.false_ne_true (admission.unregistered.symm.trans
                (ModuleTable.isRegistered_iff.mpr ⟨module, found, registered⟩))
  | readers reachable ih queues => exact ih all
  | delivered reachable ih next => exact ih ((granted_deliver next).symm.trans all)

/-- As long as no request of a connection was granted, nothing is put into its queue. -/
theorem contents_of_ungranted (reachable : bus.Reachable behaviour config)
    (ungranted : granted handle bus.history = []) :
    offers handle bus.history = [] ∧ bus.contents handle = [] := by
  rw [reachable.contents_eq handle, List.map_eq_nil_iff]
  induction reachable using stepwise with
  | start started queues => exact ⟨rfl, rfl⟩
  | @met bus reachable ih occasion =>
      show offers handle (bus.history ++ [.met bus.broker occasion]) = [] ∧
        received handle (bus.history ++ [.met bus.broker occasion]) = []
      rw [offers_met, received_met]
      have split : granted handle bus.history ++ granted handle [.met bus.broker occasion] = [] :=
        (granted_append ..).symm.trans ungranted
      exact ih (List.append_eq_nil_iff.mp split).1
  | readers reachable ih queues => exact ih ungranted
  | @delivered bus pending outbox reachable ih next =>
      have before := (granted_deliver next).symm.trans ungranted
      show offers handle (bus.deliver behaviour).history = [] ∧
        received handle (bus.deliver behaviour).history = []
      rcases offers_deliver behaviour reachable.sound next handle with ⟨_, same, sameReceived⟩ | ⟨_, here, _⟩
      · rw [same, sameReceived]
        exact ih before
      · exact absurd before (reachable.granted_of_isRegistered
          (awaits_targets reachable.sound.modules _ _ handle here))

/-- Whoever was turned away is gone, and nothing is ever granted to it. -/
theorem gone_of_refused (reachable : bus.Reachable behaviour config)
    (here : arrival ∈ inbound bus.history) (own : arrival.handle = handle)
    (refused : arrival.IsRefused) :
    handle ≤ bus.broker.modules.lastHandle ∧ bus.broker.modules.get? handle = none ∧
      granted handle bus.history = [] := by
  induction reachable using stepwise with
  | start started queues => cases here
  | @met bus reachable ih occasion =>
      have succeeds := succeeds_meet bus.broker occasion
      suffices gone : handle ≤ bus.broker.modules.lastHandle ∧
          (bus.broker.meet occasion).modules.get? handle = none ∧
          granted handle bus.history = [] by
        rcases gone with ⟨given, gone, ungranted⟩
        refine ⟨Nat.le_trans given succeeds.lastHandle_le, gone, ?_⟩
        rcases granted_met handle bus.history bus.broker occasion with
          ⟨same, _⟩ | ⟨message, id, rfl, asked, _⟩
        · exact same.trans ungranted
        · rcases found_of_grant? asked with ⟨module, found, _⟩
          exact absurd (gone.symm.trans found) (Option.some_ne_none module).symm
      have split : arrival ∈ inbound bus.history ++ inbound [.met bus.broker occasion] :=
        inbound_append bus.history _ ▸ here
      rcases List.mem_append.mp split with before | now
      · rcases ih before with ⟨given, gone, ungranted⟩
        exact ⟨given, succeeds.get?_eq_none given gone, ungranted⟩
      · rcases eq_of_inbound_met now with ⟨source, message, rfl, rfl⟩
        obtain rfl : source = handle := own
        rcases refused with ⟨present, unregistered, request, cause, identities, asked, chosen⟩
        rcases ModuleTable.contains_iff.mp present with ⟨module, found⟩
        refine ⟨reachable.sound.modules.le_lastHandle found,
          get?_receive_refused unregistered asked chosen, ?_⟩
        refine List.eq_nil_iff_forall_not_mem.mpr fun earlier before => ?_
        rcases exists_grant before with ⟨id, given⟩
        have registered := ((reachable.hasOnly_of_granted before given).2 module found).1
        have isRegistered := ModuleTable.isRegistered_iff.mpr ⟨module, found, registered⟩
        exact Bool.false_ne_true (unregistered.symm.trans isRegistered)
  | readers reachable ih queues => exact ih here
  | @delivered bus pending outbox reachable ih next =>
      have succeeds := succeeds_step behaviour reachable.sound .deliver
      rcases ih (inbound_deliver next ▸ here) with ⟨given, gone, ungranted⟩
      exact ⟨Nat.le_trans given succeeds.lastHandle_le, succeeds.get?_eq_none given gone,
        (granted_deliver next).trans ungranted⟩

/-- The acknowledgements for a connection, those that have left the outbox and those that
wait, are one for each of its requests that were granted, in the same order. -/
theorem answers_eq (reachable : bus.Reachable behaviour config) (handle : Handle) :
    ((answers (taken bus.history ++ bus.broker.outbox)).filter
        (·.route = .direct handle)).map some =
      (granted handle bus.history).map Inbound.answer? := by
  induction reachable using stepwise with
  | start started queues =>
      rcases start_eq started with ⟨_, rfl⟩
      rfl
  | @met bus reachable ih occasion =>
      have same : taken (bus.history ++ [.met bus.broker occasion]) = taken bus.history :=
        (taken_append ..).trans (List.append_nil _)
      show ((answers (taken (bus.history ++ [.met bus.broker occasion]) ++
          (bus.broker.meet occasion).outbox)).filter (·.route = .direct handle)).map some =
        (granted handle (bus.history ++ [.met bus.broker occasion])).map Inbound.answer?
      rw [same, answers_append, answers_meet, ← List.append_assoc, ← answers_append,
        List.filter_append, List.map_append, ih, granted_append, List.map_append, answers_met]
  | readers reachable ih queues => exact ih
  | delivered reachable ih next =>
      rw [granted_deliver next, ← ih]
      exact congrArg (fun frames => (List.filter _ frames).map some)
        (answers_all_deliver behaviour reachable.sound)

/-- Every acknowledgement for a connection has the number that the connection was given. -/
theorem assigned_of_answers (reachable : bus.Reachable behaviour config)
    (here : pending ∈ answers (taken bus.history ++ bus.broker.outbox))
    (own : pending.route = .direct handle) :
    assigned? handle bus.history = some pending.header.destinationModule := by
  have listed : some pending ∈ (granted handle bus.history).map Inbound.answer? := by
    rw [← reachable.answers_eq]
    exact List.mem_map_of_mem (List.mem_filter.mpr ⟨here, decide_eq_true own⟩)
  rcases List.mem_map.mp listed with ⟨arrival, granted, answer⟩
  rcases Option.map_eq_some_iff.mp answer with ⟨id, given, rfl⟩
  exact (reachable.assigned granted).symm.trans given

end Reachable

end Bus
end MessageBus
