import MessageBus.Proofs.Answers
import MessageBus.Proofs.Failures

namespace MessageBus

open Wire Text

/-!
# Messages without consequences

Some messages lead to nothing: those that cannot be understood, those of a connection that has
not been let in, a second introduction, those that disagree with the schemas or are for nobody,
and the wish for a name that is taken.  They are turned away at different places, after more or
less has been looked at, and the question is whether anything has been done by then.

`Broker.Drops` lists them, and with each the line that the log gets, if it gets one.  The list is
complete, since everything else that a connection can send is heeded (`Broker.Sound.heeds_or_drops`).
What becomes of a listed message is the same for all of them: besides the line there is nothing
(`Broker.Drops.dispatch`).  So it cannot matter either how many such messages there are, and from
whom (`Broker.receive_strays`).
-/

namespace Broker

/-- A frame of the broker's own that leaves a warning in the log, and does nothing else. -/
def Warns (broker : Broker) (line : Pending) (text : String) : Prop :=
  line.Tells broker.config.format (ManagerLog.ofLine .warning broker.clock.seconds text)

/-- A message of a connection that nothing is done about, and what the log says about it. -/
inductive Drops (broker : Broker) (sender : Module) (message : Message) : Option String -> Prop where
  /-- Whoever sends it. -/
  | unreadable {error : ProtocolError}
      (refused : Request.classify broker.schemas message = .error error) :
      Drops broker sender message (some s!"Dropping message from {sender.label}: {error.message}")
  | unregistered {request : Request} (outside : sender.isRegistered = false)
      (understood : Request.classify broker.schemas message = .ok request)
      (noIntroduction : ∀ introduction, request ≠ .connect introduction)
      (noGoodbye : request ≠ .disconnect) :
      Drops broker sender message none
  | again {introduction : ConnectRequest} (registered : sender.isRegistered = true)
      (understood : Request.classify broker.schemas message = .ok (.connect introduction)) :
      Drops broker sender message none
  | mismatched {error : ProtocolError} (registered : sender.isRegistered = true)
      (application : Request.classify broker.schemas message = .ok .other)
      (refused : broker.schemas.validate message.header = .error error) :
      Drops broker sender message (some s!"Dropping message from {sender.label}: {error.message}")
  | misaddressed (registered : sender.isRegistered = true)
      (application : Request.classify broker.schemas message = .ok .other)
      (agrees : broker.schemas.validate message.header = .ok ())
      (nowhere : broker.isValidDestination message.header = false) :
      Drops broker sender message none
  | nameTaken {name : String} {other : Handle} {rival : Module}
      (registered : sender.isRegistered = true) (unique : sender.isUnique = true)
      (understood : Request.classify broker.schemas message = .ok (.setName name))
      (different : other ≠ sender.handle) (foundRival : broker.modules.get? other = some rival)
      (registeredRival : rival.isRegistered = true) (uniqueRival : rival.isUnique = true)
      (sameName : rival.name = some name) :
      Drops broker sender message (some (s!"SET_NAME refused for {sender.label}: {quoted name}" ++
        " is held by another unique module"))

/-- A message of a connection that something is done about. -/
inductive Heeds (broker : Broker) (sender : Module) (message : Message) : Prop where
  | introduction {introduction : ConnectRequest} (outside : sender.isRegistered = false)
      (understood : Request.classify broker.schemas message = .ok (.connect introduction))
  | goodbye (understood : Request.classify broker.schemas message = .ok .disconnect)
  | granted {request : Request} {id : ModuleId} (registered : sender.isRegistered = true)
      (understood : Request.classify broker.schemas message = .ok request)
      (granted : broker.grants? sender request = some id)
  | ready {pid : Int32} (registered : sender.isRegistered = true)
      (understood : Request.classify broker.schemas message = .ok (.moduleReady pid))
  | passedOn {pending : Pending}
      (accepted : broker.accepted? sender.handle message = some pending)

variable {broker : Broker} {config : Config} {handle : Handle} {sender : Module}
  {message : Message} {request : Request} {line? : Option String}

/-! ## Nothing else is dropped -/

/-- The wish for a name is granted, or another module has the name. -/
theorem Sound.renames_or_drops (sound : broker.Sound config)
    (registered : sender.isRegistered = true) {name : String}
    (understood : Request.classify broker.schemas message = .ok (.setName name)) :
    broker.Heeds sender message ∨ ∃ line?, broker.Drops sender message line? := by
  cases taken : sender.isUnique &&
      (broker.modules.uniqueHolderOfName? name sender.handle).isSome with
  | false =>
      have granted : broker.grants? sender (.setName name) = some sender.id := by
        unfold grants?
        rw [if_pos registered]
        dsimp only
        rw [taken]
        rfl
      exact Or.inl (.granted registered understood granted)
  | true =>
      rcases Bool.and_eq_true_iff.mp taken with ⟨unique, holder⟩
      rcases Option.isSome_iff_exists.mp holder with ⟨rival, found⟩
      have among := List.mem_of_find?_eq_some found
      have passes := List.find?_some found
      simp only [Bool.and_eq_true, beq_iff_eq, bne_iff_ne] at passes
      rcases passes with ⟨⟨uniqueRival, different⟩, sameName⟩
      rcases sound.modules.mem_registered_iff.mp among with ⟨foundRival, registeredRival⟩
      exact Or.inr ⟨_, .nameTaken registered unique understood different foundRival
        registeredRival uniqueRival sameName⟩

/-- A message that asks nothing of the manager is passed on or dropped. -/
theorem passes_or_drops (found : broker.modules.get? handle = some sender)
    (registered : sender.isRegistered = true)
    (application : Request.classify broker.schemas message = .ok .other) :
    broker.Heeds sender message ∨ ∃ line?, broker.Drops sender message line? := by
  cases agrees : broker.schemas.validate message.header with
  | error error => exact Or.inr ⟨_, .mismatched registered application agrees⟩
  | ok _ =>
      cases valid : broker.isValidDestination message.header with
      | false => exact Or.inr ⟨_, .misaddressed registered application agrees valid⟩
      | true =>
          have isRegistered : broker.modules.isRegistered sender.handle = true := by
            rw [ModuleTable.handle_of_get? found, ModuleTable.isRegistered_of_get? found, registered]
          have uncontrolled := (Request.classify_eq_other_iff broker.schemas message).mp application
          have accepted : ∃ pending, broker.accepted? sender.handle message = some pending := by
            refine ⟨_, if_pos ?_⟩
            rw [isRegistered, uncontrolled, agrees, valid]
            rfl
          rcases accepted with ⟨pending, accepted⟩
          exact Or.inl (.passedOn accepted)

theorem Sound.heeds_or_drops (sound : broker.Sound config)
    (found : broker.modules.get? handle = some sender) (message : Message) :
    broker.Heeds sender message ∨ ∃ line?, broker.Drops sender message line? := by
  cases understood : Request.classify broker.schemas message with
  | error error => exact Or.inr ⟨_, .unreadable understood⟩
  | ok request =>
      cases registered : sender.isRegistered with
      | false =>
          cases request with
          | connect introduction => exact Or.inl (.introduction registered understood)
          | disconnect => exact Or.inl (.goodbye understood)
          | subscribe | unsubscribe | pause | resume | moduleReady | setName | other =>
              exact Or.inr ⟨none, .unregistered registered understood (by simp) (by simp)⟩
      | true =>
          cases request with
          | connect introduction => exact Or.inr ⟨_, .again registered understood⟩
          | disconnect => exact Or.inl (.goodbye understood)
          | subscribe messageType | unsubscribe messageType | pause messageType
          | resume messageType =>
              exact Or.inl (.granted registered understood (if_pos registered))
          | moduleReady pid => exact Or.inl (.ready registered understood)
          | setName name => exact sound.renames_or_drops registered understood
          | other => exact passes_or_drops found registered understood

/-- What is passed on comes from a registered module, asks nothing of the manager, agrees with
the schemas and is for somebody. -/
theorem of_accepted? {pending : Pending} (found : broker.modules.get? handle = some sender)
    (accepted : broker.accepted? handle message = some pending) :
    sender.isRegistered = true ∧ Request.classify broker.schemas message = .ok .other ∧
      broker.schemas.validate message.header = .ok () ∧
        broker.isValidDestination message.header = true := by
  unfold accepted? at accepted
  split at accepted
  · next all =>
    rw [ModuleTable.isRegistered_of_get? found] at all
    simp only [Bool.and_eq_true, Bool.not_eq_true'] at all
    rcases all with ⟨⟨⟨registered, application⟩, agrees⟩, valid⟩
    refine ⟨registered, (Request.classify_eq_other_iff _ _).mpr application, ?_, valid⟩
    cases checked : broker.schemas.validate message.header with
    | error error =>
        rw [checked] at agrees
        cases agrees
    | ok _ => rfl
  · cases accepted

/-- A name that another module has for itself is found to be taken. -/
theorem isSome_uniqueHolderOfName? {name : String} {other : Handle} {rival : Module}
    (different : other ≠ handle) (foundRival : broker.modules.get? other = some rival)
    (registeredRival : rival.isRegistered = true) (uniqueRival : rival.isUnique = true)
    (sameName : rival.name = some name) :
    (broker.modules.uniqueHolderOfName? name handle).isSome = true := by
  apply Option.isSome_iff_ne_none.mpr
  intro nobody
  exact ModuleTable.uniqueHolderOfName?_eq_none nobody foundRival registeredRival different
    uniqueRival sameName

/-- What is dropped is not heeded. -/
theorem Drops.not_heeds (drops : broker.Drops sender message line?)
    (found : broker.modules.get? handle = some sender) : ¬ broker.Heeds sender message := by
  intro heeds
  cases heeds with
  | introduction outside understood => cases drops <;> simp_all
  | goodbye understood => cases drops <;> simp_all
  | ready registered understood => cases drops <;> simp_all
  | granted registered understood granted =>
      have refuses : ∀ request, Request.classify broker.schemas message = .ok request ->
          broker.grants? sender request ≠ none := by
        intro request wanted
        rw [← Except.ok.inj (understood.symm.trans wanted), granted]
        exact Option.some_ne_none _
      cases drops with
      | unreadable | unregistered => simp_all
      | again _ wanted => exact refuses _ wanted (if_pos registered)
      | mismatched _ wanted _ => exact refuses _ wanted (if_pos registered)
      | misaddressed _ wanted _ _ => exact refuses _ wanted (if_pos registered)
      | nameTaken _ unique wanted different foundRival registeredRival uniqueRival sameName =>
          apply refuses _ wanted
          unfold grants?
          rw [if_pos registered]
          dsimp only
          rw [unique, isSome_uniqueHolderOfName? different foundRival registeredRival uniqueRival
            sameName]
          rfl
  | passedOn accepted =>
      rw [ModuleTable.handle_of_get? found] at accepted
      rcases of_accepted? found accepted with ⟨registered, application, agrees, valid⟩
      cases drops <;> simp_all

/-! ## What becomes of them -/

theorem warns_publishLog (broker : Broker) (text : String) :
    ∃ lines, List.Forall₂ broker.Warns lines [text] ∧
      broker.publishLog .warning text = { broker with outbox := broker.outbox ++ lines } := by
  rcases publishPayload_tells broker (ManagerLog.ofLine .warning broker.clock.seconds text) with
    ⟨line, tells, logged⟩
  exact ⟨[line], .cons tells .nil, logged⟩

/-- What is dropped leaves its line, if it has one. -/
theorem Drops.dispatch (drops : broker.Drops sender message line?)
    (found : broker.modules.get? handle = some sender) :
    ∃ lines, List.Forall₂ broker.Warns lines line?.toList ∧
      broker.dispatch handle message = { broker with outbox := broker.outbox ++ lines } := by
  have place : broker.modules.isRegistered handle = sender.isRegistered :=
    ModuleTable.isRegistered_of_get? found
  have silent : broker.dispatch handle message = broker -> ∃ lines,
      List.Forall₂ broker.Warns lines (none : Option String).toList ∧
        broker.dispatch handle message = { broker with outbox := broker.outbox ++ lines } := by
    intro same
    refine ⟨[], .nil, same.trans ?_⟩
    rw [List.append_nil]
  have reported (error : ProtocolError) : broker.reportMismatch handle error =
      broker.publishLog .warning s!"Dropping message from {sender.label}: {error.message}" := by
    unfold reportMismatch
    rw [found]
  have served : sender.isRegistered = true -> ∀ request,
      Request.classify broker.schemas message = .ok request ->
        broker.dispatch handle message = broker.serve handle message request := by
    intro registered request understood
    unfold Broker.dispatch
    rw [understood]
    exact if_pos (place.trans registered)
  cases drops with
  | @unreadable error refused =>
      have same : broker.dispatch handle message = broker.reportMismatch handle error := by
        unfold Broker.dispatch
        rw [refused]
      rw [same, reported]
      exact warns_publishLog broker _
  | @unregistered request outside understood noIntroduction noGoodbye =>
      apply silent
      unfold Broker.dispatch
      rw [understood]
      dsimp only
      rw [place, outside, if_neg Bool.false_ne_true]
      cases request with
      | connect introduction => exact absurd rfl (noIntroduction introduction)
      | disconnect => exact absurd rfl noGoodbye
      | subscribe | unsubscribe | pause | resume | moduleReady | setName | other => rfl
  | again registered understood => exact silent (served registered _ understood)
  | @mismatched error registered application refused =>
      have same : broker.dispatch handle message = broker.reportMismatch handle error := by
        rw [served registered _ application]
        unfold serve
        dsimp only
        rw [refused]
      rw [same, reported]
      exact warns_publishLog broker _
  | misaddressed registered application agrees nowhere =>
      apply silent
      rw [served registered _ application]
      unfold serve forward
      dsimp only
      rw [agrees, nowhere]
      rfl
  | @nameTaken name other rival registered unique understood different foundRival registeredRival
      uniqueRival sameName =>
      rw [ModuleTable.handle_of_get? found] at different
      have holder := isSome_uniqueHolderOfName? different foundRival registeredRival uniqueRival
        sameName
      rw [served registered _ understood]
      unfold serve rename
      dsimp only
      rw [found]
      dsimp only
      rw [unique, holder, Bool.and_self, if_pos rfl]
      exact warns_publishLog broker _

/-- A message is dropped whatever else waits in the outbox and was counted. -/
theorem Drops.of_same (drops : broker.Drops sender message line?) (diagnostics : Diagnostics)
    (outbox : List Pending) : Drops { broker with diagnostics, outbox } sender message line? := by
  cases drops with
  | unreadable refused => exact .unreadable refused
  | unregistered outside understood noIntroduction noGoodbye =>
      exact .unregistered outside understood noIntroduction noGoodbye
  | again registered understood => exact .again registered understood
  | mismatched registered application refused =>
      exact .mismatched registered application refused
  | misaddressed registered application agrees nowhere =>
      exact .misaddressed registered application agrees nowhere
  | nameTaken registered unique understood different foundRival registeredRival uniqueRival
      sameName =>
      exact .nameTaken registered unique understood different foundRival registeredRival
        uniqueRival sameName

theorem Drops.receive (drops : broker.Drops sender message line?)
    (found : broker.modules.get? handle = some sender) :
    ∃ lines, List.Forall₂ broker.Warns lines line?.toList ∧
      broker.receive handle message =
        { broker with
          diagnostics := broker.diagnostics.count message.messageType
          outbox := broker.outbox ++ lines } := by
  let counted := { broker with diagnostics := broker.diagnostics.count message.messageType }
  have still : counted.modules.get? handle = some sender := found
  have dropsCounted : counted.Drops sender message line? := drops.of_same _ broker.outbox
  rcases dropsCounted.dispatch still with ⟨lines, warn, left⟩
  refine ⟨lines, warn, ?_⟩
  unfold Broker.receive
  rw [if_pos (ModuleTable.contains_iff.mpr ⟨sender, found⟩)]
  exact left

/-- A message that came in, with its sender and the line that dropping it leaves. -/
structure Stray where
  sender : Module
  message : Message
  line? : Option String

/-- A message of a connection that is there and that is dropped. -/
def IsStray (broker : Broker) (stray : Stray) : Prop :=
  broker.modules.get? stray.sender.handle = some stray.sender ∧
    broker.Drops stray.sender stray.message stray.line?

/-- However many messages are dropped one after the other, they are counted, and the log gets
their lines. -/
theorem receive_strays {strays : List Stray} (all : ∀ stray ∈ strays, broker.IsStray stray) :
    ∃ lines, List.Forall₂ broker.Warns lines (strays.filterMap Stray.line?) ∧
      strays.foldl (fun broker stray => broker.receive stray.sender.handle stray.message) broker =
        { broker with
          diagnostics := strays.foldl
            (fun diagnostics stray => diagnostics.count stray.message.messageType)
            broker.diagnostics
          outbox := broker.outbox ++ lines } := by
  induction strays generalizing broker with
  | nil =>
      refine ⟨[], .nil, ?_⟩
      rw [List.append_nil]
      rfl
  | cons stray rest ih =>
      rcases List.forall_mem_cons.mp all with ⟨⟨found, drops⟩, others⟩
      rcases drops.receive found with ⟨first, warnFirst, received⟩
      have still : ∀ other ∈ rest, (broker.receive stray.sender.handle stray.message).IsStray other := by
        intro other here
        rw [received]
        exact ⟨(others other here).1, (others other here).2.of_same _ _⟩
      rcases ih still with ⟨later, warnLater, left⟩
      rw [received] at warnLater
      refine ⟨first ++ later, ?_, ?_⟩
      · have lines : (stray :: rest).filterMap Stray.line? =
            stray.line?.toList ++ rest.filterMap Stray.line? := by
          rw [List.filterMap_cons]
          cases stray.line? <;> rfl
        rw [lines]
        exact List.rel_append warnFirst warnLater
      · rw [List.foldl_cons, left, received, List.append_assoc]
        rfl

end Broker

namespace Bus

variable {behaviour : Behaviour σ} {config : Config} {bus : Bus σ} {handle : Handle}
  {sender : Module}

/-- What a connection sends is heeded or dropped.  If it is dropped, then the log gets a line,
or not even that, and everything else is as before: all modules and loggers, all subscriptions,
the pool, and what is to be closed.  The same holds of any number of such messages that are
received one after the other, apart from their being counted. -/
theorem Reachable.drops_traceless (reachable : bus.Reachable behaviour config)
    (found : bus.broker.modules.get? handle = some sender) (message : Message) :
    (bus.broker.Heeds sender message ↔ ¬ ∃ line?, bus.broker.Drops sender message line?) ∧
      (∀ line?, bus.broker.Drops sender message line? ->
        ∃ lines, List.Forall₂ bus.broker.Warns lines line?.toList ∧
          bus.broker.dispatch handle message =
            { bus.broker with outbox := bus.broker.outbox ++ lines }) ∧
      ∀ strays : List Broker.Stray, (∀ stray ∈ strays, bus.broker.IsStray stray) ->
        ∃ lines, List.Forall₂ bus.broker.Warns lines (strays.filterMap Broker.Stray.line?) ∧
          strays.foldl
              (fun broker stray => broker.receive stray.sender.handle stray.message) bus.broker =
            { bus.broker with
              diagnostics := strays.foldl
                (fun diagnostics stray => diagnostics.count stray.message.messageType)
                bus.broker.diagnostics
              outbox := bus.broker.outbox ++ lines } := by
  refine ⟨⟨?_, ?_⟩, fun line? drops => drops.dispatch found, fun strays => Broker.receive_strays⟩
  · rintro heeds ⟨line?, drops⟩
    exact drops.not_heeds found heeds
  · intro kept
    exact (reachable.sound.heeds_or_drops found message).resolve_right kept

/-- The wish to be called "b". -/
def naming : Message :=
  { header := { messageType := MessageType.clientSetName, dataBytes := 32 }
    timecode := none
    payload := 98 :: List.replicate 31 0 }

/-- The second module of the small bus is called so already when the fourth wants to be called
so, which leaves a line in the log; that a newcomer wants it as well leaves nothing. -/
theorem drops_traceless_of_small :
    let bus := small.run QueueRule.bounded.each
      [.occasion (.event (.message 2 naming)),
        .occasion (.arrival ⟨.v4 [127, 0, 0, 1], 7111, 0⟩)]
    (∃ line : Pending, line.header.messageType = MessageType.managerLog ∧
      bus.broker.dispatch 4 naming =
        { bus.broker with outbox := bus.broker.outbox ++ [line] }) ∧
      bus.broker.dispatch 5 naming = bus.broker := by
  intro bus
  have reachable : bus.Reachable QueueRule.bounded.each {} := small_reachable.run _
  have understood : Request.classify bus.broker.schemas naming = .ok (.setName "b") := by
    decide +kernel
  have fourth : (bus.broker.modules.get? 4).map (fun module =>
      (module.isRegistered, module.isUnique)) = some (true, true) := by
    decide +kernel
  have second : (bus.broker.modules.get? 2).map (fun module =>
      (module.isRegistered, module.isUnique, module.name)) = some (true, true, some "b") := by
    decide +kernel
  have newcomer : (bus.broker.modules.get? 5).map Module.isRegistered = some false := by
    decide +kernel
  rcases Option.map_eq_some_iff.mp fourth with ⟨sender, found, facts⟩
  rcases Option.map_eq_some_iff.mp second with ⟨rival, foundRival, factsRival⟩
  rcases Option.map_eq_some_iff.mp newcomer with ⟨stranger, foundStranger, outside⟩
  constructor
  · have drops : bus.broker.Drops sender naming _ :=
      .nameTaken (congrArg Prod.fst facts) (congrArg Prod.snd facts) understood
        (by rw [ModuleTable.handle_of_get? found]; decide) foundRival (congrArg (·.1) factsRival)
        (congrArg (·.2.1) factsRival) (congrArg (·.2.2) factsRival)
    rcases (reachable.drops_traceless found naming).2.1 _ drops with ⟨lines, warn, left⟩
    cases warn with
    | cons warns nothing =>
        cases nothing
        exact ⟨_, warns.messageType, left⟩
  · have drops : bus.broker.Drops stranger naming none :=
      .unregistered outside understood (by simp) (by simp)
    rcases (reachable.drops_traceless foundStranger naming).2.1 _ drops with ⟨lines, warn, left⟩
    cases warn
    exact left.trans (Broker.passOn_none bus.broker)

end Bus

end MessageBus
