import MessageBus.Proofs.Registries

namespace MessageBus

open Wire

/-!
# What a module has asked for

The broker keeps no account of the requests that led to a module's subscriptions,
but the subscriptions follow from them.  A module is subscribed to everything if
that was its last word about everything.  It is subscribed to a single type if
that was its last word about the type, unless the request has lapsed: it lapses
if everything was wanted when it was made, because then it does nothing, and if
everything is asked for afterwards, because this drops the single types.  That
everything is given up again does not bring it back.

`Subscriptions.Follow` says this about the two registries, and
`Bus.Reachable.wants_iff` about every run, with the requests read off the history.
-/

/-- A word about a type: that it is wanted, or that it is not. -/
structure Wish where
  messageType : MessageType
  isWanted : Bool
deriving DecidableEq, Repr

/-- What was said about types, the last word first. -/
abbrev Wishes := List Wish

namespace Wishes

/-- Whether the last word about a type was that it is wanted. -/
def wants (messageType : MessageType) : Wishes -> Bool
  | [] => false
  | last :: earlier =>
      if last.messageType = messageType then last.isWanted else wants messageType earlier

/-- Whether everything was wanted when the last word about a type was said, or was
asked for since. -/
def isLapsed (messageType : MessageType) : Wishes -> Bool
  | [] => false
  | last :: earlier =>
      if last.messageType = messageType then wants MessageType.everything earlier
      else (last.messageType = MessageType.everything && last.isWanted) ||
        isLapsed messageType earlier

variable {messageType other : MessageType} {isWanted : Bool} {wishes : Wishes}

theorem wants_cons_self : wants messageType (⟨messageType, isWanted⟩ :: wishes) = isWanted :=
  if_pos rfl

theorem wants_cons_of_ne (different : other ≠ messageType) :
    wants other (⟨messageType, isWanted⟩ :: wishes) = wants other wishes :=
  if_neg different.symm

theorem isLapsed_cons_self : isLapsed messageType (⟨messageType, isWanted⟩ :: wishes) =
    wants MessageType.everything wishes :=
  if_pos rfl

theorem isLapsed_cons_of_ne (different : other ≠ messageType)
    (single : messageType ≠ MessageType.everything) :
    isLapsed other (⟨messageType, isWanted⟩ :: wishes) = isLapsed other wishes := by
  conv => lhs; unfold isLapsed
  rw [if_neg different.symm, decide_eq_false single]
  rfl

theorem isLapsed_cons_everything (single : other ≠ MessageType.everything) :
    isLapsed other (⟨MessageType.everything, isWanted⟩ :: wishes) =
      (isWanted || isLapsed other wishes) := by
  conv => lhs; unfold isLapsed
  rw [if_neg single.symm, decide_eq_true rfl, Bool.true_and]

theorem wants_of_unmentioned (unmentioned : ∀ wish ∈ wishes, wish.messageType ≠ messageType) :
    wishes.wants messageType = false := by
  induction wishes with
  | nil => rfl
  | cons last earlier ih =>
      rcases List.forall_mem_cons.mp unmentioned with ⟨different, rest⟩
      exact (wants_cons_of_ne (Ne.symm different)).trans (ih rest)

/-- Nothing lapses as long as nobody speaks of everything. -/
theorem isLapsed_of_singles (singles : ∀ wish ∈ wishes, wish.messageType ≠ MessageType.everything) :
    wishes.isLapsed messageType = false := by
  induction wishes with
  | nil => rfl
  | cons last earlier ih =>
      rcases List.forall_mem_cons.mp singles with ⟨single, rest⟩
      by_cases same : messageType = last.messageType
      · subst same
        exact isLapsed_cons_self.trans (wants_of_unmentioned rest)
      · exact (isLapsed_cons_of_ne same single).trans (ih rest)

end Wishes

namespace Subscriptions

variable {subscriptions later : Subscriptions} {handle other : Handle}
  {messageType : MessageType} {wishes : Wishes}

/-! ## One module's part -/

/-- A module has the same subscriptions. -/
structure SameFor (handle : Handle) (subscriptions later : Subscriptions) : Prop where
  everything : handle ∈ later.everything ↔ handle ∈ subscriptions.everything
  types : ∀ messageType,
    messageType ∈ later.typesOf handle ↔ messageType ∈ subscriptions.typesOf handle

namespace SameFor

theorem refl (handle : Handle) (subscriptions : Subscriptions) :
    SameFor handle subscriptions subscriptions :=
  ⟨Iff.rfl, fun _ => Iff.rfl⟩

theorem trans {first second third : Subscriptions} (early : SameFor handle first second)
    (late : SameFor handle second third) : SameFor handle first third :=
  ⟨late.everything.trans early.everything,
    fun messageType => (late.types messageType).trans (early.types messageType)⟩

theorem subscribe (consistent : subscriptions.Consistent) (different : handle ≠ other)
    (messageType : MessageType) :
    SameFor handle subscriptions (subscriptions.subscribe other messageType).2 := by
  unfold Subscriptions.subscribe
  split
  · refine ⟨?_, fun wanted => ?_⟩
    · exact Ascending.mem_insert.trans (or_iff_right different)
    · exact (mem_typesOf_dropTypes consistent.modulesSorted).trans (and_iff_right different)
  · split
    · exact refl handle subscriptions
    · refine ⟨Iff.rfl, fun wanted => ?_⟩
      exact (Index.mem_get_insert consistent.modulesSorted).trans
        (or_iff_right fun both => different both.1)

theorem unsubscribe (consistent : subscriptions.Consistent) (different : handle ≠ other)
    (messageType : MessageType) :
    SameFor handle subscriptions (subscriptions.unsubscribe other messageType).2 := by
  unfold Subscriptions.unsubscribe
  split
  · refine ⟨?_, fun _ => Iff.rfl⟩
    exact List.mem_filter.trans (and_iff_left (decide_eq_true different))
  · split
    · exact refl handle subscriptions
    · refine ⟨Iff.rfl, fun wanted => ?_⟩
      exact (Index.mem_get_erase consistent.modulesSorted).trans
        (and_iff_left fun both => different both.1)

theorem remove (consistent : subscriptions.Consistent) (different : handle ≠ other) :
    SameFor handle subscriptions (subscriptions.remove other) := by
  refine ⟨?_, fun wanted => ?_⟩
  · exact List.mem_filter.trans (and_iff_left (decide_eq_true different))
  · exact (mem_typesOf_dropTypes consistent.modulesSorted).trans (and_iff_right different)

end SameFor

/-! ## What follows from the wishes -/

/-- A module's subscriptions are what follows from its wishes. -/
structure Follow (wishes : Wishes) (handle : Handle) (subscriptions : Subscriptions) : Prop where
  everything : handle ∈ subscriptions.everything ↔
    wishes.wants MessageType.everything = true
  single : ∀ messageType, messageType ≠ MessageType.everything ->
    (messageType ∈ subscriptions.typesOf handle ↔
      wishes.wants messageType = true ∧ wishes.isLapsed messageType = false)

namespace Follow

theorem empty (handle : Handle) : Follow [] handle {} where
  everything := by simp [Wishes.wants]
  single := by simp [Wishes.wants, typesOf, Index.get]

theorem same (follow : Follow wishes handle subscriptions)
    (same : SameFor handle subscriptions later) : Follow wishes handle later where
  everything := same.everything.trans follow.everything
  single messageType single := (same.types messageType).trans (follow.single messageType single)

/-- A word about a single type changes nothing as long as everything is wanted. -/
theorem masked (follow : Follow wishes handle subscriptions)
    (consistent : subscriptions.Consistent)
    (covers : subscriptions.wantsEverything handle = true)
    (single : messageType ≠ MessageType.everything) (isWanted : Bool) :
    Follow (⟨messageType, isWanted⟩ :: wishes) handle subscriptions := by
  have everything := wantsEverything_iff.mp covers
  refine ⟨?_, fun other otherSingle => ?_⟩
  · rw [Wishes.wants_cons_of_ne (Ne.symm single)]
    exact follow.everything
  · by_cases same : other = messageType
    · subst same
      rw [Wishes.isLapsed_cons_self, follow.everything.mp everything,
        consistent.exclusive handle everything]
      exact iff_of_false List.not_mem_nil fun both => Bool.noConfusion both.2
    · rw [Wishes.wants_cons_of_ne same, Wishes.isLapsed_cons_of_ne same single]
      exact follow.single other otherSingle

theorem subscribe (follow : Follow wishes handle subscriptions)
    (consistent : subscriptions.Consistent) (messageType : MessageType) :
    Follow (⟨messageType, true⟩ :: wishes) handle
      (subscriptions.subscribe handle messageType).2 := by
  unfold Subscriptions.subscribe
  split
  · next isEverything =>
    subst isEverything
    refine ⟨?_, fun other single => ?_⟩
    · rw [Wishes.wants_cons_self]
      exact iff_of_true (Ascending.mem_insert.mpr (Or.inl rfl)) rfl
    · rw [Wishes.isLapsed_cons_everything single]
      refine iff_of_false (fun here => ?_) (by simp)
      exact ((mem_typesOf_dropTypes consistent.modulesSorted).mp here).1 rfl
  · next single =>
    split
    · next covers => exact follow.masked consistent covers single true
    · next unmasked =>
      refine ⟨?_, fun other otherSingle => ?_⟩
      · rw [Wishes.wants_cons_of_ne (Ne.symm single)]
        exact follow.everything
      refine (Index.mem_get_insert consistent.modulesSorted).trans ?_
      by_cases same : other = messageType
      · subst same
        have free : wishes.wants MessageType.everything = false := by
          apply Bool.eq_false_iff.mpr
          exact fun wanted => unmasked (wantsEverything_iff.mpr (follow.everything.mpr wanted))
        rw [Wishes.isLapsed_cons_self, Wishes.wants_cons_self, free]
        exact iff_of_true (Or.inl ⟨rfl, rfl⟩) ⟨rfl, rfl⟩
      · rw [Wishes.wants_cons_of_ne same, Wishes.isLapsed_cons_of_ne same single]
        exact (or_iff_right fun both => same both.2).trans (follow.single other otherSingle)

theorem unsubscribe (follow : Follow wishes handle subscriptions)
    (consistent : subscriptions.Consistent) (messageType : MessageType) :
    Follow (⟨messageType, false⟩ :: wishes) handle
      (subscriptions.unsubscribe handle messageType).2 := by
  unfold Subscriptions.unsubscribe
  split
  · next isEverything =>
    subst isEverything
    refine ⟨?_, fun other single => ?_⟩
    · rw [Wishes.wants_cons_self]
      exact iff_of_false (fun here => by simpa using (List.mem_filter.mp here).2) (by simp)
    · rw [Wishes.isLapsed_cons_everything single, Wishes.wants_cons_of_ne single]
      exact follow.single other single
  · next single =>
    split
    · next covers => exact follow.masked consistent covers single false
    · refine ⟨?_, fun other otherSingle => ?_⟩
      · rw [Wishes.wants_cons_of_ne (Ne.symm single)]
        exact follow.everything
      refine (Index.mem_get_erase consistent.modulesSorted).trans ?_
      by_cases same : other = messageType
      · subst same
        rw [Wishes.wants_cons_self]
        exact iff_of_false (fun both => both.2 ⟨rfl, rfl⟩) fun both => Bool.noConfusion both.1
      · rw [Wishes.wants_cons_of_ne same, Wishes.isLapsed_cons_of_ne same single]
        exact (and_iff_left fun both => same both.2).trans (follow.single other otherSingle)

theorem wants_iff (follow : Follow wishes handle subscriptions)
    (consistent : subscriptions.Consistent) (messageType : MessageType) :
    subscriptions.wants handle messageType = true ↔
      wishes.wants MessageType.everything = true ∨
        wishes.wants messageType = true ∧ wishes.isLapsed messageType = false := by
  rw [consistent.wants_iff, wantsEverything_iff, follow.everything, or_comm]
  by_cases isEverything : messageType = MessageType.everything
  · subst isEverything
    have never := consistent.individual handle
    tauto
  · rw [follow.single messageType isEverything]

end Follow

end Subscriptions

/-- What a request says about a type, if it is about a type. -/
def Request.wish? : Request -> Option Wish
  | .subscribe messageType | .resume messageType => some ⟨messageType, true⟩
  | .unsubscribe messageType | .pause messageType => some ⟨messageType, false⟩
  | .connect _ | .disconnect | .moduleReady _ | .setName _ | .other => none

/-- The subscriptions after a module's wish. -/
def Subscriptions.grant (subscriptions : Subscriptions) (handle : Handle) (wish : Wish) :
    Subscriptions :=
  if wish.isWanted then (subscriptions.subscribe handle wish.messageType).2
  else (subscriptions.unsubscribe handle wish.messageType).2

namespace Subscriptions

variable {subscriptions : Subscriptions} {handle other : Handle} {wishes : Wishes}

theorem SameFor.grant (consistent : subscriptions.Consistent) (different : handle ≠ other)
    (wish : Wish) : SameFor handle subscriptions (subscriptions.grant other wish) := by
  unfold Subscriptions.grant
  split
  · exact subscribe consistent different _
  · exact unsubscribe consistent different _

theorem Follow.grant (follow : Follow wishes handle subscriptions)
    (consistent : subscriptions.Consistent) (wish : Wish) :
    Follow (wish :: wishes) handle (subscriptions.grant handle wish) := by
  rcases wish with ⟨messageType, isWanted⟩
  cases isWanted with
  | true => exact follow.subscribe consistent messageType
  | false => exact follow.unsubscribe consistent messageType

end Subscriptions

namespace Broker

variable {broker : Broker} {handle other : Handle} {module : Module} {config : Config}
  {wishes : Wishes}

/-- What a registered module says about a type on some occasion, if the broker
understands it. -/
def wish? (broker : Broker) (handle : Handle) : Occasion -> Option Wish
  | .event (.message source message) =>
      if source = handle ∧ broker.modules.isRegistered handle = true then
        match Request.classify broker.schemas message with
        | .ok request => request.wish?
        | .error _ => none
      else none
  | .event (.ended _ _) | .arrival _ | .poll _ | .upkeep _ => none

/-! ## Who changes subscriptions -/

@[simp] theorem subscriptions_publishClientInfo (broker : Broker) (handle : Handle) :
    (broker.publishClientInfo handle).subscriptions = broker.subscriptions := by
  unfold publishClientInfo
  split <;> rfl

@[simp] theorem subscriptions_acknowledge (broker : Broker) (handle : Handle) :
    (broker.acknowledge handle).subscriptions = broker.subscriptions := by
  unfold acknowledge
  split <;> rfl

theorem subscriptions_remove (broker : Broker) (handle : Handle) (departure : Departure) :
    (broker.remove handle departure).subscriptions = broker.subscriptions.remove handle := by
  unfold remove
  split
  · rfl
  · dsimp only
    split <;> split <;> rfl

theorem subscriptions_rename (broker : Broker) (handle : Handle) (name : String) :
    (broker.rename handle name).subscriptions = broker.subscriptions := by
  unfold rename
  split
  · rfl
  · split
    · rfl
    · simp

theorem subscriptions_report (broker : Broker) (now : Milliseconds) :
    (broker.report now).subscriptions = broker.subscriptions := by
  rcases report_eq broker now with ⟨diagnostics, outbox, same⟩
  rw [same]

/-- What can become of the subscriptions when a broker reacts: a registered module
has its wish, somebody who is gone is forgotten, or nothing happens to them. -/
inductive Resubscribed (broker : Broker) (source : Handle) (wish? : Option Wish)
    (after : Broker) : Prop where
  | untouched (silent : wish? = none) (same : after.subscriptions = broker.subscriptions)
  | granted {wish : Wish} (asked : wish? = some wish)
      (same : after.subscriptions = broker.subscriptions.grant source wish)
  | forgotten (silent : wish? = none) (gone : after.modules.get? source = none)
      (same : after.subscriptions = broker.subscriptions.remove source)

theorem resubscribed_remove (broker : Broker) (handle : Handle) (departure : Departure) :
    Resubscribed broker handle none (broker.remove handle departure) :=
  .forgotten rfl (get?_remove_self broker handle departure)
    (subscriptions_remove broker handle departure)

theorem resubscribed_connect (broker : Broker) (handle : Handle) (request : ConnectRequest) :
    Resubscribed broker handle none (broker.connect handle request) := by
  rcases chosen : broker.modules.chooseId broker.identities handle request
    broker.config.identity.dynamicStart with ⟨rejection | id, identities⟩
  · rw [connect_of_error chosen]
    cases resubscribed_remove { broker with identities } handle (.refused rejection) with
    | untouched silent same => exact .untouched silent same
    | granted asked same => cases asked
    | forgotten silent gone same => exact .forgotten silent gone same
  · rw [connect_of_ok chosen]
    exact .untouched rfl (by simp)

theorem resubscribed_serve (broker : Broker) (handle : Handle) (message : Message)
    (request : Request) :
    Resubscribed broker handle request.wish? (broker.serve handle message request) := by
  cases request with
  | connect request => exact .untouched rfl rfl
  | disconnect => exact resubscribed_remove broker handle .disconnected
  | subscribe messageType | resume messageType =>
      exact .granted rfl (subscriptions_acknowledge _ handle)
  | unsubscribe messageType | pause messageType =>
      exact .granted rfl (subscriptions_acknowledge _ handle)
  | moduleReady pid => exact .untouched rfl rfl
  | setName name => exact .untouched rfl (subscriptions_rename broker handle name)
  | other =>
      refine .untouched rfl ?_
      unfold serve
      dsimp only
      split
      · rfl
      · unfold forward
        split <;> rfl

theorem resubscribed_greet (broker : Broker) (handle : Handle) (request : Request) :
    Resubscribed broker handle none (broker.greet handle request) := by
  unfold greet
  split
  · exact resubscribed_connect broker handle _
  · exact resubscribed_remove broker handle .disconnected
  · exact .untouched rfl rfl

theorem wish?_of_ne {source : Handle} (different : handle ≠ source) (message : Message) :
    broker.wish? handle (.event (.message source message)) = none :=
  if_neg fun both => different both.1.symm

theorem wish?_of_unregistered (unregistered : ¬ broker.modules.isRegistered handle = true)
    (occasion : Occasion) : broker.wish? handle occasion = none := by
  cases occasion with
  | event event =>
      cases event with
      | message source message => exact if_neg fun both => unregistered both.2
      | ended source cause => rfl
  | arrival peer => rfl
  | poll now => rfl
  | upkeep clock => rfl

theorem resubscribed_receive (broker : Broker) (handle : Handle) (message : Message) :
    Resubscribed broker handle (broker.wish? handle (.event (.message handle message)))
      (broker.receive handle message) := by
  unfold receive
  by_cases present : broker.modules.contains handle = true
  · rw [if_pos present]
    unfold dispatch wish?
    dsimp only
    by_cases registered : broker.modules.isRegistered handle = true
    · rw [if_pos ⟨rfl, registered⟩]
      cases understood : Request.classify broker.schemas message with
      | error error => exact .untouched rfl rfl
      | ok request =>
          dsimp only
          rw [if_pos registered]
          cases resubscribed_serve { broker with
            diagnostics := broker.diagnostics.count message.messageType } handle message request with
          | untouched silent same => exact .untouched silent same
          | granted asked same => exact .granted asked same
          | forgotten silent gone same => exact .forgotten silent gone same
    · rw [if_neg fun both => registered both.2]
      cases understood : Request.classify broker.schemas message with
      | error error => exact .untouched rfl rfl
      | ok request =>
          dsimp only
          rw [if_neg registered]
          cases resubscribed_greet { broker with
            diagnostics := broker.diagnostics.count message.messageType } handle request with
          | untouched silent same => exact .untouched silent same
          | granted asked same => cases asked
          | forgotten silent gone same => exact .forgotten silent gone same
  · rw [if_neg present]
    have unregistered : ¬ broker.modules.isRegistered handle = true := by
      intro registered
      rcases ModuleTable.isRegistered_iff.mp registered with ⟨module, found, _⟩
      exact present (ModuleTable.contains_iff.mpr ⟨module, found⟩)
    exact .untouched (wish?_of_unregistered unregistered _) rfl

/-- Whatever happens, the wish of at most one module is granted. -/
theorem resubscribed_meet (broker : Broker) (occasion : Occasion) :
    ∃ source, Resubscribed broker source (broker.wish? source occasion) (broker.meet occasion) ∧
      ∀ other, other ≠ source -> broker.wish? other occasion = none := by
  cases occasion with
  | event event =>
      cases event with
      | message source message =>
          exact ⟨source, resubscribed_receive broker source message,
            fun other different => wish?_of_ne different message⟩
      | ended source cause =>
          exact ⟨source, resubscribed_remove broker source (.lost cause), fun _ _ => rfl⟩
  | arrival peer => exact ⟨0, .untouched rfl rfl, fun _ _ => rfl⟩
  | poll now => exact ⟨0, .untouched rfl (subscriptions_report broker now), fun _ _ => rfl⟩
  | upkeep clock => exact ⟨0, .untouched rfl rfl, fun _ _ => rfl⟩

/-- Somebody has a place under a handle, or may still get one. -/
def HasPlace (broker : Broker) (handle : Handle) : Prop :=
  broker.modules.isRegistered handle = true ∨ broker.modules.IsNew handle

theorem HasPlace.of_succeeds {first second : Broker} (place : second.HasPlace handle)
    (succeeds : first.modules.Succeeds second.modules) : first.HasPlace handle := by
  rcases place with registered | new
  · rcases ModuleTable.isRegistered_iff.mp registered with ⟨module, found, isRegistered⟩
    by_cases given : handle ≤ first.modules.lastHandle
    · rcases succeeds.found handle module given found with ⟨earlier, foundEarlier, keeps⟩
      by_cases before : earlier.isRegistered = true
      · exact Or.inl (ModuleTable.isRegistered_iff.mpr ⟨earlier, foundEarlier, before⟩)
      · exact Or.inr (Or.inr ⟨earlier, foundEarlier, Bool.eq_false_of_not_eq_true before⟩)
    · exact Or.inr (Or.inl (Nat.lt_of_not_le given))
  · exact Or.inr (new.of_succeeds succeeds)

theorem HasPlace.ne_of_gone (place : broker.HasPlace handle)
    (given : other ≤ broker.modules.lastHandle)
    (gone : broker.modules.get? other = none) : handle ≠ other := by
  rintro rfl
  rcases place with registered | later | ⟨module, found, _⟩
  · rcases ModuleTable.isRegistered_iff.mp registered with ⟨module, found, _⟩
    rw [gone] at found
    cases found
  · exact absurd given (Nat.not_le_of_lt later)
  · rw [gone] at found
    cases found

/-- What follows from a module's wishes still does after everything that happens. -/
theorem follow_meet (sound : broker.Sound config) (occasion : Occasion)
    (place : (broker.meet occasion).HasPlace handle)
    (follow : Subscriptions.Follow wishes handle broker.subscriptions) :
    Subscriptions.Follow ((broker.wish? handle occasion).toList ++ wishes) handle
      (broker.meet occasion).subscriptions := by
  have succeeds := succeeds_meet broker occasion
  rcases resubscribed_meet broker occasion with ⟨source, resubscribed, others⟩
  have quiet : broker.wish? source occasion = none -> broker.wish? handle occasion = none := by
    intro silent
    by_cases own : handle = source
    · exact own ▸ silent
    · exact others handle own
  cases resubscribed with
  | untouched silent same =>
      rw [quiet silent, same]
      exact follow
  | @granted wish asked same =>
      rw [same]
      by_cases own : handle = source
      · subst own
        rw [asked]
        exact follow.grant sound.subscriptions wish
      · rw [others handle own]
        exact follow.same (.grant sound.subscriptions own wish)
  | forgotten silent gone same =>
      rw [quiet silent, same]
      cases found : broker.modules.get? source with
      | none =>
          have unmentioned : ¬ broker.subscriptions.Mentions source := fun mentioned =>
            (sound.forgot found).unlisted (Or.inr mentioned)
          rw [Subscriptions.remove_of_not_mentioned unmentioned]
          exact follow
      | some module =>
          have given := Nat.le_trans (sound.modules.le_lastHandle found) succeeds.lastHandle_le
          have different := place.ne_of_gone given gone
          exact follow.same (.remove sound.subscriptions different)

/-! ## Deliveries -/

theorem subscriptions_notifyFailure (broker : Broker) (destination : ModuleId) (failed : Header) :
    (broker.notifyFailure destination failed).subscriptions = broker.subscriptions := by
  unfold notifyFailure
  split <;> rfl

theorem subscriptions_fail (found : broker.modules.get? handle = some module) (failed : Header)
    (cause : String) :
    (broker.fail handle failed cause).subscriptions = broker.subscriptions.remove handle := by
  unfold fail
  rw [found]
  exact (subscriptions_notifyFailure _ _ _).trans (subscriptions_remove broker handle (.lost cause))

/-- An outcome takes a module's subscriptions with its record, or leaves both. -/
theorem subscriptions_settle (found : broker.modules.get? handle = some module) (header : Header)
    (outcome : Outcome) :
    (broker.settle handle header outcome).subscriptions =
      if outcome.record? module = none then broker.subscriptions.remove handle
      else broker.subscriptions := by
  cases outcome with
  | delivered => rfl
  | full =>
      unfold settle drop
      rw [found]
      exact subscriptions_notifyFailure _ _ _
  | closed => exact subscriptions_fail found header _
  | timedOut => exact subscriptions_fail found header _

theorem Course.follow {behaviour : Behaviour σ} {pending : Pending} {handles : List Handle}
    {queues : σ} {swept : Swept σ} (course : Course behaviour pending handles queues broker swept)
    (sound : broker.Sound config) (place : swept.broker.HasPlace handle)
    (follow : Subscriptions.Follow wishes handle broker.subscriptions) :
    Subscriptions.Follow wishes handle swept.broker.subscriptions := by
  induction course with
  | done queues broker => exact follow
  | @offered first rest queues next broker module outcome swept found registered answered absent
      later ih =>
      have ordinary := Behaviour.ordinary_of_full answered
      have edits := edits_settle found registered pending.header ordinary
      refine ih (edits.sound sound) place ?_
      rw [subscriptions_settle found]
      split
      · next gone =>
        -- Whoever goes here is not there in the end, so it is not the module with a place.
        have given := Nat.le_trans (sound.modules.le_lastHandle found)
          (edits.succeeds.trans later.edits.succeeds).lastHandle_le
        have missing : swept.broker.modules.get? first = none :=
          (later.get?_of_not_mem absent).trans ((get?_settle_self found pending.header _).trans gone)
        exact follow.same (.remove sound.subscriptions (place.ne_of_gone given missing))
      · exact follow

end Broker

/-! ## The whole run -/

def Moment.wish? (handle : Handle) : Moment -> Option Wish
  | .met broker occasion => broker.wish? handle occasion
  | .delivered _ => none

namespace History

/-- What a module has said about types in a run, as far as it was registered and the
broker understood it, the last word first. -/
def wishes (handle : Handle) (history : List Moment) : Wishes :=
  history.reverse.filterMap (Moment.wish? handle)

theorem wishes_met (handle : Handle) (history : List Moment) (broker : Broker)
    (occasion : Occasion) :
    wishes handle (history ++ [.met broker occasion]) =
      (broker.wish? handle occasion).toList ++ wishes handle history := by
  unfold wishes
  rw [List.reverse_append, List.reverse_singleton, List.singleton_append]
  cases said : broker.wish? handle occasion with
  | none => exact List.filterMap_cons_none said
  | some wish => exact List.filterMap_cons_some said

theorem wishes_delivered (handle : Handle) (history : List Moment) (delivery : Delivery) :
    wishes handle (history ++ [.delivered delivery]) = wishes handle history := by
  unfold wishes
  rw [List.reverse_append, List.reverse_singleton, List.singleton_append]
  exact List.filterMap_cons_none rfl

end History

namespace Bus

open History

variable {behaviour : Behaviour σ} {config : Config} {bus : Bus σ} {handle : Handle}

theorem Reachable.follow (reachable : bus.Reachable behaviour config)
    (place : bus.broker.HasPlace handle) :
    Subscriptions.Follow (wishes handle bus.history) handle bus.broker.subscriptions := by
  induction reachable with
  | start started queues =>
      rcases Broker.start_eq started with ⟨_, rfl⟩
      exact .empty handle
  | @step bus reachable move ih =>
      have sound := reachable.sound
      have before := ih (place.of_succeeds (succeeds_step behaviour sound move))
      cases move with
      | occasion occasion =>
          show Subscriptions.Follow (wishes handle (bus.history ++ [_])) handle _
          rw [wishes_met]
          exact Broker.follow_meet sound occasion place before
      | readers queues => exact before
      | deliver =>
          change Broker.HasPlace (bus.deliver behaviour).broker handle at place
          show Subscriptions.Follow (wishes handle (bus.deliver behaviour).history) handle
            (bus.deliver behaviour).broker.subscriptions
          cases next : bus.broker.outbox with
          | nil => rwa [deliver_of_nil behaviour next]
          | cons pending outbox =>
              rw [deliver_of_cons behaviour next] at place ⊢
              rw [wishes_delivered]
              exact (course_handOut behaviour sound pending outbox).follow (sound.popped next)
                place before

/-- Whether a registered module is subscribed to a type follows from what it has said
about the type and about everything. -/
theorem Reachable.wants_iff (reachable : bus.Reachable behaviour config)
    (registered : bus.broker.modules.isRegistered handle = true) (messageType : MessageType) :
    bus.broker.subscriptions.wants handle messageType = true ↔
      (wishes handle bus.history).wants MessageType.everything = true ∨
        (wishes handle bus.history).wants messageType = true ∧
          (wishes handle bus.history).isLapsed messageType = false :=
  (reachable.follow (Or.inl registered)).wants_iff reachable.sound.subscriptions messageType

end Bus

end MessageBus
