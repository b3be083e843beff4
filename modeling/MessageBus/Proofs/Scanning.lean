import MessageBus.Proofs.Calls

namespace MessageBus

open Wire

/-!
# Going along the line

A client takes messages for two reasons: to find one that it wants, which is returned or
dropped, and to find an acknowledgement.  Each of these is written as a loop of its own,
over two buffers, and ends in several ways.  But both of them do the same: they go along
the line of what has come in, from the front, and they differ only in the message that
they end with.  `Client.scan` is this walk, and the two loops are shown to be instances of
it.

Besides finding what it is for, a walk can come to the end of the line, or upon something
that has to be reported: a message that disagrees with the schemas, or a failure of the
stream.  In each case what it has passed is the front of the line, up to there and
without a gap (`Client.Scanned`).  What was put back in line had been looked at before and
is not looked at again, so this supposes that nothing faulty was ever put back.
-/

/-- Whether nothing can come behind it. -/
def Arrival.isEnd : Arrival -> Bool
  | .message _ => false
  | .failure error => error.isFatal

namespace Client

variable {client after : Client} {message : Message} {ends : Message -> Bool}

/-- What a client has to report about something that has come in. -/
def fault? (client : Client) : Arrival -> Option ClientError
  | .failure error => some (.ofProtocolError error)
  | .message message =>
      if client.settings.isChecking then
        match client.settings.schemas.validate message.header with
        | .ok _ => none
        | .error error => some (.outOfSync error)
      else none

theorem check_eq (client : Client) (message : Message) :
    client.check message =
      match client.fault? (.message message) with
      | none => .found message
      | some error => .failed error := by
  unfold check
  split
  · next isChecking =>
    simp only [fault?, isChecking, if_true]
    cases client.settings.schemas.validate message.header <;> rfl
  · next unchecked => simp only [fault?, unchecked, Bool.false_eq_true, if_false]

theorem fault?_congr (same : after.settings = client.settings) (arrival : Arrival) :
    after.fault? arrival = client.fault? arrival := by
  cases arrival with
  | failure error => rfl
  | message message =>
      unfold fault?
      rw [same]

theorem Unmoved.accepts (moved : Unmoved client after) (messageType : MessageType) :
    after.accepts messageType = client.accepts messageType := by
  unfold Client.accepts
  rw [moved.subscribed, moved.isLogger]

/-- Nothing that was put back in line is faulty. -/
def IsClean (client : Client) : Prop :=
  ∀ message ∈ client.pending, client.fault? (.message message) = none

/-! ## One thing -/

/-- What is first in line, and what becomes of it when it is taken.  Behind the end of a
stream something can be lost. -/
inductive Nexts (client : Client) : Search × Client -> Prop where
  | found {message : Message} {after : Client}
      (clean : client.fault? (.message message) = none)
      (line : client.inLine = .message message :: after.inLine) :
      Nexts client (.found message, after)
  | nothing (empty : client.inLine = []) : Nexts client (.nothing, client)
  | unconnected (empty : client.inLine = []) : Nexts client (.failed .notConnected, client)
  | faulty {arrival : Arrival} {error : ClientError} {after : Client} (lost : List Arrival)
      (fault : client.fault? arrival = some error)
      (line : client.inLine = arrival :: (after.inLine ++ lost))
      (whole : arrival.isEnd = false -> lost = []) :
      Nexts client (.failed error, after)

theorem nexts (clean : client.IsClean) : Nexts client client.next := by
  unfold next
  split
  · next message pending here =>
    refine .found (clean message (by rw [here]; exact List.mem_cons_self)) ?_
    simp [inLine, here]
  · next empty =>
    split
    · next gone =>
      exact .unconnected (by simp [inLine, empty, gone])
    · next line connected =>
      split
      · next nothing =>
        exact .nothing (by simp [inLine, empty, connected, nothing])
      · next arrival inbox full =>
        have first : client.inLine = arrival :: inbox := by
          simp [inLine, empty, connected, full]
        dsimp only
        split
        · next message =>
          have rest : { client with line := some { line with inbox } }.inLine = inbox := by
            simp [inLine, empty]
          rw [check_eq]
          cases faulty : client.fault? (.message message) with
          | none => exact .found faulty (by rw [rest, first])
          | some error =>
              refine .faulty [] faulty ?_ fun _ => rfl
              rw [rest, first, List.append_nil]
        · next error =>
          have fault : client.fault? (.failure error) = some (.ofProtocolError error) := rfl
          split
          · next isFatal =>
            refine .faulty inbox fault ?_ fun more => ?_
            · rw [first]
              simp [inLine, letGo, empty]
            · exact absurd (more.symm.trans isFatal) Bool.false_ne_true
          · refine .faulty [] fault ?_ fun _ => rfl
            rw [first]
            simp [inLine, empty]

/-- A client takes from what is in line and changes nothing else about it. -/
structure Draws (client after : Client) : Prop where
  unmoved : Unmoved client after
  pending : ∀ message ∈ after.pending, message ∈ client.pending

theorem Looked.draws {search : Search} (looked : Looked client search after) :
    Draws client after where
  unmoved := .of_bare looked.bare
  pending _ here := looked.pending here

theorem draws_next (client : Client) : Draws client client.next.2 :=
  (looked_next client).draws

theorem Draws.trans {first second third : Client} (early : Draws first second)
    (late : Draws second third) : Draws first third where
  unmoved := early.unmoved.trans late.unmoved
  pending message here := early.pending message (late.pending message here)

theorem Draws.fault? (draws : Draws client after) (arrival : Arrival) :
    after.fault? arrival = client.fault? arrival :=
  fault?_congr draws.unmoved.settings arrival

theorem Draws.isClean (draws : Draws client after) (clean : client.IsClean) : after.IsClean := by
  intro message here
  rw [draws.fault?]
  exact clean message (draws.pending message here)

/-! ## The walk -/

/-- Go along the line to the first message of a kind, and tell what was passed. -/
def scan (ends : Message -> Bool) (client : Client) : Search × List Message × Client :=
  match _taken : client.next with
  | (.found message, after) =>
      if ends message then (.found message, [], after)
      else
        let (search, passed, last) := after.scan ends
        (search, message :: passed, last)
  | (stopped, after) => (stopped, [], after)
termination_by client.unread
decreasing_by exact unread_next_lt _taken

theorem looked_scan (ends : Message -> Bool) (client : Client) :
    Looked client (client.scan ends).1 (client.scan ends).2.2 := by
  fun_induction scan ends client with
  | case1 client message after taken found =>
      have looked := looked_next client
      rwa [taken] at looked
  | case2 client message after taken other search passed last walked ih =>
      have looked := looked_next client
      rw [taken] at looked
      rw [walked] at ih
      exact looked.trans ih
  | case3 client stopped after other taken =>
      have looked := looked_next client
      rwa [taken] at looked

theorem draws_scan (ends : Message -> Bool) (client : Client) :
    Draws client (client.scan ends).2.2 :=
  (looked_scan ends client).draws

/-- A message that a walk does not end with, and that is not reported. -/
def Passes (client : Client) (ends : Message -> Bool) (message : Message) : Prop :=
  client.fault? (.message message) = none ∧ ends message = false

/-- What a walk has passed and where it has ended. -/
inductive Scanned (client : Client) (ends : Message -> Bool) :
    Search × List Message × Client -> Prop where
  | found {message : Message} {passed : List Message} {after : Client}
      (passes : ∀ earlier ∈ passed, client.Passes ends earlier)
      (clean : client.fault? (.message message) = none) (isEnding : ends message = true)
      (line : client.inLine = passed.map .message ++ .message message :: after.inLine) :
      Scanned client ends (.found message, passed, after)
  | nothing {passed : List Message} {after : Client}
      (passes : ∀ earlier ∈ passed, client.Passes ends earlier)
      (line : client.inLine = passed.map .message) (empty : after.inLine = []) :
      Scanned client ends (.nothing, passed, after)
  | unconnected {passed : List Message} {after : Client}
      (passes : ∀ earlier ∈ passed, client.Passes ends earlier)
      (line : client.inLine = passed.map .message) (empty : after.inLine = []) :
      Scanned client ends (.failed .notConnected, passed, after)
  | faulty {arrival : Arrival} {error : ClientError} {passed : List Message}
      {lost : List Arrival} {after : Client}
      (passes : ∀ earlier ∈ passed, client.Passes ends earlier)
      (fault : client.fault? arrival = some error)
      (line : client.inLine = passed.map .message ++ arrival :: (after.inLine ++ lost))
      (whole : arrival.isEnd = false -> lost = []) :
      Scanned client ends (.failed error, passed, after)

theorem scanned (clean : client.IsClean) (ends : Message -> Bool) :
    Scanned client ends (client.scan ends) := by
  have none_passed : ∀ client : Client, ∀ earlier ∈ ([] : List Message),
      client.Passes ends earlier := fun _ _ absent => absurd absent List.not_mem_nil
  fun_induction scan ends client with
  | case1 client message after taken found =>
      have nexts := nexts clean
      rw [taken] at nexts
      cases nexts with
      | found clean line => exact .found (none_passed client) clean found line
  | case2 client message after taken other search passed last walked ih =>
      have nexts := nexts clean
      have drawn := draws_next client
      rw [taken] at nexts drawn
      have later := ih (drawn.isClean clean)
      rw [walked] at later
      have all : ∀ {passed : List Message}, (∀ earlier ∈ passed, after.Passes ends earlier) ->
          client.fault? (.message message) = none ->
            ∀ earlier ∈ message :: passed, client.Passes ends earlier := by
        intro passed passes clean
        refine List.forall_mem_cons.mpr ⟨⟨clean, Bool.eq_false_of_not_eq_true other⟩, ?_⟩
        intro earlier here
        rcases passes earlier here with ⟨fine, goesOn⟩
        exact ⟨(drawn.fault? _).symm.trans fine, goesOn⟩
      cases nexts with
      | found sound first =>
          cases later with
          | found passes clean isEnding line =>
              refine .found (all passes sound) ((drawn.fault? _).symm.trans clean) isEnding ?_
              rw [first, line]
              rfl
          | nothing passes line empty =>
              exact .nothing (all passes sound) (by rw [first, line]; rfl) empty
          | unconnected passes line empty =>
              exact .unconnected (all passes sound) (by rw [first, line]; rfl) empty
          | faulty passes fault line whole =>
              refine .faulty (all passes sound) ((drawn.fault? _).symm.trans fault) ?_ whole
              rw [first, line]
              rfl
  | case3 client stopped after other taken =>
      have nexts := nexts clean
      rw [taken] at nexts
      cases nexts with
      | found => exact absurd rfl (other _)
      | nothing empty => exact .nothing (none_passed client) empty empty
      | unconnected empty => exact .unconnected (none_passed client) empty empty
      | faulty lost fault line whole => exact .faulty (none_passed client) fault line whole

/-! ## The two loops -/

theorem scan_of_found (taken : client.next = (.found message, after)) :
    client.scan ends =
      if ends message then (.found message, [], after)
      else ((after.scan ends).1, message :: (after.scan ends).2.1, (after.scan ends).2.2) := by
  rw [scan]
  split
  · next found last same =>
    cases taken.symm.trans same
    rfl
  · next stopped last other same =>
    cases taken.symm.trans same
    exact absurd rfl (other message)

theorem scan_of_stopped {stopped : Search} (taken : client.next = (stopped, after))
    (other : ∀ message, stopped ≠ .found message) :
    client.scan ends = (stopped, [], after) := by
  rw [scan]
  split
  · next found last same =>
    cases taken.symm.trans same
    exact absurd rfl (other found)
  · next search last _ same =>
    cases taken.symm.trans same
    rfl

/-- The messages that a client wants to see. -/
def wants (client : Client) (message : Message) : Bool :=
  client.accepts message.messageType

theorem Draws.wants (draws : Draws client after) : after.wants = client.wants :=
  funext fun message => draws.unmoved.accepts message.messageType

theorem read_eq (client : Client) :
    client.read = ((client.scan client.wants).1, (client.scan client.wants).2.2) := by
  fun_induction Client.read client with
  | case1 client message after taken wanted =>
      have drawn := draws_next client
      rw [taken] at drawn
      have isEnding : client.wants message = true := drawn.wants ▸ wanted
      rw [scan_of_found taken, if_pos isEnding]
  | case2 client message after taken unwanted ih =>
      have drawn := draws_next client
      rw [taken] at drawn
      have goesOn : ¬ client.wants message = true := drawn.wants ▸ unwanted
      rw [ih, scan_of_found taken, if_neg goesOn, drawn.wants]
  | case3 client other =>
      rcases taken : client.next with ⟨stopped, last⟩
      rw [scan_of_stopped taken fun message same => other message last (same ▸ taken)]

theorem findAcknowledgement_eq (client : Client) (held : List Message) :
    client.findAcknowledgement held =
      ((client.scan Message.isAnswer).1, held ++ (client.scan Message.isAnswer).2.1,
        (client.scan Message.isAnswer).2.2) := by
  fun_induction Client.findAcknowledgement client held with
  | case1 client held message after taken found =>
      have isEnding : message.isAnswer = true := decide_eq_true found
      rw [scan_of_found taken, if_pos isEnding, List.append_nil]
  | case2 client held message after taken other ih =>
      have goesOn : ¬ message.isAnswer = true := fun isAnswer => other (of_decide_eq_true isAnswer)
      rw [ih, scan_of_found taken, if_neg goesOn, List.append_assoc]
      rfl
  | case3 client held stopped after other taken =>
      have stops : ∀ message, stopped ≠ .found message := fun message same => other message same
      rw [scan_of_stopped taken stops, List.append_nil]

end Client

end MessageBus
