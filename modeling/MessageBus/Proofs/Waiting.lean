import Mathlib
import MessageBus.Client.Inbox

namespace MessageBus

open Wire

/-!
# What a wait takes

Whatever has come in at a client stands in one line: first the messages that were put
back, then the inbox.  A search for an acknowledgement goes along this line and takes
the first message of that type.  It asks neither whom the message is for nor which
request it answers, because nothing in an acknowledgement says so.  Everything it has
passed stays in line, in the same order.

So whether a wait ends with the right acknowledgement is decided by what stands in line
and not by the wait.  The number of the acknowledgements in line is all that has to be
kept in mind about it (`Client.answersIn`).
-/

/-- Whether a message is an acknowledgement. -/
def Message.isAnswer (message : Message) : Bool :=
  message.messageType = MessageType.acknowledge

/-- Whether an acknowledgement arrives. -/
def Arrival.isAnswer : Arrival -> Bool
  | .message heard => heard.isAnswer
  | .failure _ => false

/-- Whether a client that could not be let in for this reason has a line all the same. -/
def ClientError.keepsLine : ClientError -> Bool
  | .acknowledgementTimeout _ | .outOfSync _ | .textTooLong _ => true
  | .managerNotFound _ | .unusable _ | .notConnected | .connectionLost _
  | .invalidDestinationModule _ | .invalidDestinationHost _ | .invalidModuleId _ _
  | .payloadTooLarge _ _ | .emptyName => false

namespace Client

variable {client after : Client} {message : Message}

/-- What has come in and was not taken. -/
def inLine (client : Client) : List Arrival :=
  client.pending.map .message ++ (client.line.map Line.inbox).getD []

/-- The number of acknowledgements in line. -/
def answersIn (client : Client) : Nat :=
  client.inLine.countP Arrival.isAnswer

theorem eq_of_check {incoming : Message} (passed : client.check incoming = .found message) :
    incoming = message := by
  unfold check at passed
  split at passed
  · split at passed
    · exact Search.found.inj passed
    · cases passed
  · exact Search.found.inj passed

theorem check_ne_nothing (client : Client) (incoming : Message) :
    client.check incoming ≠ .nothing := by
  unfold check
  split
  · split <;> exact Search.noConfusion
  · exact Search.noConfusion

theorem inLine_next (taken : client.next = (.found message, after)) :
    client.inLine = .message message :: after.inLine := by
  unfold next at taken
  unfold inLine
  split at taken
  · next pending here =>
    cases taken
    rw [here]
    rfl
  · next empty =>
    split at taken
    · cases taken
    · next line connected =>
      rw [empty, connected]
      split at taken
      · cases taken
      · next arrival inbox full =>
        split at taken
        · next incoming =>
          have same := eq_of_check (congrArg Prod.fst taken)
          obtain rfl := congrArg Prod.snd taken
          simp [full, same, empty]
        · cases congrArg Prod.fst taken

theorem inLine_of_nothing (taken : client.next = (.nothing, after)) :
    client.inLine = [] ∧ after = client := by
  unfold next at taken
  unfold inLine
  split at taken
  · cases taken
  · next empty =>
    split at taken
    · cases taken
    · next line connected =>
      rw [empty, connected]
      split at taken
      · next nothing =>
        cases taken
        simp [nothing]
      · next arrival inbox full =>
        split at taken
        · next incoming => exact absurd (congrArg Prod.fst taken) (check_ne_nothing client incoming)
        · cases congrArg Prod.fst taken

/-! ## What a look leaves as it was -/

/-- A client apart from what has come in and from how much it has sent. -/
def bare (client : Client) : Client :=
  { client with messageCount := 0, line := none, pending := [] }

/-- Where the line of a client leads. -/
def server? (client : Client) : Option SocketAddress :=
  client.line.map Line.server

/-- Whether the line is still there when the search has ended. -/
def Search.keepsLine : Search -> Bool
  | .found _ | .nothing => true
  | .failed error => error.keepsLine

/-- A search has touched nothing but what has come in.  Nothing is put back, and the line is lost
only if the search tells so. -/
structure Looked (client : Client) (search : Search) (after : Client) : Prop where
  bare : after.bare = client.bare
  pending : after.pending ⊆ client.pending
  server? : after.server? = if search.keepsLine then client.server? else none

theorem Looked.trans {between : Client} {search : Search}
    (early : Looked client (.found message) between) (late : Looked between search after) :
    Looked client search after where
  bare := late.bare.trans early.bare
  pending := List.Subset.trans late.pending early.pending
  server? := by
    rw [late.server?, early.server?]
    rfl

theorem keepsLine_check (client : Client) (incoming : Message) :
    (client.check incoming).keepsLine = true := by
  unfold check
  split
  · split <;> rfl
  · rfl

theorem keepsLine_ofProtocolError (error : ProtocolError) :
    (ClientError.ofProtocolError error).keepsLine = !error.isFatal := by
  unfold ClientError.ofProtocolError
  cases error.isFatal <;> rfl

theorem looked_next (client : Client) : Looked client client.next.1 client.next.2 := by
  unfold next
  split
  · next message pending here =>
    refine ⟨rfl, ?_, rfl⟩
    rw [here]
    exact List.subset_cons_self message pending
  · split
    · next apart => exact ⟨rfl, List.Subset.refl _, congrArg (Option.map _) apart⟩
    · next line connected =>
      have leads : client.server? = some line.server := congrArg (Option.map _) connected
      split
      · exact ⟨rfl, List.Subset.refl _, rfl⟩
      · next arrival inbox full =>
        dsimp only
        split
        · next incoming =>
          refine ⟨rfl, List.Subset.refl _, ?_⟩
          rw [keepsLine_check, if_pos rfl, leads]
          rfl
        · next error =>
          have keeps : (Search.failed (.ofProtocolError error)).keepsLine = !error.isFatal :=
            keepsLine_ofProtocolError error
          generalize error.isFatal = isFatal at keeps ⊢
          cases isFatal with
          | true => exact ⟨rfl, List.Subset.refl _, by rw [keeps]; rfl⟩
          | false => exact ⟨rfl, List.Subset.refl _, by rw [keeps, leads]; rfl⟩

theorem looked_findAcknowledgement (client : Client) (held : List Message) :
    let result := client.findAcknowledgement held
    Looked client result.1 result.2.2 := by
  intro result
  unfold result
  fun_induction Client.findAcknowledgement client held with
  | case1 client held message after taken found =>
      have looked := looked_next client
      rwa [taken] at looked
  | case2 client held message after taken other ih =>
      have looked := looked_next client
      rw [taken] at looked
      exact looked.trans ih
  | case3 client held search after other taken =>
      have looked := looked_next client
      rwa [taken] at looked

/-- What a search for an acknowledgement takes and passes. -/
inductive Searched (client : Client) (held : List Message) :
    Search × List Message × Client -> Prop where
  | found {message : Message} {passed : List Message} {after : Client}
      (isAnswer : message.isAnswer = true)
      (others : ∀ message ∈ passed, message.isAnswer = false)
      (line : client.inLine = passed.map .message ++ .message message :: after.inLine) :
      Searched client held (.found message, held ++ passed, after)
  | nothing {passed : List Message} {after : Client}
      (others : ∀ message ∈ passed, message.isAnswer = false)
      (line : client.inLine = passed.map .message) (empty : after.inLine = []) :
      Searched client held (.nothing, held ++ passed, after)
  | failed {error : ClientError} {passed : List Message} {after : Client}
      (others : ∀ message ∈ passed, message.isAnswer = false) :
      Searched client held (.failed error, held ++ passed, after)

/-- A search takes the first acknowledgement in line, and keeps what it has passed. -/
theorem searched (client : Client) (held : List Message) :
    Searched client held (client.findAcknowledgement held) := by
  fun_induction Client.findAcknowledgement client held with
  | case1 client held message after taken isAnswer =>
      have found : Searched client held (.found message, held ++ [], after) :=
        .found (decide_eq_true isAnswer) (fun _ absent => absurd absent List.not_mem_nil)
          (inLine_next taken)
      rwa [List.append_nil] at found
  | case2 client held message after taken other ih =>
      have first := inLine_next taken
      have others : ∀ {passed : List Message}, (∀ message ∈ passed, message.isAnswer = false) ->
          ∀ later ∈ message :: passed, later.isAnswer = false := by
        intro passed rest
        exact List.forall_mem_cons.mpr ⟨decide_eq_false other, rest⟩
      generalize after.findAcknowledgement (held ++ [message]) = result at ih
      cases ih with
      | found isAnswer rest line =>
          rw [List.append_assoc]
          exact .found isAnswer (others rest) (by rw [first, line]; rfl)
      | nothing rest line empty =>
          rw [List.append_assoc]
          exact .nothing (others rest) (by rw [first, line]; rfl) empty
      | failed rest =>
          rw [List.append_assoc]
          exact .failed (others rest)
  | case3 client held search after other taken =>
      have result : Searched client held (search, held ++ [], after) := by
        cases search with
        | found message => exact absurd rfl (other message)
        | nothing =>
            rcases inLine_of_nothing taken with ⟨empty, rfl⟩
            exact .nothing (fun _ absent => absurd absent List.not_mem_nil) empty empty
        | failed error => exact .failed fun _ absent => absurd absent List.not_mem_nil
      rwa [List.append_nil] at result

/-! ## Counting acknowledgements -/

theorem inLine_putBack (client : Client) (held : List Message) :
    (client.putBack held).inLine = held.map .message ++ client.inLine := by
  simp [inLine, putBack]

theorem countP_others {passed : List Message}
    (others : ∀ message ∈ passed, message.isAnswer = false) :
    (passed.map Arrival.message).countP Arrival.isAnswer = 0 := by
  rw [List.countP_map, List.countP_eq_zero]
  intro message here answer
  exact Bool.false_ne_true ((others message here).symm.trans answer)

theorem answersIn_putBack {held : List Message}
    (others : ∀ message ∈ held, message.isAnswer = false) :
    (client.putBack held).answersIn = client.answersIn := by
  unfold answersIn
  rw [inLine_putBack, List.countP_append, countP_others others, Nat.zero_add]

theorem answersIn_of_found {passed : List Message} (isAnswer : message.isAnswer = true)
    (others : ∀ message ∈ passed, message.isAnswer = false)
    (line : client.inLine = passed.map .message ++ .message message :: after.inLine) :
    client.answersIn = after.answersIn + 1 := by
  have arrives : (Arrival.message message).isAnswer = true := isAnswer
  unfold answersIn
  rw [line, List.countP_append, countP_others others, Nat.zero_add, List.countP_cons_of_pos arrives]

theorem answersIn_of_others {passed : List Message}
    (others : ∀ message ∈ passed, message.isAnswer = false)
    (line : client.inLine = passed.map .message) : client.answersIn = 0 := by
  unfold answersIn
  rw [line, countP_others others]

theorem answersIn_of_empty (empty : client.inLine = []) : client.answersIn = 0 := by
  unfold answersIn
  rw [empty]
  rfl

end Client

end MessageBus
