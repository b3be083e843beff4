import MessageBus.Proofs.Enrollment
import MessageBus.Proofs.Ledger

namespace MessageBus

open Wire

/-!
# What a turn looks for

A client looks at what is in line for one of three errands: it reads a message, it waits for an
acknowledgement, or it drops a message that it would have read.  A turn, which is the beginning of
a call or what a call does upon a signal, has at most one of them, because before a call can look
for a second acknowledgement it has to write another frame, and before it drops a second message
it has to know the time.

An errand says of every message that is come upon which place it has, up to the one that ends
the errand (`Client.Errand.places`).  A turn that keeps the line deals with it accordingly: what it
answers is what its errand has come upon, and what is left in line, or is held, is what
still waits (`Client.Turned`).

This supposes that the messages that a call holds and those that were put back are neither
acknowledgements nor faulty (`Client.Quiet`), and every turn leaves it so.
-/

namespace Client

/-- Whether a call tells nothing about what is in line. -/
def Progress.isSilent : Progress -> Bool
  | .finished (.ok (.message _)) => false
  | .finished (.error (.outOfSync _)) | .finished (.error (.connectionLost _)) => false
  | .finished _ | .waiting _ _ => true

/-- The messages that a call holds. -/
def Progress.held : Progress -> List Message
  | .waiting (.acknowledgement _ _ _ held) _ => held
  | .waiting _ _ | .finished _ => []

/-! ## What is looked for -/

/-- What a turn looks for in line. -/
inductive Errand where
  | read
  | wait
  /-- Reading only to drop what was read, with more to be dropped until the deadline. -/
  | clear (deadline : Milliseconds)
deriving DecidableEq, Repr

namespace Errand

/-- Whether a message is what is looked for. -/
def ends (errand : Errand) (client : Client) : Message -> Bool :=
  match errand with
  | .read | .clear _ => client.wants
  | .wait => Message.isAnswer

/-- The place of a message that is come upon. -/
def place (errand : Errand) (client : Client) (message : Message) : Place :=
  match errand with
  | .read | .clear _ => if client.wants message then .returned else .discarded
  | .wait => if message.isAnswer then .consumed else .waiting

/-- The places for those in line, up to the one that ends the errand. -/
def places (errand : Errand) (client : Client) : List Arrival -> List Place
  | [] => []
  | .failure _ :: _ => [.reported]
  | .message message :: line =>
      if (client.fault? (.message message)).isSome then [.reported]
      else if errand.ends client message then [errand.place client message]
      else errand.place client message :: errand.places client line

/-- What is answered when the errand has come upon a message. -/
def Brings (errand : Errand) (message : Message) (progress : Progress) : Prop :=
  match errand with
  | .read => progress = .finished (.ok (.message message))
  | .clear deadline => progress = .waiting (.time deadline) []
  | .wait => progress.awaitsAnswer = false ∧
      (progress = .finished (.ok (.message message)) ∨ progress.isSilent = true)

/-- What is looked for when steps are done. -/
def ofSteps? (now : Milliseconds) : List Step -> Option Errand
  | .read _ :: _ => some .read
  | .discard limit :: _ => some (.clear (now + limit))
  | .acknowledged _ _ :: _ => some .wait
  | .mark _ _ :: rest => ofSteps? now rest
  | _ => none

/-- What is looked for when a call goes on. -/
def ofNeed? (now : Milliseconds) (rest : List Step) : Need -> Signal -> Option Errand
  | .room _, .written => ofSteps? now rest
  | .message _, .arrived => some .read
  | .acknowledgement _ _ _ _, .arrived => some .wait
  | .time deadline, .inTime => some (.clear deadline)
  | _, _ => none

variable {errand : Errand} {client : Client} {message : Message} {arrival : Arrival}
  {error : ClientError} {passed : List Message}

theorem places_append (passes : ∀ earlier ∈ passed, client.Passes (errand.ends client) earlier)
    (line : List Arrival) :
    errand.places client (passed.map .message ++ line) =
      passed.map (errand.place client) ++ errand.places client line := by
  induction passed with
  | nil => rfl
  | cons first passed ih =>
      rcases List.forall_mem_cons.mp passes with ⟨⟨clean, goesOn⟩, later⟩
      simp only [List.map_cons, List.cons_append, places, clean, Option.isSome_none,
        Bool.false_eq_true, if_false, goesOn, ih later]

theorem places_found (clean : client.fault? (.message message) = none)
    (isEnding : errand.ends client message = true) (line : List Arrival) :
    errand.places client (.message message :: line) = [errand.place client message] := by
  simp only [places, clean, Option.isSome_none, Bool.false_eq_true, if_false, isEnding, if_true]

theorem places_faulty (fault : client.fault? arrival = some error) (line : List Arrival) :
    errand.places client (arrival :: line) = [.reported] := by
  cases arrival with
  | failure cause => rfl
  | message message => simp only [places, fault, Option.isSome_some, if_true]

/-- Whoever reads leaves nothing waiting. -/
theorem place_of_reads (reads : errand ≠ .wait) (client : Client) (message : Message) :
    errand.place client message ≠ .waiting := by
  cases errand with
  | wait => exact absurd rfl reads
  | read | clear deadline =>
      simp only [place]
      split <;> exact Place.noConfusion

theorem place_of_ends (isEnding : errand.ends client message = true) :
    errand.place client message ≠ .waiting := by
  cases errand with
  | wait =>
      have isAnswer : message.isAnswer = true := isEnding
      simp [place, isAnswer]
  | read | clear deadline => exact place_of_reads Errand.noConfusion client message

theorem forall_places {holds : Place -> Prop} (reported : holds .reported)
    (each : ∀ message, holds (errand.place client message)) (line : List Arrival) :
    ∀ place ∈ errand.places client line, holds place := by
  fun_induction places errand client line with
  | case1 => exact List.forall_mem_nil _
  | case2 => exact List.forall_mem_singleton.mpr reported
  | case3 => exact List.forall_mem_singleton.mpr reported
  | case4 message line clean isEnding => exact List.forall_mem_singleton.mpr (each message)
  | case5 message line clean goesOn ih => exact List.forall_mem_cons.mpr ⟨each message, ih⟩

theorem isWhole_places (errand : Errand) (client : Client) (line : List Arrival) :
    Ledger.IsWhole (errand.places client line) := by
  cases errand with
  | wait =>
      refine Or.inr (@forall_places _ _ (fun place => place.isRead = false) rfl ?_ line)
      intro message
      simp only [place]
      split <;> rfl
  | read | clear deadline =>
      exact Or.inl (forall_places Place.noConfusion
        (place_of_reads Errand.noConfusion client) line)

/-- The messages that are left waiting of those that are passed. -/
def leaves (errand : Errand) (client : Client) (passed : List Message) : List Message :=
  passed.filter fun message => errand.place client message = .waiting

theorem leaves_wait (passes : ∀ earlier ∈ passed, client.Passes Message.isAnswer earlier) :
    Errand.wait.leaves client passed = passed := by
  refine List.filter_eq_self.mpr fun message here => ?_
  have other := (passes message here).2
  simp [place, other]

theorem leaves_of_reads (reads : errand ≠ .wait) : errand.leaves client passed = [] :=
  List.filter_eq_nil_iff.mpr fun message _ stays =>
    place_of_reads reads client message (of_decide_eq_true stays)

end Errand

/-- What a turn says of a line, and what it answers.  It has no errand and says nothing; or it
has come upon a message, or upon nothing, or upon something to report.  All that it has passed
is the front of the line. -/
inductive Deals (client : Client) (line : List Arrival) :
    Option Errand -> List Place -> Progress -> Prop where
  | idle {progress : Progress} (silent : progress.isSilent = true) :
      Deals client line none [] progress
  | found {errand : Errand} {message : Message} {passed : List Message} {later : List Arrival}
      {progress : Progress} (front : line = passed.map .message ++ .message message :: later)
      (passes : ∀ earlier ∈ passed, client.Passes (errand.ends client) earlier)
      (clean : client.fault? (.message message) = none)
      (isEnding : errand.ends client message = true) (brings : errand.Brings message progress) :
      Deals client line (some errand)
        (passed.map (errand.place client) ++ [errand.place client message]) progress
  | exhausted {errand : Errand} {passed : List Message} {progress : Progress}
      (all : line = passed.map .message)
      (passes : ∀ earlier ∈ passed, client.Passes (errand.ends client) earlier)
      (silent : progress.isSilent = true) :
      Deals client line (some errand) (passed.map (errand.place client)) progress
  | faulty {errand : Errand} {arrival : Arrival} {error : ClientError} {passed : List Message}
      {later : List Arrival} (front : line = passed.map .message ++ arrival :: later)
      (passes : ∀ earlier ∈ passed, client.Passes (errand.ends client) earlier)
      (fault : client.fault? arrival = some error) :
      Deals client line (some errand) (passed.map (errand.place client) ++ [.reported])
        (.finished (.error error))

/-- Nothing comes behind the end of a stream. -/
def IsUnbroken (line : List Arrival) : Prop :=
  line.Pairwise fun earlier _ => earlier.isEnd = false

instance (line : List Arrival) : Decidable (IsUnbroken line) :=
  inferInstanceAs (Decidable (line.Pairwise fun earlier _ => earlier.isEnd = false))

variable {client after : Client} {held passed : List Message} {progress : Progress}
  {search : Search}

theorem IsUnbroken.lost_eq_nil {front line lost : List Arrival} {arrival : Arrival}
    (unbroken : IsUnbroken (front ++ arrival :: (line ++ lost)))
    (whole : arrival.isEnd = false -> lost = []) : lost = [] := by
  rcases lost with _ | ⟨first, lost⟩
  · rfl
  · refine whole ((List.pairwise_cons.mp (List.pairwise_append.mp unbroken).2.1).1 first ?_)
    exact List.mem_append_right _ List.mem_cons_self

/-- A walk is for its errand what it comes upon, if the call answers accordingly. -/
theorem deals_of_scan (clean : client.IsClean) (unbroken : IsUnbroken client.inLine)
    {errand : Errand} (passes : ∀ earlier ∈ held, client.Passes (errand.ends client) earlier)
    (walked : client.scan (errand.ends client) = (search, passed, after))
    (found : ∀ message, search = .found message -> errand.Brings message progress)
    (nothing : search = .nothing -> progress.isSilent = true)
    (failed : ∀ error, search = .failed error -> progress = .finished (.error error)) :
    let line := held.map .message ++ client.inLine
    Deals client line (some errand) (errand.places client line) progress ∧
      Ledger.remaining (errand.places client line) line =
        (errand.leaves client (held ++ passed)).map .message ++ after.inLine := by
  intro line
  have scanned := scanned clean (errand.ends client)
  rw [walked] at scanned
  have all : ∀ {passed : List Message},
      (∀ earlier ∈ passed, client.Passes (errand.ends client) earlier) ->
        ∀ earlier ∈ held ++ passed, client.Passes (errand.ends client) earlier :=
    fun later earlier here => (List.mem_append.mp here).elim (passes earlier) (later earlier)
  have ended : (∀ earlier ∈ passed, client.Passes (errand.ends client) earlier) ->
      client.inLine = passed.map .message -> after.inLine = [] -> progress.isSilent = true ->
        Deals client line (some errand) (errand.places client line) progress ∧
          Ledger.remaining (errand.places client line) line =
            (errand.leaves client (held ++ passed)).map .message ++ after.inLine := by
    intro later front empty silent
    have first : line = (held ++ passed).map .message ++ [] := by
      rw [List.map_append, List.append_nil, ← front]
    have places : errand.places client line =
        (held ++ passed).map (errand.place client) ++ [] := by
      rw [first, Errand.places_append (all later), Errand.places]
    rw [places, empty]
    refine ⟨?_, by rw [first, Ledger.remaining_front]; rfl⟩
    rw [List.append_nil] at first ⊢
    exact .exhausted first (all later) silent
  cases scanned with
  | @found message _ _ later clean isEnding front =>
      have first : line = (held ++ passed).map .message ++ .message message :: after.inLine := by
        rw [List.map_append, List.append_assoc, ← front]
      have places : errand.places client line =
          (held ++ passed).map (errand.place client) ++ [errand.place client message] := by
        rw [first, Errand.places_append (all later), Errand.places_found clean isEnding]
      rw [places]
      refine ⟨.found first (all later) clean isEnding (found message rfl), ?_⟩
      rw [first, Ledger.remaining_front]
      simp only [Ledger.remaining, Errand.place_of_ends isEnding, if_false]
      rfl
  | nothing later front empty => exact ended later front empty (nothing rfl)
  | unconnected later front empty =>
      exact ended later front empty (by rw [failed _ rfl]; rfl)
  | @faulty arrival error _ lost _ later fault front whole =>
      rw [front] at unbroken
      rw [unbroken.lost_eq_nil whole, List.append_nil] at front
      have first : line = (held ++ passed).map .message ++ arrival :: after.inLine := by
        rw [List.map_append, List.append_assoc, ← front]
      have places : errand.places client line =
          (held ++ passed).map (errand.place client) ++ [.reported] := by
        rw [first, Errand.places_append (all later), Errand.places_faulty fault]
      rw [places, failed error rfl]
      refine ⟨.faulty first (all later) fault, ?_⟩
      rw [first, Ledger.remaining_front]
      rfl

/-! ## Where a call can be -/

/-- Nothing that was put aside is an acknowledgement or would be reported. -/
def Quiet (held : List Message) (client : Client) : Prop :=
  ∀ message ∈ held ++ client.pending, client.Passes Message.isAnswer message

theorem Quiet.isClean (quiet : Quiet held client) : client.IsClean :=
  fun message here => (quiet message (List.mem_append_right held here)).1

theorem Quiet.passes (quiet : Quiet held client) :
    ∀ message ∈ held, client.Passes Message.isAnswer message :=
  fun message here => quiet message (List.mem_append_left client.pending here)

theorem Quiet.of_settings (quiet : Quiet held client) (settings : after.settings = client.settings)
    {kept : List Message} (keeps : ∀ message ∈ kept ++ after.pending,
      message ∈ held ++ client.pending ∨ client.Passes Message.isAnswer message) :
    Quiet kept after := by
  intro message here
  have passes : client.Passes Message.isAnswer message :=
    (keeps message here).elim (quiet message) id
  exact ⟨(fault?_congr settings _).trans passes.1, passes.2⟩

/-- The steps that are left when a frame is to be written.  At most one of them looks at what
is in line before the next frame. -/
inductive Sequel : List Step -> Prop where
  | done : Sequel []
  | awaiting {wish? : Option Wish} {notes later : List Step} {purpose : Purpose}
      {limit : Milliseconds} (noted : Notes wish? notes) (plan : Plan later) :
      Sequel (notes ++ .acknowledged purpose limit :: later)

/-- Where a call can be that keeps the line. -/
inductive Engaged : Progress -> Prop where
  | finished (result : Except ClientError Reply) : Engaged (.finished result)
  | sending {frame : Bytes} {rest : List Step} (sequel : Sequel rest) :
      Engaged (.waiting (.room frame) rest)
  | reading (deadline : Option Milliseconds) : Engaged (.waiting (.message deadline) [])
  | clearing (deadline : Milliseconds) : Engaged (.waiting (.time deadline) [])
  | seeking {purpose : Purpose} {limit deadline : Milliseconds} {held : List Message}
      {rest : List Step} (plan : Plan rest) :
      Engaged (.waiting (.acknowledgement purpose limit deadline held) rest)

/-- A call that looks at nothing that is in line. -/
structure Rests (progress : Progress) : Prop where
  engaged : Engaged progress
  silent : progress.isSilent = true
  awaitsAnswer : progress.awaitsAnswer = false
  held : progress.held = []

theorem rests_of_error {error : ClientError}
    (silent : (Progress.finished (.error error)).isSilent = true) :
    Rests (.finished (.error error)) :=
  ⟨.finished _, silent, rfl, rfl⟩

theorem Sequel.stays {rest : List Step} (sequel : Sequel rest) : Step.hangUp ∉ rest := by
  cases sequel with
  | done => exact List.not_mem_nil
  | awaiting noted plan => cases noted <;> simpa using plan.stays

theorem silent_of_frame {message : Message} {module : ModuleId} {host : HostId}
    {error : ClientError} (framed : client.frame message module host = .error error) :
    (Progress.finished (.error error)).isSilent = true := by
  unfold Client.frame at framed
  repeat' split at framed
  all_goals cases framed
  all_goals rfl

theorem rests_post {rest : List Step} (sequel : Sequel rest) (client : Client) (message : Message)
    (module : ModuleId) (host : HostId) :
    ∃ progress, client.post message module host rest = (progress, client) ∧ Rests progress := by
  unfold post
  cases framed : client.frame message module host with
  | error error =>
      exact ⟨_, fail_eq client error sequel.stays, rests_of_error (silent_of_frame framed)⟩
  | ok frame => exact ⟨_, rfl, .sending sequel, rfl, rfl, rfl⟩

theorem rests_perform (now : Milliseconds) {steps : List Step} (plan : Plan steps)
    (client : Client) :
    ∃ progress, perform now steps client = (progress, client) ∧ Rests progress := by
  cases plan with
  | done => exact ⟨_, rfl, .finished _, rfl, rfl, rfl⟩
  | asking bears noted later => exact rests_post (.awaiting noted later) client _ _ _

theorem ofSteps?_of_plan (now : Milliseconds) {steps : List Step} (plan : Plan steps) :
    Errand.ofSteps? now steps = none := by
  cases plan <;> rfl

/-! ## One turn -/

/-- The places that an errand gives, if there is one. -/
def placesFor (errand? : Option Errand) (client : Client) (line : List Arrival) : List Place :=
  match errand? with
  | none => []
  | some errand => errand.places client line

/-- What a turn has done: it has dealt with the line according to its errand, and the line
is what still waits. -/
structure Turned (client : Client) (held : List Message) (errand? : Option Errand)
    (result : Progress × Client) : Prop where
  deals : Deals client (held.map .message ++ client.inLine) errand?
    (placesFor errand? client (held.map .message ++ client.inLine)) result.1
  engaged : Engaged result.1
  quiet : Quiet result.1.held result.2
  line : result.1.held.map .message ++ result.2.inLine =
    Ledger.remaining (placesFor errand? client (held.map .message ++ client.inLine))
      (held.map .message ++ client.inLine)

theorem Turned.idle (engaged : Engaged progress) (silent : progress.isSilent = true)
    (quiet : Quiet progress.held after)
    (line : progress.held.map .message ++ after.inLine = held.map .message ++ client.inLine) :
    Turned client held none (progress, after) where
  deals := .idle silent
  engaged := engaged
  quiet := quiet
  line := by
    rw [line]
    cases held.map Arrival.message ++ client.inLine <;> rfl

theorem Turned.rests (rests : Rests progress) (quiet : Quiet [] client) :
    Turned client [] none (progress, client) :=
  .idle rests.engaged rests.silent (by rwa [rests.held]) (by rw [rests.held])

/-- Look for an acknowledgement, and go on with the steps that are left if there is one. -/
def pursue (now : Milliseconds) (purpose : Purpose) (limit deadline : Milliseconds)
    (held : List Message) (rest : List Step) (client : Client) : Progress × Client :=
  match client.seekAcknowledgement purpose limit deadline held rest with
  | (some progress, client) => (progress, client)
  | (none, client) => perform now rest client

theorem passes_scan (clean : client.IsClean) (ends : Message -> Bool) :
    ∀ message ∈ (client.scan ends).2.1, client.Passes ends message := by
  have scanned := scanned clean ends
  generalize client.scan ends = result at scanned
  cases scanned with
  | found passes => exact passes
  | nothing passes => exact passes
  | unconnected passes => exact passes
  | faulty passes => exact passes

/-- What a walk to an acknowledgement passes can be held with what was held before. -/
theorem passes_seek (quiet : Quiet held client)
    (walked : client.scan Message.isAnswer = (search, passed, after)) :
    ∀ message ∈ held ++ passed, client.Passes Message.isAnswer message := by
  have passes := passes_scan quiet.isClean Message.isAnswer
  rw [walked] at passes
  intro message here
  exact (List.mem_append.mp here).elim (quiet.passes message) (passes message)

theorem quiet_seek (quiet : Quiet held client)
    (walked : client.scan Message.isAnswer = (search, passed, after)) :
    Quiet (held ++ passed) after := by
  have draws := draws_scan Message.isAnswer client
  rw [walked] at draws
  refine quiet.of_settings draws.unmoved.settings fun message here => ?_
  rcases List.mem_append.mp here with aside | old
  · exact Or.inr (passes_seek quiet walked message aside)
  · exact Or.inl (List.mem_append_right held (draws.pending message old))

/-- Waiting deals with the line if it keeps what it has passed, held or put back. -/
theorem turned_of_waits (quiet : Quiet held client) (unbroken : IsUnbroken client.inLine)
    (walked : client.scan Message.isAnswer = (search, passed, after)) {last : Client}
    (found : ∀ message, search = .found message -> Errand.wait.Brings message progress)
    (nothing : search = .nothing -> progress.isSilent = true)
    (failed : ∀ error, search = .failed error -> progress = .finished (.error error))
    (engaged : Engaged progress) (quietLast : Quiet progress.held last)
    (line : progress.held.map .message ++ last.inLine =
      (held ++ passed).map .message ++ after.inLine) :
    Turned client held (some .wait) (progress, last) := by
  have looked : client.scan (Errand.wait.ends client) = (search, passed, after) := walked
  have deals := deals_of_scan quiet.isClean unbroken quiet.passes looked found nothing failed
  rw [Errand.leaves_wait (passes_seek quiet walked)] at deals
  exact ⟨deals.1, engaged, quietLast, line.trans deals.2.symm⟩

/-- What was passed is put back, and the call goes on with the steps that are left. -/
theorem turned_perform (quiet : Quiet held client) (unbroken : IsUnbroken client.inLine)
    {message : Message}
    (walked : client.scan Message.isAnswer = (.found message, passed, after)) {last : Client}
    {rest : List Step} (plan : Plan rest) (now : Milliseconds) (quietLast : Quiet [] last)
    (line : last.inLine = (held ++ passed).map .message ++ after.inLine) :
    Turned client held (some .wait) (perform now rest last) := by
  rcases rests_perform now plan last with ⟨progress, performed, rests⟩
  rw [performed]
  refine turned_of_waits quiet unbroken walked ?_ Search.noConfusion
    (fun _ => Search.noConfusion) rests.engaged (by rwa [rests.held]) (by rwa [rests.held])
  intro _ _
  exact ⟨rests.awaitsAnswer, Or.inr rests.silent⟩

theorem turned_pursue (quiet : Quiet held client) (unbroken : IsUnbroken client.inLine)
    {rest : List Step} (plan : Plan rest) (now : Milliseconds) (purpose : Purpose)
    (limit deadline : Milliseconds) :
    Turned client held (some .wait) (pursue now purpose limit deadline held rest client) := by
  unfold pursue seekAcknowledgement
  rw [findAcknowledgement_eq]
  rcases walked : client.scan Message.isAnswer with ⟨search, passed, after⟩
  have later := quiet_seek quiet walked
  have back : Quiet [] (after.putBack (held ++ passed)) := later
  have line := inLine_putBack after (held ++ passed)
  cases search with
  | found message =>
      cases purpose with
      | answer =>
          refine turned_of_waits quiet unbroken walked ?_ Search.noConfusion
            (fun _ => Search.noConfusion) (.finished _) back line
          intro other same
          cases same
          exact ⟨rfl, Or.inl rfl⟩
      | progress => exact turned_perform quiet unbroken walked plan now back line
      | enrollment => exact turned_perform quiet unbroken walked plan now back line
  | failed error =>
      dsimp only
      rw [fail_eq _ error plan.stays]
      refine turned_of_waits quiet unbroken walked (fun _ => Search.noConfusion)
        Search.noConfusion ?_ (.finished _) back line
      intro other same
      cases same
      rfl
  | nothing =>
      exact turned_of_waits quiet unbroken walked (fun _ => Search.noConfusion) (fun _ => rfl)
        (fun _ => Search.noConfusion) (.seeking plan) later rfl

theorem quiet_scan (quiet : Quiet [] client) (ends : Message -> Bool) :
    Quiet [] (client.scan ends).2.2 :=
  quiet.of_settings (draws_scan ends client).unmoved.settings fun message here =>
    Or.inl ((draws_scan ends client).pending message here)

/-- Reading and clearing hold nothing, and leave nothing waiting of what they pass. -/
theorem turned_of_reads (quiet : Quiet [] client) (unbroken : IsUnbroken client.inLine)
    {errand : Errand} (reads : errand ≠ .wait)
    (walked : client.scan (errand.ends client) = (search, passed, after))
    (engaged : Engaged progress) (holds_nothing : progress.held = [])
    (found : ∀ message, search = .found message -> errand.Brings message progress)
    (nothing : search = .nothing -> progress.isSilent = true)
    (failed : ∀ error, search = .failed error -> progress = .finished (.error error)) :
    Turned client [] (some errand) (progress, after) := by
  have later := quiet_scan quiet (errand.ends client)
  rw [walked] at later
  have none_held : ∀ earlier ∈ ([] : List Message), client.Passes (errand.ends client) earlier :=
    List.forall_mem_nil _
  have deals := deals_of_scan quiet.isClean unbroken none_held walked found nothing failed
  rw [Errand.leaves_of_reads reads] at deals
  refine ⟨deals.1, engaged, by rwa [holds_nothing], ?_⟩
  rw [holds_nothing]
  exact deals.2.symm

/-- A message that the client wants ends a reading, and what the call does then is what the
errand brings. -/
theorem turned_afterRead (quiet : Quiet [] client) (unbroken : IsUnbroken client.inLine)
    {errand : Errand} (reads : errand ≠ .wait) (ends : errand.ends client = client.wants)
    {found : Message -> Progress} {nothing : Progress}
    (engaged : ∀ message, Engaged (found message)) (holds : ∀ message, (found message).held = [])
    (brings : ∀ message, errand.Brings message (found message)) (rests : Engaged nothing)
    (holds_nothing : nothing.held = []) (silent : nothing.isSilent = true) :
    Turned client [] (some errand) (client.afterRead [] found nothing) := by
  unfold afterRead
  rw [read_eq]
  rcases walked : client.scan client.wants with ⟨search, passed, after⟩
  have looked : client.scan (errand.ends client) = (search, passed, after) := ends ▸ walked
  have turned := fun progress => @turned_of_reads _ _ _ progress _ quiet unbroken _ reads looked
  cases search with
  | found message =>
      refine turned (found message) (engaged message) (holds message) ?_ Search.noConfusion
        fun _ => Search.noConfusion
      intro other same
      cases same
      exact brings message
  | failed error =>
      refine turned (.finished (.error error)) (.finished _) rfl (fun _ => Search.noConfusion)
        Search.noConfusion ?_
      intro other same
      cases same
      rfl
  | nothing =>
      exact turned nothing rests holds_nothing (fun _ => Search.noConfusion) (fun _ => silent)
        fun _ => Search.noConfusion

theorem turned_seekMessage (quiet : Quiet [] client) (unbroken : IsUnbroken client.inLine)
    (deadline : Option Milliseconds) :
    Turned client [] (some .read) (client.seekMessage deadline []) :=
  turned_afterRead quiet unbroken Errand.noConfusion rfl (fun _ => .finished _) (fun _ => rfl)
    (fun _ => rfl) (.reading deadline) rfl rfl

theorem turned_dropMessage (quiet : Quiet [] client) (unbroken : IsUnbroken client.inLine)
    (deadline : Milliseconds) :
    Turned client [] (some (.clear deadline)) (client.dropMessage deadline []) :=
  turned_afterRead quiet unbroken Errand.noConfusion rfl (fun _ => .clearing deadline)
    (fun _ => rfl) (fun _ => rfl) (.finished _) rfl rfl

/-- A wait asks nothing about what the client wants. -/
theorem Deals.of_wait {before : Client} {line : List Arrival} {places : List Place}
    (deals : Deals client line (some .wait) places progress)
    (settings : client.settings = before.settings) :
    Deals before line (some .wait) places progress := by
  have known := fault?_congr settings
  have passes : ∀ {passed : List Message},
      (∀ earlier ∈ passed, client.Passes (Errand.wait.ends client) earlier) ->
        ∀ earlier ∈ passed, before.Passes (Errand.wait.ends before) earlier :=
    fun passes earlier here =>
      ⟨(known _).symm.trans (passes earlier here).1, (passes earlier here).2⟩
  cases deals with
  | found front passed clean isEnding brings =>
      exact .found front (passes passed) ((known _).symm.trans clean) isEnding brings
  | exhausted all passed silent => exact .exhausted all (passes passed) silent
  | faulty front passed fault => exact .faulty front (passes passed) ((known _).symm.trans fault)

theorem Errand.places_of_wait {before : Client} (settings : client.settings = before.settings)
    (line : List Arrival) : Errand.wait.places client line = Errand.wait.places before line := by
  induction line with
  | nil => rfl
  | cons arrival line ih =>
      cases arrival with
      | failure error => rfl
      | message message =>
          simp only [places, fault?_congr settings, ih]
          rfl

theorem Turned.of_wait {before : Client} {result : Progress × Client}
    (turned : Turned client held (some .wait) result)
    (settings : client.settings = before.settings) (line : client.inLine = before.inLine) :
    Turned before held (some .wait) result := by
  rcases turned with ⟨deals, engaged, quiet, left⟩
  simp only [placesFor, line, Errand.places_of_wait settings] at deals left
  exact ⟨deals.of_wait settings, engaged, quiet, left⟩

/-- Whether a call leaves the connection as it is. -/
def Call.keepsLine : Call -> Bool
  | .connect _ _ | .disconnect => false
  | _ => true

/-- What is looked for when a call is begun. -/
def Errand.ofCall? (client : Client) (now : Milliseconds) (call : Call) : Option Errand :=
  match client.steps call with
  | .error _ => none
  | .ok steps => ofSteps? now steps

theorem silent_of_steps {call : Call} {error : ClientError}
    (objected : client.steps call = .error error) :
    (Progress.finished (.error error)).isSilent = true := by
  have row : ∀ {α : Type} [Payload α] {types : List MessageType} {payload : MessageType -> α}
      {standing : Standing}, client.changeStanding types payload standing = .error error ->
        (Progress.finished (.error error)).isSilent = true := by
    intro α _ types payload standing objected
    unfold changeStanding at objected
    split at objected <;> cases objected
    rfl
  cases call with
  | subscribe | unsubscribe | pause | resume | unsubscribeAll => exact row objected
  | rename name =>
      unfold steps at objected
      dsimp only at objected
      split at objected
      · cases objected
        rfl
      · split at objected <;> cases objected
        rfl
  | connect | disconnect | announceReady | send | read | awaitAcknowledgement | discard =>
      cases objected

theorem turned_begin (quiet : Quiet [] client) (unbroken : IsUnbroken client.inLine)
    (now : Milliseconds) {call : Call} (keeps : call.keepsLine = true) :
    Turned client [] (Errand.ofCall? client now call) (client.begin now call) := by
  have row : call.isRequest = true ->
      Turned client [] (Errand.ofCall? client now call) (client.begin now call) := by
    intro asks
    unfold begin Errand.ofCall?
    cases begun : client.steps call with
    | error error =>
        dsimp only
        rw [fail_eq client error List.not_mem_nil]
        exact .rests (rests_of_error (silent_of_steps begun)) quiet
    | ok steps =>
        have plan := plan_steps asks begun
        rcases rests_perform now plan client with ⟨progress, performed, rests⟩
        dsimp only
        rw [performed, ofSteps?_of_plan now plan]
        exact .rests rests quiet
  have single : ∀ message module host,
      Turned client [] none (client.post message module host []) := by
    intro message module host
    rcases rests_post .done client message module host with ⟨progress, posted, rests⟩
    rw [posted]
    exact .rests rests quiet
  cases call with
  | subscribe | unsubscribe | pause | resume | unsubscribeAll | rename => exact row rfl
  | connect | disconnect => cases keeps
  | announceReady => exact single _ _ _
  | send message module host => exact single message module host
  | read limit => exact turned_seekMessage quiet unbroken (limit.map (now + ·))
  | awaitAcknowledgement limit => exact turned_pursue quiet unbroken .done now .answer limit _
  | discard limit => exact turned_dropMessage quiet unbroken (now + limit)

/-- Whether a signal leaves the connection as it is. -/
def Signal.keepsLine : Signal -> Bool
  | .broken _ => false
  | _ => true

theorem turned_proceed {need : Need} {rest : List Step}
    (engaged : Engaged (.waiting need rest))
    (quiet : Quiet (Progress.waiting need rest).held client)
    (unbroken : IsUnbroken client.inLine) (now : Milliseconds) {signal : Signal}
    (keeps : signal.keepsLine = true) :
    Turned client (Progress.waiting need rest).held (Errand.ofNeed? now rest need signal)
      (client.proceed now need rest signal) := by
  have unchanged : Turned client (Progress.waiting need rest).held none
      (.waiting need rest, client) := .idle engaged rfl quiet rfl
  cases engaged with
  | @sending frame rest sequel =>
    cases signal with
    | written =>
      cases sequel with
      | done => exact .idle (.finished _) rfl quiet rfl
      | @awaiting wish? notes later purpose limit noted plan =>
        cases noted with
        | nothing =>
            have turned := @turned_pursue client.advance _ quiet unbroken _ plan now purpose limit
              (now + limit)
            exact turned.of_wait rfl rfl
        | @wish wish standing agrees =>
            have settings : (client.advance.mark wish.messageType standing).settings =
              client.settings := by cases standing <;> rfl
            have pending : (client.advance.mark wish.messageType standing).pending =
              client.pending := by cases standing <;> rfl
            have line : (client.advance.mark wish.messageType standing).inLine =
              client.inLine := by cases standing <;> rfl
            have noted : Quiet [] (client.advance.mark wish.messageType standing) :=
              quiet.of_settings settings fun message here => Or.inl (by rwa [pending] at here)
            have turned := turned_pursue noted (by rwa [line]) plan now purpose limit (now + limit)
            exact turned.of_wait settings line
    | broken => cases keeps
    | answered | unanswered | unusable | arrived | inTime | expired => exact unchanged
  | reading deadline =>
    cases signal with
    | arrived => exact turned_seekMessage quiet unbroken deadline
    | expired => exact .idle (.finished _) rfl quiet rfl
    | broken => cases keeps
    | answered | unanswered | unusable | written | inTime => exact unchanged
  | clearing deadline =>
    cases signal with
    | inTime => exact turned_dropMessage quiet unbroken deadline
    | expired => exact .idle (.finished _) rfl quiet rfl
    | broken => cases keeps
    | answered | unanswered | unusable | written | arrived => exact unchanged
  | @seeking purpose limit deadline held rest plan =>
    cases signal with
    | arrived => exact turned_pursue quiet unbroken plan now purpose limit deadline
    | expired =>
        have failed := fail_eq (client.putBack held) (.acknowledgementTimeout limit) plan.stays
        have result : client.proceed now (.acknowledgement purpose limit deadline held) rest
          .expired = _ := failed
        rw [result]
        exact .idle (.finished _) rfl quiet (inLine_putBack client held)
    | broken => cases keeps
    | answered | unanswered | unusable | written | inTime => exact unchanged

end Client

end MessageBus
