import MessageBus.Proofs.Conduct
import MessageBus.Proofs.Enrollment

namespace MessageBus

open Wire

/-!
# What a call to connect leaves behind

A call to connect gives up the old line at once and has the new one as soon as somebody answers
and the stream is set up, before the client has presented itself.  Its subscriptions are forgotten
only when the manager has let it in.  As the first failure ends the call and what was done stays done, a call that fails in
between leaves a client that has a line and knows of subscriptions, and that nobody has let in:
if its name is too long, if no acknowledgement comes, or if what comes does not agree with its
schemas (`ClientError.keepsLine`).

In every other respect a call to connect begins anew.  A client that was let in has nothing of an
earlier connection, and a client that has no line sends nothing until it is put through again
(`Client.Lived.aftermath`).
-/

namespace Client

/-! ## Calls that do not dial -/

def Step.dials : Step -> Bool
  | .dial _ => true
  | .letGo | .present _ | .send _ _ _ | .mark _ _ | .acknowledged _ _ | .read _ | .discard _
  | .hangUp => false

/-- Whether somebody is to be called, now or later. -/
def Progress.dials : Progress -> Bool
  | .finished _ => false
  | .waiting (.server _) _ => true
  | .waiting _ rest => rest.any Step.dials

def Call.dials : Call -> Bool
  | .connect _ _ => true
  | .disconnect | .subscribe _ | .unsubscribe _ | .pause _ | .resume _ | .unsubscribeAll
  | .announceReady | .rename _ | .send _ _ _ | .read _ | .awaitAcknowledgement _
  | .discard _ => false

/-- A client that has asked for a number has this number. -/
def IsNumbered (client : Client) : Prop :=
  client.settings.moduleId = 0 ∨ client.moduleId = client.settings.moduleId

/-- What stays true of a client when nobody answers: that it has the number it has asked for, and
that it has no line. -/
structure Keeps (client after : Client) : Prop where
  isNumbered : client.IsNumbered -> after.IsNumbered
  isApart : client.isConnected = false -> after.isConnected = false

variable {client between after : Client} {rest : List Step} {result : Progress × Client}
  {mayDial : Bool}

namespace Keeps

theorem refl (client : Client) : Keeps client client :=
  ⟨id, id⟩

theorem trans (early : Keeps client between) (late : Keeps between after) : Keeps client after :=
  ⟨late.isNumbered ∘ early.isNumbered, late.isApart ∘ early.isApart⟩

theorem of_looked {search : Search} (looked : Looked client search after) :
    Keeps client after where
  isNumbered numbered := by
    have settings : after.settings = client.settings := (congrArg Client.settings looked.bare :)
    have moduleId : after.moduleId = client.moduleId := (congrArg Client.moduleId looked.bare :)
    unfold IsNumbered
    rwa [settings, moduleId]
  isApart apart := by
    rw [isConnected_eq, Option.isSome_eq_false_iff, Option.isNone_iff_eq_none] at apart
    rw [isConnected_eq, looked.server?, apart, ite_self]
    rfl

theorem present (client : Client) (introduction : Introduction) :
    Keeps client (client.present introduction) where
  isNumbered numbered := by
    by_cases chosen : client.settings.moduleId = 0
    · exact Or.inl chosen
    · exact Or.inr ((if_neg chosen).trans (numbered.resolve_left chosen))
  isApart := id

theorem enroll (client : Client) (acknowledgement : Message) :
    Keeps client (client.enroll acknowledgement) where
  isNumbered numbered := by
    by_cases chosen : client.settings.moduleId = 0
    · exact Or.inl chosen
    · have asked := numbered.resolve_left chosen
      exact Or.inr ((if_neg (asked ▸ chosen)).trans asked)
  isApart := id

theorem mark (client : Client) (messageType : MessageType) (standing : Standing) :
    Keeps client (client.mark messageType standing) := by
  cases standing <;> exact ⟨id, id⟩

theorem letGo (client : Client) : Keeps client client.letGo :=
  ⟨id, fun _ => rfl⟩

theorem hangUp (client : Client) : Keeps client client.hangUp :=
  ⟨id, fun _ => rfl⟩

theorem deliver (client : Client) (arrivals : List Arrival) :
    Keeps client (client.deliver arrivals) where
  isNumbered := id
  isApart apart := by rwa [isConnected_eq, server?_deliver, ← isConnected_eq]

end Keeps

theorem Deed.keeps (deed : Deed client after) : Keeps client after := by
  cases deed with
  | looks looked messageCount => exact .of_looked looked
  | putsBack | forgets => exact ⟨id, id⟩
  | letsGo => exact .letGo client
  | presents introduction => exact .present client introduction
  | enrolls acknowledgement => exact .enroll client acknowledgement
  | marks messageType standing => exact .mark client messageType standing
  | hangsUp => exact .hangUp client

theorem Deeds.keeps (deeds : Deeds client after) : Keeps client after := by
  induction deeds with
  | refl => exact .refl client
  | tail early deed ih => exact ih.trans deed.keeps

/-! ## Going on -/

theorem Plan.any_dials {steps : List Step} (plan : Plan steps) :
    steps.any Step.dials = false := by
  induction plan with
  | done => rfl
  | asking bears noted later ih => cases noted <;> simpa [Step.dials] using ih

theorem any_dials_of_steps {call : Call} {steps : List Step}
    (begun : client.steps call = .ok steps) : steps.any Step.dials = call.dials := by
  cases call with
  | subscribe | unsubscribe | pause | resume | unsubscribeAll | rename =>
      exact (plan_steps rfl begun).any_dials
  | disconnect =>
      cases begun
      split <;> rfl
  | connect | announceReady | send | read | awaitAcknowledgement | discard =>
      cases begun
      rfl

/-- A call has gone on, and calls somebody only if there was a step to do so. -/
structure Goes (client : Client) (mayDial : Bool) (result : Progress × Client) : Prop where
  keeps : Keeps client result.2
  dials : result.1.dials = true -> mayDial = true

theorem any_dials_of_suffix {fewer steps : List Step} (part : fewer <:+ steps)
    (calls : fewer.any Step.dials = true) : steps.any Step.dials = true := by
  rcases List.any_eq_true.mp calls with ⟨step, here, dials⟩
  exact List.any_eq_true.mpr ⟨step, part.subset here, dials⟩

/-- Where a call stops that calls somebody, there was a step to do so. -/
theorem Halts.dials {steps : List Step} {progress : Progress} (halts : Halts steps client progress)
    (calls : progress.dials = true) : steps.any Step.dials = true := by
  cases halts with
  | finished => cases calls
  | dialling left => exact any_dials_of_suffix left rfl
  | @looking need rest looks left =>
      cases need with
      | message | acknowledgement | time => exact any_dials_of_suffix left calls
      | server | room => cases looks
  | sending left | presenting left =>
      exact any_dials_of_suffix ((List.suffix_cons _ _).trans left) calls

theorem Conducted.goes {steps : List Step} (conducted : Conducted steps client result) :
    Goes client (steps.any Step.dials) result :=
  ⟨conducted.deeds.keeps, conducted.halts.dials⟩

namespace Goes

theorem trans (early : Keeps client between) (late : Goes between mayDial result) :
    Goes client mayDial result :=
  ⟨early.trans late.keeps, late.dials⟩

/-- A call goes on, unless it was just put through. -/
theorem proceed (now : Milliseconds) (client : Client) {need : Need} {signal : Signal}
    (rest : List Step)
    (unanswered : ∀ address server, need = .server address -> signal ≠ .answered server) :
    Goes client (Progress.dials (.waiting need rest)) (client.proceed now need rest signal) := by
  rcases conducted_proceed now client need rest signal with ⟨waits, _⟩ | conducted
  · rw [waits]
    exact ⟨.refl client, id⟩
  · have satisfied : Keeps client (client.satisfy need signal) := by
      unfold satisfy
      split
      · next address server => exact absurd rfl (unanswered address server rfl)
      · exact ⟨id, id⟩
      · exact .refl client
    refine .trans satisfied ⟨conducted.deeds.keeps, fun calls => ?_⟩
    have dials := conducted.halts.dials calls
    cases need with
    | server => rfl
    | room | message | acknowledgement | time => exact dials

theorem begin (now : Milliseconds) (client : Client) (call : Call) :
    Goes client call.dials (client.begin now call) := by
  rcases conducted_begin now client call with ⟨error, wrong⟩ | ⟨steps, begun, conducted⟩
  · rw [wrong]
    exact ⟨.refl client, fun impossible => by cases impossible⟩
  · exact any_dials_of_steps begun ▸ conducted.goes

end Goes

/-! ## The life of a client -/

variable {state : Progress × Client}

theorem isNumbered_meet (numbered : state.2.IsNumbered) (happening : Happening) :
    (meet state happening).2.IsNumbered := by
  rcases state with ⟨progress, client⟩
  cases happening with
  | arrives arrivals =>
      cases progress with
      | finished | waiting => exact (Keeps.deliver client arrivals).isNumbered numbered
  | goesOn now signal =>
      cases progress with
      | finished ended => exact numbered
      | waiting need rest =>
          rcases conducted_proceed now client need rest signal with ⟨waits, _⟩ | conducted
          · exact (congrArg Prod.snd waits :) ▸ numbered
          · refine conducted.deeds.keeps.isNumbered ?_
            unfold satisfy
            split <;> exact numbered

theorem isNumbered_foldl (numbered : state.2.IsNumbered) (happenings : List Happening) :
    (happenings.foldl meet state).2.IsNumbered := by
  induction happenings generalizing state with
  | nil => exact numbered
  | cons happening rest ih => exact ih (isNumbered_meet numbered happening)

/-- A client at any time, with all that it has done, has left undone, or does. -/
inductive Lived : Client -> Prop where
  | started {settings : ClientSettings} {pid : Int32} {clock : ClockReading} {client : Client}
      (started : start settings pid clock = .ok client) : Lived client
  | called {client : Client} (lived : Lived client) (now : Milliseconds) (call : Call)
      (happenings : List Happening) : Lived (happenings.foldl meet (client.begin now call)).2

theorem Lived.isNumbered (lived : Lived client) : client.IsNumbered := by
  induction lived with
  | started started =>
      unfold start at started
      split at started
      · cases started
        exact Or.inr rfl
      · cases started
  | called lived now call happenings ih =>
      exact isNumbered_foldl ((Goes.begin now _ call).keeps.isNumbered ih) happenings

/-! ## Without a line -/

/-- Whether a call needs a line from the start. -/
def Call.needsLine : Call -> Bool
  | .subscribe _ | .unsubscribe _ | .pause _ | .resume _ | .unsubscribeAll | .announceReady
  | .send _ _ _ => true
  | .connect _ _ | .disconnect | .rename _ | .read _ | .awaitAcknowledgement _
  | .discard _ => false

/-- Without a line nothing can be asked for or sent, and trying it changes nothing. -/
theorem begin_of_apart (apart : client.isConnected = false) {call : Call}
    (needs : call.needsLine = true) (now : Milliseconds) :
    client.begin now call = (.finished (.error .notConnected), client) := by
  have refused : ∀ (message : Message) (module : ModuleId) (host : HostId),
      client.post message module host [] = (.finished (.error .notConnected), client) := by
    intro message module host
    unfold post Client.frame
    rw [apart]
    rfl
  cases call with
  | announceReady | send => exact refused _ _ _
  | subscribe | unsubscribe | pause | resume | unsubscribeAll =>
      unfold Client.begin Client.steps changeStanding
      dsimp only
      rw [apart]
      rfl
  | connect | disconnect | rename | read | awaitAcknowledgement | discard => cases needs

/-- A call that calls nobody gets no line. -/
theorem isApart_foldl (silent : state.1.dials = false) (apart : state.2.isConnected = false)
    (happenings : List Happening) : (happenings.foldl meet state).2.isConnected = false := by
  induction happenings generalizing state with
  | nil => exact apart
  | cons happening rest ih =>
      rcases state with ⟨progress, client⟩
      cases happening with
      | arrives arrivals =>
          cases progress with
          | finished | waiting => exact ih silent ((Keeps.deliver client arrivals).isApart apart)
      | goesOn now signal =>
          cases progress with
          | finished ended => exact ih silent apart
          | waiting need steps =>
              have went : Goes client false (client.proceed now need steps signal) := by
                rw [← silent]
                refine .proceed now client steps ?_
                rintro address server rfl
                cases silent
              exact ih (Bool.eq_false_iff.mpr fun dials => Bool.false_ne_true (went.dials dials))
                (went.keeps.isApart apart)

/-! ## A call to connect -/

/-- The client without a line and without what was put back. -/
def offline (client : Client) : Client :=
  { client.letGo with pending := [] }

/-- Where a call to connect can have got to: it still dials, or it was not put through, or
somebody has answered and the rest is up to the manager. -/
inductive Connects (client : Client) (address : String) (introduction : Introduction)
    (happenings : List Happening) : Progress × Client -> Prop where
  | dialling {rest : List Step} :
      Connects client address introduction happenings
        (.waiting (.server address) rest, client.offline)
  | refused {error : ClientError} (loses : error.keepsLine = false) :
      Connects client address introduction happenings (.finished (.error error), client.offline)
  | answered {state : Progress × Client} {before since : List Happening} {time : Milliseconds}
      {server : SocketAddress}
      (parts : happenings = before ++ .goesOn time (.answered server) :: since)
      (enrolling : Enrolling (client.present introduction) server (arrived since) state) :
      Connects client address introduction happenings state

variable {address : String} {introduction : Introduction} {happenings : List Happening}

theorem Connects.cons (connects : Connects client address introduction happenings state)
    (happening : Happening) :
    Connects client address introduction (happening :: happenings) state := by
  cases connects with
  | dialling => exact .dialling
  | refused loses => exact .refused loses
  | @answered _ before since time server parts enrolling =>
      refine @Connects.answered _ _ _ _ _ (happening :: before) since time server ?_ enrolling
      exact congrArg (List.cons happening) parts

/-- Nothing happens any more to a call that was not put through. -/
theorem foldl_offline (client : Client) (ended : Except ClientError Reply)
    (happenings : List Happening) :
    happenings.foldl meet (.finished ended, client.offline) =
      (.finished ended, client.offline) := by
  induction happenings with
  | nil => rfl
  | cons happening rest ih => cases happening <;> exact ih

theorem connects (client : Client) (now : Milliseconds) (address : String)
    (introduction : Introduction) (happenings : List Happening) :
    Connects client address introduction happenings
      (happenings.foldl meet (client.begin now (.connect address introduction))) := by
  induction happenings with
  | nil => exact .dialling
  | cons happening rest ih =>
      cases happening with
      | arrives arrivals => exact ih.cons _
      | goesOn time signal =>
          cases signal with
          | answered server =>
              have enrolling := enrolling_foldl
                (enrolling_dialled client time address introduction server) rest
              exact @Connects.answered _ _ _ _ _ [] rest time server rfl enrolling
          | unanswered =>
              have ended := foldl_offline client (.error (.managerNotFound address)) rest
              exact ended ▸ .refused rfl
          | unusable cause =>
              have ended := foldl_offline client (.error (.unusable cause)) rest
              exact ended ▸ .refused rfl
          | written | broken | arrived | inTime | expired => exact ih.cons _

/-- What may become of a client as long as every call to connect ends without a line. -/
inductive Apart (client : Client) : Client -> Prop where
  | same : Apart client client
  | called {before : Client} (apart : Apart client before) (now : Milliseconds) (call : Call)
      (happenings : List Happening)
      (cut : call.dials = true -> ∃ error, error.keepsLine = false ∧
        (happenings.foldl meet (before.begin now call)).1 = .finished (.error error)) :
      Apart client (happenings.foldl meet (before.begin now call)).2

/-- A call to connect that has failed leaves the subscriptions as they were, and the reason tells
whether there is a line. -/
theorem left_of_failure {now : Milliseconds} {error : ClientError} {after : Client}
    (failed : happenings.foldl meet (client.begin now (.connect address introduction)) =
      (.finished (.error error), after)) :
    after.isConnected = error.keepsLine ∧ after.subscribed = client.subscribed ∧
      after.paused = client.paused := by
  have connects := connects client now address introduction happenings
  rw [failed] at connects
  cases connects with
  | refused loses => exact ⟨loses.symm, rfl, rfl⟩
  | answered parts enrolling =>
      cases enrolling with
      | failed bare leads =>
          refine ⟨?_, (congrArg Client.subscribed bare :), (congrArg Client.paused bare :)⟩
          rw [isConnected_eq, leads]
          cases error.keepsLine <;> rfl

theorem Apart.isApart (apart : Apart client after) (start : client.isConnected = false) :
    after.isConnected = false := by
  induction apart with
  | same => exact start
  | @called before apart now call happenings cut ih =>
      cases dials : call.dials with
      | false =>
          have begun := Goes.begin now before call
          refine isApart_foldl (Bool.eq_false_iff.mpr fun later => ?_) (begun.keeps.isApart ih) _
          exact Bool.false_ne_true (dials.symm.trans (begun.dials later))
      | true =>
          rcases cut dials with ⟨error, loses, failed⟩
          cases call with
          | connect address introduction =>
              exact (left_of_failure (Prod.ext failed rfl)).1.trans loses
          | _ => cases dials

/-- A call to connect that has succeeded has taken the first acknowledgement, and the line is what
has arrived without it. -/
theorem letIn_of_success (numbered : client.IsNumbered) {now : Milliseconds} {reply : Reply}
    {after : Client}
    (succeeded : happenings.foldl meet (client.begin now (.connect address introduction)) =
      (.finished (.ok reply), after)) :
    ∃ before time server since answer later,
      happenings = before ++ .goesOn time (.answered server) :: since ∧
      arrived since = after.pending.map .message ++ .message answer :: later ∧
      answer.isAnswer = true ∧ (∀ message ∈ after.pending, message.isAnswer = false) ∧
      after.line = some { server, inbox := later } ∧
      after.moduleId = (if client.settings.moduleId = 0 then answer.header.destinationModule
        else client.settings.moduleId) ∧
      after.subscribed = [] ∧ after.paused = [] := by
  have connects := connects client now address introduction happenings
  rw [succeeded] at connects
  cases connects with
  | @answered _ before since time server parts enrolling =>
      cases enrolling with
      | @enrolled _ answer later _ bare isAnswer others all line =>
          have moduleId : after.moduleId = if (client.present introduction).moduleId = 0 then
              answer.header.destinationModule else (client.present introduction).moduleId :=
            (congrArg Client.moduleId bare :)
          refine ⟨before, time, server, since, answer, later, parts, all, isAnswer, others, line,
            ?_, (congrArg Client.subscribed bare :), (congrArg Client.paused bare :)⟩
          rw [moduleId]
          unfold present
          by_cases chosen : client.settings.moduleId = 0
          · rw [if_pos chosen, if_pos chosen, if_pos rfl]
          · rw [if_neg chosen, if_neg chosen, numbered.resolve_left chosen, if_neg chosen]

/-- A client that has been let in is connected to whoever has answered, with the number that it
has asked for or that of the acknowledgement, and has nothing of an earlier connection: no
subscription, and everything that it has not read has arrived since the call was put through.  A
client that has not been let in has the subscriptions of before, and is connected if and only if
its name was too long, or there was no acknowledgement in time, or something did not agree with
its schemas.  If it is not connected, then it stays so and everything that it wants to send is
refused, whatever it does, until a call to connect succeeds or ends in one of these ways. -/
theorem Lived.aftermath (lived : client.Lived) (now : Milliseconds) (address : String)
    (introduction : Introduction) (happenings : List Happening) :
    let after := happenings.foldl meet (client.begin now (.connect address introduction))
    (∀ reply, after.1 = .finished (.ok reply) ->
      ∃ before time server since answer later,
        happenings = before ++ .goesOn time (.answered server) :: since ∧
        arrived since = after.2.pending.map .message ++ .message answer :: later ∧
        answer.isAnswer = true ∧ (∀ message ∈ after.2.pending, message.isAnswer = false) ∧
        after.2.line = some { server, inbox := later } ∧
        after.2.moduleId = (if client.settings.moduleId = 0 then answer.header.destinationModule
          else client.settings.moduleId) ∧
        after.2.subscribed = [] ∧ after.2.paused = []) ∧
      ∀ error, after.1 = .finished (.error error) ->
        after.2.isConnected = error.keepsLine ∧ after.2.subscribed = client.subscribed ∧
          after.2.paused = client.paused ∧
          (error.keepsLine = false -> ∀ later, Apart after.2 later ->
            later.isConnected = false ∧ ∀ (time : Milliseconds) (call : Call),
              call.needsLine = true ->
                later.begin time call = (.finished (.error .notConnected), later)) := by
  intro after
  refine ⟨?letIn, ?refused⟩
  case letIn =>
    intro reply succeeded
    exact letIn_of_success lived.isNumbered (Prod.ext succeeded rfl)
  case refused =>
    intro error failed
    rcases left_of_failure (Prod.ext failed rfl) with ⟨connected, subscribed, paused⟩
    refine ⟨connected, subscribed, paused, fun loses later apart => ?_⟩
    have alone := apart.isApart (connected.trans loses)
    exact ⟨alone, fun time call needs => begin_of_apart alone needs time⟩

deriving instance DecidableEq for Progress

/-- An acknowledgement for a module. -/
def welcome (module : ModuleId) : Arrival :=
  .message
    { header := { messageType := MessageType.acknowledge, destinationModule := module }
      timecode := none
      payload := [] }

/-- What happens to a call that is put through, sent and answered. -/
def welcomed : List Happening :=
  [.goesOn 0 (.answered ⟨.v4 [127, 0, 0, 1], 7111, 0⟩), .goesOn 0 .written,
    .arrives [welcome 101], .goesOn 0 .arrived]

/-- A client that was let in and has subscribed to a type. -/
def settled : Client :=
  let newcomer : Client := { settings := {}, pid := 1, clock := {}, moduleId := 0 }
  let letIn := (welcomed.foldl meet (newcomer.begin 0 (.connect "127.0.0.1:7111" {}))).2
  (welcomed.tail.foldl meet (letIn.begin 0 (.subscribe [5000]))).2

theorem lived_settled : settled.Lived := by
  have started : start {} 1 {} = .ok { settings := {}, pid := 1, clock := {}, moduleId := 0 } := rfl
  exact .called (.called (.started started) _ _ _) _ _ _

/-- The client has a subscription and connects again, once with an answer and once without. -/
theorem aftermath_of_settled :
    let call : Call := .connect "127.0.0.1:7111" {}
    let again := welcomed.foldl meet (settled.begin 0 call)
    let alone := [Happening.goesOn 0 .unanswered].foldl meet (settled.begin 0 call)
    settled.Lived ∧ settled.isConnected = true ∧ settled.subscribed = [5000] ∧
      again.2.subscribed = [] ∧ again.2.moduleId = 101 ∧
      (∃ server later, again.2.line = some { server, inbox := later }) ∧
      alone.2.isConnected = false ∧
      ∀ later, Apart alone.2 later ->
        later.begin 5 (.subscribe [5000]) = (.finished (.error .notConnected), later) := by
  intro call again alone
  have success : again.1 = .finished (.ok .done) := by decide +kernel
  have failure : alone.1 = .finished (.error (.managerNotFound "127.0.0.1:7111")) := by
    decide +kernel
  rcases (lived_settled.aftermath 0 "127.0.0.1:7111" {} welcomed).1 .done success with
    ⟨before, time, server, since, answer, later, _, _, _, _, line, _, subscribed, _⟩
  rcases (lived_settled.aftermath 0 "127.0.0.1:7111" {} [.goesOn 0 .unanswered]).2 _ failure with
    ⟨apart, _, _, cut⟩
  exact ⟨lived_settled, by decide +kernel, by decide +kernel, subscribed, by decide +kernel,
    ⟨server, later, line⟩, apart, fun later here => (cut rfl later here).2 5 _ rfl⟩

/-- The client connects again, first with a name that does not fit, and then without being
acknowledged.  Both calls fail, and both times the client is connected, has its old subscription,
and sends the next request. -/
theorem connected_of_refused_name :
    let server : SocketAddress := ⟨.v4 [127, 0, 0, 1], 7111, 0⟩
    let misnamed := [Happening.goesOn 0 (.answered server)].foldl meet
      (settled.begin 0 (.connect "127.0.0.1:7111" { name := "a name that is longer than a field" }))
    let ignored := [Happening.goesOn 0 (.answered server), .goesOn 0 .written,
      .goesOn 3000 .expired].foldl meet (settled.begin 0 (.connect "127.0.0.1:7111" {}))
    settled.Lived ∧
      (misnamed.1 = .finished (.error (.textTooLong ⟨34, 32⟩)) ∧ misnamed.2.isConnected = true ∧
        misnamed.2.subscribed = [5000] ∧
        (misnamed.2.begin 0 (.subscribe [5001])).1.isFinished = false) ∧
      ignored.1 = .finished (.error (.acknowledgementTimeout 3000)) ∧
        ignored.2.isConnected = true ∧ ignored.2.subscribed = [5000] ∧
        (ignored.2.begin 3000 (.subscribe [5001])).1.isFinished = false :=
  ⟨lived_settled, by decide +kernel⟩

end Client

end MessageBus
