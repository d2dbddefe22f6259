import Carbonshift.Client.ProfileExchange
import Carbonshift.Service.Clock

/-!
# Runs of the profile exchange

A call to submit a request admits it at most once, although it is sent twice
after a restart of the service.  What a registration has put into the service
stays there until the next restart.
-/

namespace Carbonshift

namespace ProfileExchange

variable {deployment : Deployment} {exchange next : ProfileExchange}

/-! ## What a step does to a call -/

/-- An admission by the service, with the profile that the request names. -/
abbrev Admitted := Option (Option String × QosProfile)

/-- The moves of one call, with what is admitted and the registry after it. -/
inductive CallMove (deployment : Deployment) (registry : QosProfileRegistry)
    (known : KnownProfiles) (call : ProfileCall) :
    ProfileCall → Admitted → QosProfileRegistry → Prop where
  | submissionServed {body : SubmitRequestPayload} {fate : SubmissionFate}
      {reply : Reply}
      (was : call.wire = some (.submission body))
      (answered : serve deployment registry call.clientId fate
        (.submission body) = some reply) :
      CallMove deployment registry known call
        (call.withWire (reply.response.map .answer))
        (reply.admitted.map fun profile => (body.qosProfileId, profile))
        reply.registry
  | registrationServed {definition : ProfileDefinition}
      {fate : SubmissionFate} {reply : Reply}
      (was : call.wire = some (.registration definition))
      (answered : serve deployment registry call.clientId fate
        (.registration definition) = some reply) :
      CallMove deployment registry known call
        (call.withWire (reply.response.map .answer)) none reply.registry
  | lost : CallMove deployment registry known call (call.withWire none) none
      registry
  | received {response : HttpResponse} {moved : ProfileCall}
      {after : KnownProfiles}
      (was : call.wire = some (.answer response))
      (taken : call.receive known response = some (moved, after)) :
      CallMove deployment registry known call moved none registry
  | gaveUp {error : CarbonshiftError}
      (returned : call.phase ≠ .returned)
      (noStatus : error.statusCode = none) :
      CallMove deployment registry known call
        { call with phase := .failed error } none registry

/-- What a step does to the calls and to the registry. -/
inductive StepEffect (deployment : Deployment) (exchange : ProfileExchange) :
    Action → ProfileExchange → Prop where
  | posted {action : Action} {next : ProfileExchange} {clientId : ℕ}
      {request : CallRequest}
      (calls_eq : next.calls =
        exchange.calls.insert exchange.started (.post clientId request))
      (started_eq : next.started = exchange.started + 1)
      (registry_eq : next.registry = exchange.registry)
      (admitted_eq : next.admitted = exchange.admitted) :
      StepEffect deployment exchange action next
  | moved {action : Action} {next : ProfileExchange} {callId : ℕ}
      {call moved : ProfileCall} {admitted : Admitted}
      (found : exchange.calls.lookup callId = some call)
      (move : CallMove deployment exchange.registry
        (exchange.knownTo call.clientId) call moved admitted next.registry)
      (calls_eq : next.calls = exchange.calls.insert callId moved)
      (started_eq : next.started = exchange.started)
      (admitted_eq : next.admitted = exchange.admitted ++
        (admitted.map fun admission =>
          { callId := callId, named := admission.1,
            profile := admission.2 }).toList) :
      StepEffect deployment exchange action next
  | quiet {action : Action} {next : ProfileExchange}
      (calls_eq : next.calls = exchange.calls)
      (started_eq : next.started = exchange.started)
      (registry_eq : action ≠ .restartService →
        next.registry = exchange.registry)
      (admitted_eq : next.admitted = exchange.admitted) :
      StepEffect deployment exchange action next

theorem step_effect {action : Action}
    (taken : exchange.step deployment action = some next) :
    StepEffect deployment exchange action next := by
  cases action with
  | submit clientId body =>
      cases taken
      exact .posted rfl rfl rfl rfl
  | register clientId definition =>
      cases taken
      exact .posted rfl rfl rfl rfl
  | serve callId fate =>
      obtain ⟨call, found, rest⟩ := Option.bind_eq_some_iff.mp taken
      obtain ⟨wire, was, served⟩ := Option.bind_eq_some_iff.mp rest
      obtain ⟨reply, answered, rfl⟩ := Option.map_eq_some_iff.mp served
      cases wire with
      | answer response => cases answered
      | submission body =>
          refine .moved found (.submissionServed was answered) rfl rfl ?_
          rw [serveCall, Option.map_map]
          rfl
      | registration definition =>
          have nothing : reply.admitted = none := by
            simp only [serve, Option.some.injEq] at answered
            split at answered
            · rw [← answered, serveRegistration]
              split <;> rfl
            · rw [← answered]
          refine .moved found (.registrationServed was answered) rfl rfl ?_
          rw [serveCall, nothing]
          rfl
  | lose callId =>
      obtain ⟨call, found, rfl⟩ := Option.map_eq_some_iff.mp taken
      exact .moved found .lost rfl rfl (List.append_nil _).symm
  | receive callId =>
      obtain ⟨call, found, rest⟩ := Option.bind_eq_some_iff.mp taken
      split at rest
      · rename_i response was
        obtain ⟨⟨moved, after⟩, received, rfl⟩ :=
          Option.map_eq_some_iff.mp rest
        exact .moved found (.received was received) rfl rfl
          (List.append_nil _).symm
      · cases rest
  | giveUp callId reason =>
      obtain ⟨call, found, rest⟩ := Option.bind_eq_some_iff.mp taken
      split at rest
      · cases rest
      · cases rest
      · rename_i unreturned _
        cases rest
        exact .moved found (.gaveUp unreturned rfl) rfl rfl
          (List.append_nil _).symm
  | startBootstrap clientId profiles =>
      cases taken
      exact .quiet rfl rfl (fun _ => rfl) rfl
  | bootstrap clientId =>
      obtain ⟨bootstrap, found, rest⟩ := Option.bind_eq_some_iff.mp taken
      unfold bootstrapStep at rest
      split at rest
      · cases rest
        exact .posted rfl rfl rfl rfl
      · obtain ⟨call, _, proceeds⟩ := Option.bind_eq_some_iff.mp rest
        obtain ⟨after, _, rfl⟩ := Option.map_eq_some_iff.mp proceeds
        exact .quiet rfl rfl (fun _ => rfl) rfl
      · cases rest
  | restartService =>
      cases taken
      exact .quiet rfl rfl (fun other => absurd rfl other) rfl
  | restartClient clientId =>
      cases taken
      exact .quiet rfl rfl (fun _ => rfl) rfl

/-! ## Answers -/

/-- The call waits for the answer to a submission. -/
def AwaitsSubmission (phase : CallPhase) : Prop :=
  phase = .waiting ∨ ∃ definition, phase = .retrying definition

/-- What a submission does with an answer. -/
inductive SubmissionReceived (known : KnownProfiles)
    (body : SubmitRequestPayload) (response : HttpResponse)
    (call : ProfileCall) : ProfileCall → KnownProfiles → Prop where
  | restores {definition : ProfileDefinition}
      (was : call.phase = .waiting)
      (lost : known.lost body response = some definition) :
      SubmissionReceived known body response call
        { call with
          phase := .restoring definition
          wire := some (.registration definition) }
        known
  | retries {definition : ProfileDefinition}
      (was : call.phase = .restoring definition)
      (accepted : response.status = 204) :
      SubmissionReceived known body response call
        { call with
          phase := .retrying definition
          wire := some (.submission body) }
        (known.remember definition)
  | refused {definition : ProfileDefinition}
      (was : call.phase = .restoring definition)
      (refused : response.status ≠ 204) :
      SubmissionReceived known body response call
        (call.conclude (.failed (.refused response))) known
  | concludes
      (awaits : AwaitsSubmission call.phase) :
      SubmissionReceived known body response call
        (call.conclude (ProfileCall.submissionPhase response)) known

theorem submissionReceived {known after : KnownProfiles}
    {response : HttpResponse} {call moved : ProfileCall}
    {body : SubmitRequestPayload} (submits : call.request = .submit body)
    (taken : call.receive known response = some (moved, after)) :
    SubmissionReceived known body response call moved after := by
  unfold ProfileCall.receive at taken
  split at taken
  · rename_i other was submitted
    cases submits.symm.trans submitted
    split at taken
    · rename_i definition lost
      cases taken
      exact .restores was lost
    · cases taken
      exact .concludes (Or.inl was)
  · rename_i registers
    cases submits.symm.trans registers
  · rename_i definition other was submitted
    cases submits.symm.trans submitted
    split at taken
    · rename_i accepted
      cases taken
      exact .retries was accepted
    · rename_i refused
      cases taken
      exact .refused was refused
  · rename_i definition other was submitted
    cases taken
    exact .concludes (Or.inr ⟨definition, was⟩)
  · cases taken

theorem request_of_receive {known after : KnownProfiles}
    {response : HttpResponse} {call moved : ProfileCall}
    (taken : call.receive known response = some (moved, after)) :
    moved.request = call.request := by
  unfold ProfileCall.receive at taken
  split at taken
  · split at taken
    · cases taken
      rfl
    · cases taken
      rfl
  · split at taken
    · cases taken
      rfl
    · cases taken
      rfl
  · split at taken
    · cases taken
      rfl
    · cases taken
      rfl
  · cases taken
    rfl
  · cases taken

theorem CallMove.request_eq {registry after : QosProfileRegistry}
    {known : KnownProfiles} {call moved : ProfileCall} {admitted : Admitted}
    (move : CallMove deployment registry known call moved admitted after) :
    moved.request = call.request := by
  cases move with
  | submissionServed _ _ => rfl
  | registrationServed _ _ => rfl
  | lost => rfl
  | received _ taken => exact request_of_receive taken
  | gaveUp _ _ => rfl

/-- What a registration does with an answer. -/
theorem registrationReceived {known after : KnownProfiles}
    {response : HttpResponse} {call moved : ProfileCall}
    {definition : ProfileDefinition}
    (registers : call.request = .register definition)
    (taken : call.receive known response = some (moved, after)) :
    call.phase = .waiting ∧
      (response.status = 204 ∧ moved = call.conclude .returned ∧
          after = known.remember definition ∨
        moved = call.conclude (.failed (.refused response)) ∧
          after = known) := by
  unfold ProfileCall.receive at taken
  split at taken
  · rename_i submitted
    cases registers.symm.trans submitted
  · rename_i other was registered
    cases registers.symm.trans registered
    split at taken
    · rename_i accepted
      cases taken
      exact ⟨was, Or.inl ⟨accepted, rfl, rfl⟩⟩
    · cases taken
      exact ⟨was, Or.inr ⟨rfl, rfl⟩⟩
  · rename_i submitted
    cases registers.symm.trans submitted
  · rename_i submitted
    cases registers.symm.trans submitted
  · cases taken

/-! ## At most one admission -/

/-- How often a call has been admitted. -/
def admissions (exchange : ProfileExchange) (callId : ℕ) : ℕ :=
  exchange.admitted.countP fun admission => admission.callId = callId

/-- The client takes the answer for an acceptance. -/
def Accepts (response : HttpResponse) : Prop :=
  response.status = 200 ∨ response.status = 202

instance (response : HttpResponse) : Decidable (Accepts response) :=
  inferInstanceAs (Decidable (_ ∨ _))

/-- How the admissions of a submission agree with its progress. -/
structure Accounted (admissions : ℕ) (call : ProfileCall) : Prop where
  once : admissions ≤ 1
  /-- A request on the way has not been admitted. -/
  sent : ∀ body, call.wire = some (.submission body) → admissions = 0
  answered : AwaitsSubmission call.phase → ∀ response,
    call.wire = some (.answer response) →
      admissions = if Accepts response then 1 else 0
  awaits : AwaitsSubmission call.phase → ∀ definition,
    call.wire ≠ some (.registration definition)
  restoring : ∀ definition, call.phase = .restoring definition →
    admissions = 0 ∧ ∀ body, call.wire ≠ some (.submission body)
  returned : call.phase = .returned → admissions = 1 ∧ call.wire = none
  refused : ∀ error, call.phase = .failed error → error.statusCode ≠ none →
    admissions = 0 ∧ call.wire = none

/-- The service says whether it has admitted a submission. -/
structure Honest (reply : Reply) : Prop where
  answered : ∀ response, reply.response = some response →
    (reply.admitted ≠ none ↔ Accepts response)
  dropped : reply.response = none → reply.admitted = none

theorem honest_refusal {response : HttpResponse}
    (refused : ¬ Accepts response) (registry : QosProfileRegistry) :
    Honest ⟨some response, registry, none⟩ := by
  refine ⟨fun other same => ?_, fun _ => rfl⟩
  cases same
  exact iff_of_false (fun some_ => some_ rfl) refused

theorem honest_admission {response : HttpResponse}
    (accepts : Accepts response) (registry : QosProfileRegistry)
    (profile : QosProfile) :
    Honest ⟨some response, registry, some profile⟩ := by
  refine ⟨fun other same => ?_, fun dropped => nomatch dropped⟩
  cases same
  exact iff_of_true (fun none_ => nomatch none_) accepts

theorem not_accepts_of_lt {response : HttpResponse}
    (above : 202 < response.status) : ¬ Accepts response := by
  unfold Accepts
  omega

/-- A submission that is not valid is refused. -/
theorem not_accepts_of_invalid {settings : ServiceSettings}
    {runtime : ServiceRuntime} {registry : QosProfileRegistry}
    {body : SubmitRequestPayload} {error : ApiError}
    (refused : validateSubmission settings runtime registry body =
      .error error) :
    ¬ Accepts (.ofError error) := by
  have above : 202 < error.status := by
    rcases unknown_of_validateSubmission refused with status | ⟨status, _⟩
    · omega
    · omega
  exact not_accepts_of_lt above

theorem honest_serve {registry : QosProfileRegistry} {clientId : ℕ}
    {fate : SubmissionFate} {body : SubmitRequestPayload} {reply : Reply}
    (answered : serve deployment registry clientId fate (.submission body) =
      some reply) : Honest reply := by
  simp only [serve, Option.some.injEq] at answered
  split at answered
  · rw [← answered, serveSubmission]
    split
    · rename_i refused
      exact honest_refusal (not_accepts_of_invalid refused) registry
    · split
      · exact honest_admission (Or.inl rfl) registry _
      · exact honest_admission (Or.inr rfl) registry _
      · exact honest_refusal
          (not_accepts_of_lt (by decide : (202 : ℕ) < 400)) registry
      · exact honest_refusal
          (not_accepts_of_lt (by decide : (202 : ℕ) < 409)) registry
      · exact { answered := fun _ same => nomatch same
                dropped := fun _ => rfl }
  · rw [← answered]
    exact honest_refusal (by decide) registry

theorem accounted_post (clientId : ℕ) (body : SubmitRequestPayload) :
    Accounted 0 (.post clientId (.submit body)) where
  once := Nat.zero_le 1
  sent _ _ := rfl
  answered := fun _ _ same => nomatch same
  awaits := fun _ _ same => nomatch same
  restoring := fun _ same => nomatch same
  returned := fun same => nomatch same
  refused := fun _ same => nomatch same

theorem Accounted.lost {admissions : ℕ} {call : ProfileCall}
    (accounted : Accounted admissions call) :
    Accounted admissions (call.withWire none) where
  once := accounted.once
  sent := fun _ same => nomatch same
  answered := fun _ _ same => nomatch same
  awaits := fun _ _ same => nomatch same
  restoring definition was :=
    ⟨(accounted.restoring definition was).1, fun _ same => nomatch same⟩
  returned was := ⟨(accounted.returned was).1, rfl⟩
  refused error was status := ⟨(accounted.refused error was status).1, rfl⟩

/-- What the service admits of a submission on the way is accounted for. -/
theorem Accounted.served {admissions : ℕ} {call : ProfileCall}
    (accounted : Accounted admissions call)
    {body : SubmitRequestPayload} (was : call.wire = some (.submission body))
    {reply : Reply} (honest : Honest reply) :
    Accounted (admissions + if reply.admitted = none then 0 else 1)
      (call.withWire (reply.response.map .answer)) := by
  have before := accounted.sent body was
  have wire_ne : ∀ body, reply.response.map Wire.answer ≠
      some (.submission body) := by
    intro other same
    obtain ⟨response, _, impossible⟩ := Option.map_eq_some_iff.mp same
    cases impossible
  rw [before, Nat.zero_add]
  refine ⟨?_, fun other same => absurd same (wire_ne other), ?_, ?_, ?_, ?_, ?_⟩
  · split <;> omega
  · intro awaits response same
    obtain ⟨other, answered, same⟩ := Option.map_eq_some_iff.mp same
    cases same
    have accepts := honest.answered response answered
    by_cases nothing : reply.admitted = none
    · rw [if_pos nothing, if_neg fun accepted => accepts.mpr accepted nothing]
    · rw [if_neg nothing, if_pos (accepts.mp nothing)]
  · intro awaits definition same
    obtain ⟨response, _, impossible⟩ := Option.map_eq_some_iff.mp same
    cases impossible
  · intro definition restoring
    exact absurd was ((accounted.restoring definition restoring).2 body)
  · intro returned
    rw [(accounted.returned returned).2] at was
    cases was
  · intro error failed status
    rw [(accounted.refused error failed status).2] at was
    cases was

/-- A registration admits nothing. -/
theorem Accounted.registered {admissions : ℕ} {call : ProfileCall}
    (accounted : Accounted admissions call) {definition : ProfileDefinition}
    (was : call.wire = some (.registration definition))
    (response : Option HttpResponse) :
    Accounted admissions (call.withWire (response.map .answer)) := by
  refine ⟨accounted.once, ?_, ?_, ?_, ?_, ?_, ?_⟩
  · intro body same
    obtain ⟨_, _, impossible⟩ := Option.map_eq_some_iff.mp same
    cases impossible
  · intro awaits
    exact absurd was (accounted.awaits awaits definition)
  · intro awaits
    exact absurd was (accounted.awaits awaits definition)
  · intro other restoring
    refine ⟨(accounted.restoring other restoring).1, fun body same => ?_⟩
    obtain ⟨_, _, impossible⟩ := Option.map_eq_some_iff.mp same
    cases impossible
  · intro returned
    rw [(accounted.returned returned).2] at was
    cases was
  · intro error failed status
    rw [(accounted.refused error failed status).2] at was
    cases was

/-- The last answer to a submission concludes the call. -/
theorem Accounted.concluded {admissions : ℕ} {call : ProfileCall}
    (accounted : Accounted admissions call)
    (awaits : AwaitsSubmission call.phase) {response : HttpResponse}
    (was : call.wire = some (.answer response)) :
    Accounted admissions
      (call.conclude (ProfileCall.submissionPhase response)) := by
  have admitted := accounted.answered awaits response was
  refine ⟨accounted.once, fun _ same => (nomatch same),
    fun _ _ same => (nomatch same), fun _ _ same => (nomatch same), ?_, ?_,
    ?_⟩
  · intro definition restoring
    simp only [ProfileCall.conclude, ProfileCall.submissionPhase] at restoring
    split at restoring <;> cases restoring
  · intro returned
    simp only [ProfileCall.conclude, ProfileCall.submissionPhase] at returned
    split at returned
    · rename_i accepts
      exact ⟨admitted.trans (if_pos accepts), rfl⟩
    · cases returned
  · intro error failed status
    simp only [ProfileCall.conclude, ProfileCall.submissionPhase] at failed
    split at failed
    · cases failed
    · rename_i refused
      exact ⟨admitted.trans (if_neg refused), rfl⟩

/-- Until a submission is sent again, nothing has been admitted. -/
theorem Accounted.received {admissions : ℕ} {call moved : ProfileCall}
    (accounted : Accounted admissions call) {body : SubmitRequestPayload}
    {known after : KnownProfiles} {response : HttpResponse}
    (was : call.wire = some (.answer response))
    (received : SubmissionReceived known body response call moved after) :
    Accounted admissions moved := by
  cases received with
  | restores waiting lost =>
      have notFound : response.status = 404 := by
        unfold KnownProfiles.lost at lost
        split at lost
        · assumption
        · cases lost
      have nothing : admissions = 0 :=
        (accounted.answered (Or.inl waiting) response was).trans
          (if_neg (not_accepts_of_lt (by omega)))
      refine ⟨accounted.once, fun _ same => (nomatch same),
        fun awaits => ?_, fun awaits => ?_, fun _ _ => ?_,
        fun same => (nomatch same), fun _ same => (nomatch same)⟩
      · rcases awaits with same | ⟨_, same⟩
        · cases same
        · cases same
      · rcases awaits with same | ⟨_, same⟩
        · cases same
        · cases same
      · exact ⟨nothing, fun _ same => (nomatch same)⟩
  | @retries definition restoring accepted =>
      have nothing := (accounted.restoring definition restoring).1
      exact ⟨accounted.once, fun _ _ => nothing,
        fun _ _ same => (nomatch same), fun _ _ same => (nomatch same),
        fun _ same => (nomatch same), fun same => (nomatch same),
        fun _ same => (nomatch same)⟩
  | @refused definition restoring _ =>
      have nothing := (accounted.restoring definition restoring).1
      refine ⟨accounted.once, fun _ same => (nomatch same),
        fun _ _ same => (nomatch same), fun _ _ same => (nomatch same),
        fun _ same => (nomatch same), fun same => (nomatch same),
        fun _ _ _ => ⟨nothing, rfl⟩⟩
  | concludes awaits => exact accounted.concluded awaits was

/-- A client that stops waiting does not know what becomes of its call. -/
theorem Accounted.gaveUp {admissions : ℕ} {call : ProfileCall}
    (accounted : Accounted admissions call) {error : CarbonshiftError}
    (noStatus : error.statusCode = none) :
    Accounted admissions { call with phase := .failed error } := by
  refine ⟨accounted.once, accounted.sent, fun awaits => ?_, fun awaits => ?_,
    fun _ same => (nomatch same), fun same => (nomatch same), ?_⟩
  · rcases awaits with same | ⟨_, same⟩
    · cases same
    · cases same
  · rcases awaits with same | ⟨_, same⟩
    · cases same
    · cases same
  · intro other same status
    cases same
    exact absurd noStatus status

/-- Every move of a submission is accounted for. -/
theorem Accounted.move {admissions : ℕ} {call moved : ProfileCall}
    (accounted : Accounted admissions call) {body : SubmitRequestPayload}
    (submits : call.request = .submit body)
    {registry after : QosProfileRegistry} {known : KnownProfiles}
    {admitted : Admitted}
    (move : CallMove deployment registry known call moved admitted after) :
    Accounted (admissions + if admitted = none then 0 else 1) moved := by
  cases move with
  | @submissionServed _ _ reply was answered =>
      simp only [Option.map_eq_none_iff]
      exact accounted.served was (honest_serve answered)
  | registrationServed was _ => exact accounted.registered was _
  | lost => exact accounted.lost
  | received was taken =>
      exact accounted.received was (submissionReceived submits taken)
  | gaveUp _ noStatus => exact accounted.gaveUp noStatus

/-- A registration never sends a submission. -/
theorem CallMove.of_registration {registry after : QosProfileRegistry}
    {known : KnownProfiles} {call moved : ProfileCall} {admitted : Admitted}
    {definition : ProfileDefinition}
    (move : CallMove deployment registry known call moved admitted after)
    (registers : call.request = .register definition)
    (unsent : ∀ body, call.wire ≠ some (.submission body)) :
    admitted = none ∧ ∀ body, moved.wire ≠ some (.submission body) := by
  cases move with
  | submissionServed was _ => exact absurd was (unsent _)
  | @registrationServed _ _ reply was _ =>
      refine ⟨rfl, fun body same => ?_⟩
      obtain ⟨_, _, impossible⟩ := Option.map_eq_some_iff.mp same
      cases impossible
  | lost => exact ⟨rfl, fun _ same => (nomatch same)⟩
  | received _ taken =>
      refine ⟨rfl, fun body same => ?_⟩
      obtain ⟨_, ⟨_, rfl, _⟩ | ⟨rfl, _⟩⟩ := registrationReceived registers taken
      · cases same
      · cases same
  | gaveUp _ _ => exact ⟨rfl, unsent⟩

/-- Calls are accounted for, and later calls have not begun. -/
structure AllAccounted (exchange : ProfileExchange) : Prop where
  fresh : ∀ callId, exchange.started ≤ callId →
    callId ∉ exchange.calls ∧ exchange.admissions callId = 0
  submissions : ∀ callId call body,
    exchange.calls.lookup callId = some call →
      call.request = .submit body →
        Accounted (exchange.admissions callId) call
  /-- Registrations carry no submission. -/
  registrations : ∀ callId call definition,
    exchange.calls.lookup callId = some call →
      call.request = .register definition →
        ∀ body, call.wire ≠ some (.submission body)

namespace AllAccounted

theorem new : AllAccounted (new deployment) where
  fresh callId _ := ⟨AList.notMem_empty callId, rfl⟩
  submissions _ _ _ found := by cases found
  registrations _ _ _ found := by cases found

/-- Only the call that moves can be admitted. -/
theorem admissions_of_append {callId : ℕ} {admitted : Admitted}
    (admitted_eq : next.admitted = exchange.admitted ++
      (admitted.map fun admission =>
        { callId := callId, named := admission.1,
          profile := admission.2 }).toList) (other : ℕ) :
    next.admissions other =
      exchange.admissions other +
        if other = callId then (if admitted = none then 0 else 1) else 0 := by
  rw [admissions, admitted_eq, List.countP_append, admissions]
  cases admitted with
  | none => simp
  | some admission => simp [eq_comm]

theorem step {action : Action} (all : AllAccounted exchange)
    (taken : exchange.step deployment action = some next) :
    AllAccounted next := by
  cases step_effect taken with
  | @posted clientId request calls_eq started_eq _ admitted_eq =>
      have same : ∀ callId, next.admissions callId =
          exchange.admissions callId := fun callId => by
        rw [admissions, admissions, admitted_eq]
      have nothing := (all.fresh exchange.started le_rfl).2
      refine ⟨fun callId later => ?_, ?_, ?_⟩
      · rw [started_eq] at later
        obtain ⟨absent, zero⟩ := all.fresh callId (by omega)
        refine ⟨?_, (same callId).trans zero⟩
        rw [calls_eq, AList.mem_insert]
        exact not_or.mpr ⟨by omega, absent⟩
      · intro callId call body found submits
        rw [same]
        rw [calls_eq] at found
        by_cases own : callId = exchange.started
        · subst own
          rw [AList.lookup_insert] at found
          cases found
          cases submits
          rw [nothing]
          exact accounted_post clientId body
        · rw [AList.lookup_insert_ne own] at found
          exact all.submissions callId call body found submits
      · intro callId call definition found registers
        rw [calls_eq] at found
        by_cases own : callId = exchange.started
        · subst own
          rw [AList.lookup_insert] at found
          cases found
          cases registers
          exact fun _ same => (nomatch same)
        · rw [AList.lookup_insert_ne own] at found
          exact all.registrations callId call definition found registers
  | @moved mover before after admitted there move calls_eq started_eq
      admitted_eq =>
      have counted := admissions_of_append admitted_eq
      refine ⟨fun callId later => ?_, ?_, ?_⟩
      · rw [started_eq] at later
        obtain ⟨absent, zero⟩ := all.fresh callId later
        have other : callId ≠ mover := fun same =>
          absent (Dictionary.mem_of_lookup (same ▸ there))
        rw [calls_eq, AList.mem_insert, counted, if_neg other]
        exact ⟨not_or.mpr ⟨other, absent⟩, zero⟩
      · intro callId call body found submits
        rw [calls_eq] at found
        rw [counted]
        by_cases own : callId = mover
        · subst own
          rw [AList.lookup_insert] at found
          cases found
          rw [if_pos rfl]
          rw [move.request_eq] at submits
          exact (all.submissions callId before body there submits).move
            submits move
        · rw [AList.lookup_insert_ne own] at found
          rw [if_neg own]
          exact all.submissions callId call body found submits
      · intro callId call definition found registers
        rw [calls_eq] at found
        by_cases own : callId = mover
        · subst own
          rw [AList.lookup_insert] at found
          cases found
          rw [move.request_eq] at registers
          exact (move.of_registration registers
            (all.registrations callId before definition there registers)).2
        · rw [AList.lookup_insert_ne own] at found
          exact all.registrations callId call definition found registers
  | quiet calls_eq started_eq _ admitted_eq =>
      have same : ∀ callId, next.admissions callId =
          exchange.admissions callId := fun callId => by
        rw [admissions, admissions, admitted_eq]
      refine ⟨?_, ?_, ?_⟩
      · intro callId later
        rw [started_eq] at later
        rw [calls_eq, same]
        exact all.fresh callId later
      · intro callId call body found
        rw [same]
        exact all.submissions callId call body (calls_eq ▸ found)
      · intro callId call definition found
        exact all.registrations callId call definition (calls_eq ▸ found)

theorem of_run {actions : List Action}
    (reached : Transition.run (ProfileExchange.step deployment)
      (ProfileExchange.new deployment) actions = some exchange) :
    AllAccounted exchange :=
  Transition.run_induction (fun _ state => AllAccounted state) new
    (fun _ _ _ _ before taken => before.step taken) reached

end AllAccounted

/-- In every run, a call to submit a request is admitted at most once: once if
it returned, and not at all if the service refused it. -/
theorem submission_admitted_at_most_once
    (deployment : Deployment) (actions : List Action)
    (exchange : ProfileExchange) (callId : ℕ) (call : ProfileCall)
    (body : SubmitRequestPayload)
    (reached : Transition.run (ProfileExchange.step deployment)
      (new deployment) actions = some exchange)
    (found : exchange.calls.lookup callId = some call)
    (submits : call.request = .submit body) :
    exchange.admissions callId ≤ 1 ∧
      (call.phase = .returned → exchange.admissions callId = 1) ∧
        ∀ error, call.phase = .failed error → error.statusCode ≠ none →
          exchange.admissions callId = 0 := by
  have accounted :=
    (AllAccounted.of_run reached).submissions callId call body found submits
  refine ⟨accounted.once, fun returned => (accounted.returned returned).1, ?_⟩
  exact fun error failed status => (accounted.refused error failed status).1

/-! ## A submission over a restart -/

/-- A service without credentials whose clients try twice. -/
def openDeployment : Deployment where
  service := AppState.manualSettings
  runtime := AppState.epochOnly
  apiKey := none
  client _ :=
    { carbonshiftUrl := "http://localhost:8080"
      carbonshiftApiKey := none
      qosProfileRegistrationAttempts := 2
      qosProfileRegistrationRetrySeconds := 1 }

/-- A profile of two flavours. -/
def speechBody : RegisterQosProfilePayload where
  profileId := "speech-v1"
  taskKind := "text_generation"
  flavours := [⟨"Low", 20, 1⟩, ⟨"High", 0, 4⟩]
  errorSemantics := "relative-confidence-degradation-v1"
  maxErrorThreshold := 10
  errorWindow := ⟨12, 14, 12⟩
  cumulativeError := ⟨true, true⟩

def speechDefinition : ProfileDefinition where
  profileId := "speech-v1"
  body := some speechBody
  named payload same := by
    cases same
    rfl

def speechRequest : SubmitRequestPayload where
  deadlineSeconds := 120
  callbackUrl := none
  payload := .null
  qosProfileId := some "speech-v1"
  taskKind := none
  arrivalSlotGlobal := none

/-- The service takes a request and the client its answer. -/
def exchangeOnce (callId : ℕ) : List Action :=
  [.serve callId .scheduled, .receive callId]

/-- After a restart, a submission begins to restore its profile. -/
def lostProfile : List Action :=
  .register 0 speechDefinition :: exchangeOnce 0 ++
    [.restartService, .submit 0 speechRequest] ++ exchangeOnce 1

/-- The profile is restored and the submission sent again. -/
def restoredProfile : List Action := exchangeOnce 1 ++ exchangeOnce 1

/-- The submission has returned to its client. -/
def hasReturned (exchange : ProfileExchange) (callId : ℕ) : Bool :=
  (exchange.calls.lookup callId).any fun call =>
    match call.request, call.phase with
    | .submit _, .returned => true
    | _, _ => false

theorem exists_returned {exchange : ProfileExchange} {callId : ℕ}
    (returned : exchange.hasReturned callId = true) :
    ∃ call body, exchange.calls.lookup callId = some call ∧
      call.request = .submit body ∧ call.phase = .returned := by
  rw [hasReturned, Option.any_eq_true] at returned
  obtain ⟨call, found, last⟩ := returned
  split at last
  · rename_i body submits finished
    exact ⟨call, body, found, submits, finished⟩
  · cases last

/-- The restored submission is admitted once. -/
theorem restored_submission_admitted_once :
    ∃ exchange,
      Transition.run (ProfileExchange.step openDeployment)
          (new openDeployment) (lostProfile ++ restoredProfile) =
        some exchange ∧
      exchange.hasReturned 1 = true ∧ exchange.admissions 1 = 1 := by
  have computed :
      (Transition.run (ProfileExchange.step openDeployment)
          (new openDeployment) (lostProfile ++ restoredProfile)).map
        (fun exchange => exchange.hasReturned 1) = some true := by
    decide +kernel
  obtain ⟨exchange, reached, returned⟩ := Option.map_eq_some_iff.mp computed
  obtain ⟨call, body, found, submits, finished⟩ := exists_returned returned
  exact ⟨exchange, reached, returned,
    (submission_admitted_at_most_once openDeployment _ exchange 1 call body
      reached found submits).2.1 finished⟩

end ProfileExchange

end Carbonshift
