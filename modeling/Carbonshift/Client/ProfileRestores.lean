import Carbonshift.Client.ProfileRuns

/-!
# Restored profiles

Between two restarts the service only gains profiles.  So what has been
registered stays as it was defined, and a submission whose profile has been
restored does not miss it again.
-/

namespace Carbonshift

/-- The definition describes a profile. -/
def ProfileDefinition.Defines (definition : ProfileDefinition)
    (profile : QosProfile) : Prop :=
  ∃ payload, definition.body = some payload ∧ payload.profile = .ok profile

theorem ProfileDefinition.Defines.profileId {definition : ProfileDefinition}
    {profile : QosProfile} (defines : definition.Defines profile) :
    QosProfileId.parse definition.profileId = .ok profile.profileId := by
  obtain ⟨payload, body_eq, decoded⟩ := defines
  rw [← definition.named payload body_eq]
  exact profile_profileId decoded

namespace ProfileExchange

variable {deployment : Deployment} {exchange next : ProfileExchange}

/-! ## The registry between restarts -/

/-- Every profile of the one registry is in the other one. -/
def Keeps (registry after : QosProfileRegistry) : Prop :=
  ∀ profileId profile,
    registry.lookup profileId = some profile →
      after.lookup profileId = some profile

/-- The service offers a profile exactly as the definition has it. -/
def Offered (registry : QosProfileRegistry) (definition : ProfileDefinition) :
    Prop :=
  ∃ profile, definition.Defines profile ∧
    registry.lookup profile.profileId = some profile

theorem Offered.keeps {registry after : QosProfileRegistry}
    {definition : ProfileDefinition} (offered : Offered registry definition)
    (keeps : Keeps registry after) : Offered after definition := by
  obtain ⟨profile, defines, found⟩ := offered
  exact ⟨profile, defines, keeps _ _ found⟩

/-- What is found under the identifier of an offered definition is what it
describes. -/
theorem Offered.lookup {registry : QosProfileRegistry}
    {definition : ProfileDefinition} (offered : Offered registry definition)
    {profileId : QosProfileId}
    (parsed : QosProfileId.parse definition.profileId = .ok profileId) :
    ∃ profile, definition.Defines profile ∧
      registry.lookup profileId = some profile := by
  obtain ⟨profile, defines, found⟩ := offered
  refine ⟨profile, defines, ?_⟩
  cases parsed.symm.trans defines.profileId
  exact found

/-- Two offered definitions of one identifier describe one profile. -/
theorem Offered.agree {registry : QosProfileRegistry}
    {first second : ProfileDefinition} (left : Offered registry first)
    (right : Offered registry second)
    (same : first.profileId = second.profileId) :
    ∃ profile, first.Defines profile ∧ second.Defines profile ∧
      registry.lookup profile.profileId = some profile := by
  obtain ⟨profile, defines, found⟩ := left
  have parsed := defines.profileId
  rw [same] at parsed
  obtain ⟨other, otherDefines, otherFound⟩ := right.lookup parsed
  cases found.symm.trans otherFound
  exact ⟨profile, defines, otherDefines, found⟩

theorem keeps_serveRegistration (registry : QosProfileRegistry)
    (definition : ProfileDefinition) :
    Keeps registry (serveRegistration registry definition).registry := by
  intro profileId profile found
  unfold serveRegistration
  split
  · exact found
  · exact lookup_registerQosProfile _ found

theorem keeps_serve {registry : QosProfileRegistry} {clientId : ℕ}
    {fate : SubmissionFate} {wire : Wire} {reply : Reply}
    (answered : serve deployment registry clientId fate wire = some reply) :
    Keeps registry reply.registry := by
  cases wire with
  | answer response => cases answered
  | submission body =>
      simp only [serve, Option.some.injEq] at answered
      rw [← answered]
      split
      · unfold serveSubmission
        split
        · exact fun _ _ found => found
        · split <;> exact fun _ _ found => found
      · exact fun _ _ found => found
  | registration definition =>
      simp only [serve, Option.some.injEq] at answered
      rw [← answered]
      split
      · exact keeps_serveRegistration registry definition
      · exact fun _ _ found => found

theorem CallMove.keeps {registry after : QosProfileRegistry}
    {known : KnownProfiles} {call moved : ProfileCall} {admitted : Admitted}
    (move : CallMove deployment registry known call moved admitted after) :
    Keeps registry after := by
  cases move with
  | submissionServed _ answered => exact keeps_serve answered
  | registrationServed _ answered => exact keeps_serve answered
  | lost => exact fun _ _ found => found
  | received _ _ => exact fun _ _ found => found
  | gaveUp _ _ => exact fun _ _ found => found

/-- Only a restart loses profiles. -/
theorem keeps_of_step {action : Action}
    (taken : exchange.step deployment action = some next)
    (running : action ≠ .restartService) :
    Keeps exchange.registry next.registry := by
  cases step_effect taken with
  | posted _ _ registry_eq _ =>
      rw [registry_eq]
      exact fun _ _ found => found
  | moved _ move _ _ _ => exact move.keeps
  | quiet _ _ registry_eq _ =>
      rw [registry_eq running]
      exact fun _ _ found => found

theorem keeps_of_run {actions : List Action}
    (running : .restartService ∉ actions)
    (continued : Transition.run (ProfileExchange.step deployment) exchange
      actions = some next) : Keeps exchange.registry next.registry := by
  refine Transition.run_induction_of_forall
    (fun action => action ≠ .restartService)
    (fun _ state => Keeps exchange.registry state.registry)
    (fun _ _ found => found) ?_
    (fun action member => ne_of_mem_of_not_mem member running) continued
  intro history state action after _ _ kept allowed taken profileId profile found
  exact keeps_of_step taken allowed profileId profile
    (kept profileId profile found)

/-! ## Answers of the service -/

/-- An answered registration is never not found, and offered if accepted. -/
theorem answer_of_registration {registry : QosProfileRegistry}
    {clientId : ℕ} {fate : SubmissionFate} {definition : ProfileDefinition}
    {reply : Reply} {response : HttpResponse}
    (answered : serve deployment registry clientId fate
      (.registration definition) = some reply)
    (answer : reply.response = some response) :
    response.status ≠ 404 ∧
      (response.status = 204 → Offered reply.registry definition) := by
  simp only [serve, Option.some.injEq] at answered
  split at answered
  · rw [← answered] at answer ⊢
    unfold serveRegistration at answer ⊢
    split at answer
    · cases answer
      exact ⟨by decide, fun accepted => absurd accepted (by decide)⟩
    · rename_i payload body_eq
      cases answer
      refine ⟨registerQosProfile_ne_notFound registry payload, ?_⟩
      intro accepted
      obtain ⟨profile, decoded, found⟩ := offers_of_noContent accepted
      exact ⟨profile, ⟨payload, body_eq, decoded⟩, found⟩
  · rw [← answered] at answer
    cases answer
    exact ⟨by decide, fun accepted => absurd accepted (by decide)⟩

/-- A submission that names an offered profile is not answered as not
found. -/
theorem answer_of_submission {registry : QosProfileRegistry}
    {clientId : ℕ} {fate : SubmissionFate} {body : SubmitRequestPayload}
    {reply : Reply} {response : HttpResponse}
    {definition : ProfileDefinition}
    (answered : serve deployment registry clientId fate (.submission body) =
      some reply)
    (answer : reply.response = some response)
    (names : body.qosProfileId = some definition.profileId)
    (offered : Offered registry definition) : response.status ≠ 404 := by
  simp only [serve, Option.some.injEq] at answered
  split at answered
  · rw [← answered, serveSubmission] at answer
    split at answer
    · rename_i error refused
      cases answer
      rcases unknown_of_validateSubmission refused with
        status | ⟨_, named, profileId, same, parsed, unknown⟩
      · have other : error.status ≠ 404 := by omega
        exact other
      · cases names.symm.trans same
        obtain ⟨profile, _, found⟩ := offered.lookup parsed
        rw [unknown] at found
        cases found
    · split at answer
      · cases answer
        exact (by decide : (200 : ℕ) ≠ 404)
      · cases answer
        exact (by decide : (202 : ℕ) ≠ 404)
      · cases answer
        exact (by decide : (400 : ℕ) ≠ 404)
      · cases answer
        exact (by decide : (409 : ℕ) ≠ 404)
      · cases answer
  · rw [← answered] at answer
    cases answer
    exact (by decide : (401 : ℕ) ≠ 404)

/-- What is admitted under an offered profile has that profile. -/
theorem defines_of_admission {registry : QosProfileRegistry} {clientId : ℕ}
    {fate : SubmissionFate} {body : SubmitRequestPayload} {reply : Reply}
    {profile : QosProfile} {definition : ProfileDefinition}
    (answered : serve deployment registry clientId fate (.submission body) =
      some reply)
    (admits : reply.admitted = some profile)
    (names : body.qosProfileId = some definition.profileId)
    (offered : Offered registry definition) : definition.Defines profile := by
  simp only [serve, Option.some.injEq] at answered
  split at answered
  · rw [← answered, serveSubmission] at admits
    split at admits
    · cases admits
    · rename_i resolved valid
      have same : resolved = profile := by
        split at admits <;> cases admits <;> rfl
      obtain ⟨profileId, parsed, found⟩ :=
        lookup_of_validateSubmission valid names
      obtain ⟨own, defines, ownFound⟩ := offered.lookup parsed
      cases found.symm.trans ownFound
      exact same ▸ defines
  · rw [← answered] at admits
    cases admits

/-! ## What calls carry -/

/-- Definitions are known under their identifiers. -/
def KeyedById (known : KnownProfiles) : Prop :=
  ∀ profileId definition, known.lookup profileId = some definition →
    definition.profileId = profileId

theorem KeyedById.remember {known : KnownProfiles} (keyed : KeyedById known)
    (definition : ProfileDefinition) :
    KeyedById (known.remember definition) := by
  intro profileId other found
  unfold KnownProfiles.remember at found
  split at found
  · exact keyed profileId other found
  · by_cases own : profileId = definition.profileId
    · rw [own, AList.lookup_insert] at found
      cases found
      exact own.symm
    · rw [AList.lookup_insert_ne own] at found
      exact keyed profileId other found

/-- The definition to restore has the identifier that the submission names. -/
theorem KeyedById.lost {known : KnownProfiles} (keyed : KeyedById known)
    {body : SubmitRequestPayload} {response : HttpResponse}
    {definition : ProfileDefinition}
    (lost : known.lost body response = some definition) :
    body.qosProfileId = some definition.profileId := by
  unfold KnownProfiles.lost at lost
  split at lost
  · obtain ⟨profileId, names, found⟩ := Option.bind_eq_some_iff.mp lost
    rw [names, keyed profileId definition found]
  · cases lost

theorem known_of_receive {known after : KnownProfiles}
    {response : HttpResponse} {call moved : ProfileCall}
    (taken : call.receive known response = some (moved, after)) :
    after = known ∨ ∃ definition, after = known.remember definition := by
  unfold ProfileCall.receive at taken
  split at taken
  · split at taken
    · cases taken
      exact Or.inl rfl
    · cases taken
      exact Or.inl rfl
  · split at taken
    · cases taken
      exact Or.inr ⟨_, rfl⟩
    · cases taken
      exact Or.inl rfl
  · split at taken
    · cases taken
      exact Or.inr ⟨_, rfl⟩
    · cases taken
      exact Or.inl rfl
  · cases taken
    exact Or.inl rfl
  · cases taken

/-- What a call carries is its own. -/
structure WellFormed (call : ProfileCall) : Prop where
  submission : ∀ body, call.wire = some (.submission body) →
    call.request = .submit body
  registration : ∀ definition other, call.request = .register definition →
    call.wire = some (.registration other) → other = definition
  restoring : ∀ definition other, call.phase = .restoring definition →
    call.wire = some (.registration other) → other = definition
  named : ∀ definition,
    call.phase = .restoring definition ∨ call.phase = .retrying definition →
      ∃ body, call.request = .submit body ∧
        body.qosProfileId = some definition.profileId

theorem wellFormed_post (clientId : ℕ) (request : CallRequest) :
    WellFormed (.post clientId request) := by
  cases request with
  | submit body =>
      refine ⟨fun other same => ?_, fun _ _ same => (nomatch same),
        fun _ _ same => (nomatch same), fun _ same => ?_⟩
      · cases same
        rfl
      · rcases same with same | same
        · cases same
        · cases same
  | register definition =>
      refine ⟨fun _ same => (nomatch same), fun _ _ own carried => ?_,
        fun _ _ same => (nomatch same), fun _ same => ?_⟩
      · cases own
        cases carried
        rfl
      · rcases same with same | same
        · cases same
        · cases same

/-- An answer, or nothing, carries no request. -/
theorem WellFormed.withWire {call : ProfileCall} (formed : WellFormed call)
    {wire : Option Wire}
    (noSubmission : ∀ body, wire ≠ some (.submission body))
    (noRegistration : ∀ definition, wire ≠ some (.registration definition)) :
    WellFormed (call.withWire wire) where
  submission body carried := absurd carried (noSubmission body)
  registration _ other _ carried := absurd carried (noRegistration other)
  restoring _ other _ carried := absurd carried (noRegistration other)
  named := formed.named

/-- A finished call carries nothing. -/
theorem wellFormed_conclude (call : ProfileCall) {phase : CallPhase}
    (finished : ∀ definition,
      phase ≠ .restoring definition ∧ phase ≠ .retrying definition) :
    WellFormed (call.conclude phase) where
  submission _ carried := nomatch carried
  registration _ _ _ carried := nomatch carried
  restoring _ _ _ carried := nomatch carried
  named definition same := by
    rcases same with same | same
    · exact absurd same (finished definition).1
    · exact absurd same (finished definition).2

theorem submissionPhase_finished (response : HttpResponse)
    (definition : ProfileDefinition) :
    ProfileCall.submissionPhase response ≠ .restoring definition ∧
      ProfileCall.submissionPhase response ≠ .retrying definition := by
  unfold ProfileCall.submissionPhase
  split
  · exact ⟨fun same => (nomatch same), fun same => (nomatch same)⟩
  · exact ⟨fun same => (nomatch same), fun same => (nomatch same)⟩

theorem WellFormed.received {call moved : ProfileCall}
    (formed : WellFormed call) {known after : KnownProfiles}
    (keyed : KeyedById known) {response : HttpResponse}
    (taken : call.receive known response = some (moved, after)) :
    WellFormed moved := by
  cases request_eq : call.request with
  | register definition =>
      obtain ⟨_, ⟨_, rfl, _⟩ | ⟨rfl, _⟩⟩ :=
        registrationReceived request_eq taken
      · exact wellFormed_conclude call fun _ =>
          ⟨fun same => (nomatch same), fun same => (nomatch same)⟩
      · exact wellFormed_conclude call fun _ =>
          ⟨fun same => (nomatch same), fun same => (nomatch same)⟩
  | submit body =>
      cases submissionReceived request_eq taken with
      | @restores definition was lost =>
          refine ⟨fun _ same => (nomatch same), fun _ _ registers => ?_,
            fun _ _ same carried => ?_, fun _ same => ?_⟩
          · cases request_eq.symm.trans registers
          · cases same
            cases carried
            rfl
          · rcases same with same | same
            · cases same
              exact ⟨body, request_eq, keyed.lost lost⟩
            · cases same
      | @retries definition was accepted =>
          refine ⟨fun _ same => ?_, fun _ _ registers => ?_,
            fun _ _ same => (nomatch same), fun _ same => ?_⟩
          · cases same
            exact request_eq
          · cases request_eq.symm.trans registers
          · rcases same with same | same
            · cases same
            · cases same
              exact formed.named definition (Or.inl was)
      | refused _ _ =>
          exact wellFormed_conclude call fun _ =>
            ⟨fun same => (nomatch same), fun same => (nomatch same)⟩
      | concludes _ =>
          exact wellFormed_conclude call (submissionPhase_finished response)

theorem answer_ne_submission (response : Option HttpResponse)
    (body : SubmitRequestPayload) :
    response.map Wire.answer ≠ some (.submission body) := by
  intro same
  obtain ⟨_, _, impossible⟩ := Option.map_eq_some_iff.mp same
  cases impossible

private theorem answer_ne_registration (response : Option HttpResponse)
    (definition : ProfileDefinition) :
    response.map Wire.answer ≠ some (.registration definition) := by
  intro same
  obtain ⟨_, _, impossible⟩ := Option.map_eq_some_iff.mp same
  cases impossible

theorem WellFormed.move {registry after : QosProfileRegistry}
    {known : KnownProfiles} {call moved : ProfileCall} {admitted : Admitted}
    (formed : WellFormed call) (keyed : KeyedById known)
    (move : CallMove deployment registry known call moved admitted after) :
    WellFormed moved := by
  cases move with
  | submissionServed _ _ =>
      exact formed.withWire (answer_ne_submission _) (answer_ne_registration _)
  | registrationServed _ _ =>
      exact formed.withWire (answer_ne_submission _) (answer_ne_registration _)
  | lost =>
      exact formed.withWire (fun _ same => (nomatch same))
        fun _ same => (nomatch same)
  | received _ taken => exact formed.received keyed taken
  | gaveUp _ _ =>
      refine ⟨formed.submission, formed.registration,
        fun _ _ same => (nomatch same), fun _ same => ?_⟩
      rcases same with same | same
      · cases same
      · cases same

/-- Calls carry their own, and clients know definitions by identifier. -/
structure Coherent (exchange : ProfileExchange) : Prop where
  keyed : ∀ clientId, KeyedById (exchange.knownTo clientId)
  formed : ∀ callId call, exchange.calls.lookup callId = some call →
    WellFormed call
  numbered : ∀ callId call, exchange.calls.lookup callId = some call →
    callId < exchange.started

namespace Coherent

theorem new : Coherent (new deployment) where
  keyed _ _ _ found := by cases found
  formed _ _ found := by cases found
  numbered _ _ found := by cases found

private theorem keyed_step {action : Action} (coherent : Coherent exchange)
    (taken : exchange.step deployment action = some next) (clientId : ℕ) :
    KeyedById (next.knownTo clientId) := by
  cases action with
  | submit _ _ | register _ _ | startBootstrap _ _ | restartService =>
      cases taken
      exact coherent.keyed clientId
  | serve callId fate =>
      obtain ⟨call, found, rest⟩ := Option.bind_eq_some_iff.mp taken
      obtain ⟨wire, was, served⟩ := Option.bind_eq_some_iff.mp rest
      obtain ⟨reply, answered, rfl⟩ := Option.map_eq_some_iff.mp served
      exact coherent.keyed clientId
  | lose callId =>
      obtain ⟨call, found, rfl⟩ := Option.map_eq_some_iff.mp taken
      exact coherent.keyed clientId
  | receive callId =>
      obtain ⟨call, found, rest⟩ := Option.bind_eq_some_iff.mp taken
      split at rest
      · obtain ⟨⟨moved, after⟩, received, rfl⟩ :=
          Option.map_eq_some_iff.mp rest
        by_cases own : clientId = call.clientId
        · rw [own, knownTo, Dictionary.getD_insert]
          rcases known_of_receive received with rfl | ⟨definition, rfl⟩
          · exact coherent.keyed call.clientId
          · exact (coherent.keyed call.clientId).remember definition
        · rw [knownTo, Dictionary.getD_insert_of_ne own]
          exact coherent.keyed clientId
      · cases rest
  | giveUp callId reason =>
      obtain ⟨call, found, rest⟩ := Option.bind_eq_some_iff.mp taken
      split at rest
      · cases rest
      · cases rest
      · cases rest
        exact coherent.keyed clientId
  | bootstrap other =>
      obtain ⟨bootstrap, found, rest⟩ := Option.bind_eq_some_iff.mp taken
      unfold bootstrapStep at rest
      split at rest
      · cases rest
        exact coherent.keyed clientId
      · obtain ⟨call, _, proceeds⟩ := Option.bind_eq_some_iff.mp rest
        obtain ⟨after, _, rfl⟩ := Option.map_eq_some_iff.mp proceeds
        exact coherent.keyed clientId
      · cases rest
  | restartClient other =>
      cases taken
      by_cases own : clientId = other
      · intro profileId definition found
        rw [knownTo, Dictionary.getD, own, AList.lookup_erase] at found
        cases found
      · intro profileId definition found
        rw [knownTo, Dictionary.getD, AList.lookup_erase_ne own] at found
        exact coherent.keyed clientId profileId definition found

theorem step {action : Action} (coherent : Coherent exchange)
    (taken : exchange.step deployment action = some next) :
    Coherent next := by
  have every : ∀ callId call, next.calls.lookup callId = some call →
      WellFormed call ∧ callId < next.started := by
    intro callId call found
    cases step_effect taken with
    | @posted clientId request calls_eq started_eq _ _ =>
        rw [calls_eq] at found
        rw [started_eq]
        by_cases own : callId = exchange.started
        · rw [own, AList.lookup_insert] at found
          cases found
          exact ⟨wellFormed_post clientId request, by omega⟩
        · rw [AList.lookup_insert_ne own] at found
          exact ⟨coherent.formed callId call found,
            Nat.lt_succ_of_lt (coherent.numbered callId call found)⟩
    | @moved mover before _ _ there move calls_eq started_eq _ =>
        rw [calls_eq] at found
        rw [started_eq]
        by_cases own : callId = mover
        · rw [own, AList.lookup_insert] at found
          cases found
          exact ⟨(coherent.formed mover before there).move
            (coherent.keyed before.clientId) move,
            own ▸ coherent.numbered mover before there⟩
        · rw [AList.lookup_insert_ne own] at found
          exact ⟨coherent.formed callId call found,
            coherent.numbered callId call found⟩
    | quiet calls_eq started_eq _ _ =>
        rw [calls_eq] at found
        rw [started_eq]
        exact ⟨coherent.formed callId call found,
          coherent.numbered callId call found⟩
  exact ⟨coherent.keyed_step taken,
    fun callId call found => (every callId call found).1,
    fun callId call found => (every callId call found).2⟩

theorem of_run {actions : List Action} (coherent : Coherent exchange)
    (continued : Transition.run (ProfileExchange.step deployment) exchange
      actions = some next) : Coherent next :=
  Transition.run_induction (fun _ state => Coherent state) coherent
    (fun _ _ _ _ before taken => before.step taken) continued

end Coherent

end ProfileExchange

end Carbonshift
