import Carbonshift.Client.ProfileRestores

/-!
# What a registration guarantees

Until the service restarts, an accepted definition is what its identifier
means: to every client, to every submission that restored it, and to a client
that has registered its profiles at its start.
-/

namespace Carbonshift

namespace ProfileExchange

variable {deployment : Deployment} {exchange next : ProfileExchange}

/-! ## Following one call -/

/-- What is admitted in a move comes from a submission on the way. -/
theorem CallMove.admits {registry after : QosProfileRegistry}
    {known : KnownProfiles} {call moved : ProfileCall} {admitted : Admitted}
    (move : CallMove deployment registry known call moved admitted after)
    {admission : Option String × QosProfile}
    (admits : admitted = some admission) :
    ∃ body, call.wire = some (.submission body) ∧
      admission.1 = body.qosProfileId ∧
        ∀ definition, body.qosProfileId = some definition.profileId →
          Offered registry definition → definition.Defines admission.2 := by
  cases move with
  | @submissionServed body fate reply was answered =>
      obtain ⟨profile, admitted_eq, rfl⟩ := Option.map_eq_some_iff.mp admits
      exact ⟨body, was, rfl, fun definition names offered =>
        defines_of_admission answered admitted_eq names offered⟩
  | registrationServed _ _ => cases admits
  | lost => cases admits
  | received _ _ => cases admits
  | gaveUp _ _ => cases admits

/-- A property that a call keeps until a restart, and what is then admitted of
it. -/
structure Followed (deployment : Deployment)
    (holds : QosProfileRegistry → ProfileCall → Prop)
    (admits : QosProfile → Prop) : Prop where
  keeps : ∀ {registry after : QosProfileRegistry} {call : ProfileCall},
    holds registry call → Keeps registry after → holds after call
  moves : ∀ {registry after : QosProfileRegistry} {known : KnownProfiles}
    {call moved : ProfileCall} {admitted : Admitted},
    WellFormed call → holds registry call →
      CallMove deployment registry known call moved admitted after →
        holds after moved ∧
          ∀ admission, admitted = some admission → admits admission.2

section Following

variable {holds : QosProfileRegistry → ProfileCall → Prop}
  {admits : QosProfile → Prop}

private theorem Followed.step (followed : Followed deployment holds admits)
    (coherent : Coherent exchange) {callId : ℕ} {call : ProfileCall}
    (found : exchange.calls.lookup callId = some call)
    (holding : holds exchange.registry call) {action : Action}
    (running : action ≠ .restartService)
    (taken : exchange.step deployment action = some next) :
    (∃ moved, next.calls.lookup callId = some moved ∧
        moved.request = call.request ∧ holds next.registry moved) ∧
      ∀ admission ∈ next.admitted, admission.callId = callId →
        admission ∈ exchange.admitted ∨ admits admission.profile := by
  have kept := followed.keeps holding (keeps_of_step taken running)
  cases step_effect taken with
  | posted calls_eq _ _ admitted_eq =>
      have other : callId ≠ exchange.started :=
        (coherent.numbered callId call found).ne
      refine ⟨⟨call, ?_, rfl, kept⟩, fun admission member _ => ?_⟩
      · rw [calls_eq, AList.lookup_insert_ne other, found]
      · exact Or.inl (admitted_eq ▸ member)
  | @moved mover before moved admitted there move calls_eq _ admitted_eq =>
      by_cases own : callId = mover
      · subst own
        cases found.symm.trans there
        obtain ⟨after, granted⟩ :=
          followed.moves (coherent.formed callId call found) holding move
        refine ⟨⟨moved, ?_, move.request_eq, after⟩, fun admission member _ => ?_⟩
        · rw [calls_eq, AList.lookup_insert]
        · rw [admitted_eq, List.mem_append, Option.mem_toList,
            Option.map_eq_some_iff] at member
          rcases member with already | ⟨recent, admitted_eq, rfl⟩
          · exact Or.inl already
          · exact Or.inr (granted recent admitted_eq)
      · refine ⟨⟨call, ?_, rfl, kept⟩, fun admission member of_call => ?_⟩
        · rw [calls_eq, AList.lookup_insert_ne own, found]
        · rw [admitted_eq, List.mem_append, Option.mem_toList,
            Option.map_eq_some_iff] at member
          rcases member with already | ⟨recent, _, rfl⟩
          · exact Or.inl already
          · exact absurd of_call.symm own
  | quiet calls_eq _ _ admitted_eq =>
      refine ⟨⟨call, ?_, rfl, kept⟩, fun admission member _ => ?_⟩
      · rw [calls_eq, found]
      · exact Or.inl (admitted_eq ▸ member)

/-- The property of a call holds in every run without a restart. -/
theorem Followed.of_run (followed : Followed deployment holds admits)
    (coherent : Coherent exchange) {callId : ℕ} {call : ProfileCall}
    (found : exchange.calls.lookup callId = some call)
    (holding : holds exchange.registry call) {actions : List Action}
    (running : .restartService ∉ actions)
    (continued : Transition.run (ProfileExchange.step deployment) exchange
      actions = some next) :
    (∃ moved, next.calls.lookup callId = some moved ∧
        moved.request = call.request ∧ holds next.registry moved) ∧
      ∀ admission ∈ next.admitted, admission.callId = callId →
        admission ∈ exchange.admitted ∨ admits admission.profile := by
  refine (Transition.run_induction_of_forall
    (fun action => action ≠ .restartService)
    (fun _ state => Coherent state ∧
      (∃ moved, state.calls.lookup callId = some moved ∧
        moved.request = call.request ∧ holds state.registry moved) ∧
      ∀ admission ∈ state.admitted, admission.callId = callId →
        admission ∈ exchange.admitted ∨ admits admission.profile)
    ⟨coherent, ⟨call, found, rfl, holding⟩,
      fun admission member _ => Or.inl member⟩ ?_
    (fun action member => ne_of_mem_of_not_mem member running) continued).2
  rintro history state action after - - ⟨before, ⟨moved, there, request_eq,
    still⟩, granted⟩ allowed taken
  obtain ⟨⟨later, lookup_eq, same, kept⟩, recent⟩ :=
    followed.step before there still allowed taken
  refine ⟨before.step taken, ⟨later, lookup_eq, same.trans request_eq, kept⟩,
    fun admission member of_call => ?_⟩
  rcases recent admission member of_call with already | grants
  · exact granted admission already of_call
  · exact Or.inr grants

end Following

/-- A call that is new after a run was posted in it. -/
theorem posted_of_run {actions : List Action} {callId : ℕ} {call : ProfileCall}
    (absent : callId ∉ exchange.calls)
    (continued : Transition.run (ProfileExchange.step deployment) exchange
      actions = some next)
    (found : next.calls.lookup callId = some call) :
    ∃ earlier later posted clientId request,
      actions = earlier ++ later ∧
        Transition.run (ProfileExchange.step deployment) exchange earlier =
          some posted ∧
        Transition.run (ProfileExchange.step deployment) posted later =
          some next ∧
        posted.calls.lookup callId = some (.post clientId request) := by
  let Posted : ProfileExchange → Prop := fun state => callId ∈ state.calls
  have there : Posted next := Dictionary.mem_of_lookup found
  obtain ⟨earlier, action, later, before, posted, split, reached, taken,
      not_yet, there⟩ :=
    Transition.exists_step_of_run (show ¬ Posted exchange from absent)
      continued there
  change callId ∈ posted.calls at there
  change callId ∉ before.calls at not_yet
  have through : Transition.run (ProfileExchange.step deployment) exchange
      (earlier ++ [action]) = some posted :=
    Transition.run_concat_eq_some_iff.mpr ⟨before, reached, taken⟩
  have rest : Transition.run (ProfileExchange.step deployment) posted later =
      some next := by
    rw [split, ← List.singleton_append, ← List.append_assoc,
      Transition.run_append, through] at continued
    exact continued
  cases step_effect taken with
  | @posted clientId request calls_eq _ _ _ =>
      rw [calls_eq, AList.mem_insert] at there
      have own : callId = before.started := there.resolve_right not_yet
      refine ⟨earlier ++ [action], later, posted, clientId, request, ?_,
        through, rest, ?_⟩
      · rw [split, List.append_assoc, List.singleton_append]
      · rw [calls_eq, own, AList.lookup_insert]
  | moved lookup_eq _ calls_eq _ _ =>
      rw [calls_eq, AList.mem_insert] at there
      rcases there with rfl | there
      · exact absurd (Dictionary.mem_of_lookup lookup_eq) not_yet
      · exact absurd there not_yet
  | quiet calls_eq _ _ _ => exact absurd (calls_eq ▸ there) not_yet

/-- The property of a call that was posted in a run without a restart. -/
theorem Followed.of_posted {holds : QosProfileRegistry → ProfileCall → Prop}
    {admits : QosProfile → Prop} (followed : Followed deployment holds admits)
    {actions : List Action} (coherent : Coherent exchange)
    (running : .restartService ∉ actions)
    (continued : Transition.run (ProfileExchange.step deployment) exchange
      actions = some next) {callId : ℕ} (recent : exchange.started ≤ callId)
    {call : ProfileCall} (found : next.calls.lookup callId = some call)
    (initially : ∀ earlier posted clientId, .restartService ∉ earlier →
      Transition.run (ProfileExchange.step deployment) exchange earlier =
        some posted → holds posted.registry (.post clientId call.request)) :
    holds next.registry call := by
  have absent : callId ∉ exchange.calls := by
    intro member
    obtain ⟨early, there⟩ := Dictionary.exists_lookup_of_mem member
    exact absurd (coherent.numbered callId early there) (by omega)
  obtain ⟨earlier, later, posted, clientId, request, split, before, after,
    there⟩ := posted_of_run absent continued found
  rw [split, List.mem_append, not_or] at running
  have coherentPosted := coherent.of_run before
  have same : call.request = request := by
    have unconditionally : Followed deployment (fun _ _ => True)
        (fun _ => True) :=
      ⟨fun _ _ => trivial, fun _ _ _ => ⟨trivial, fun _ _ => trivial⟩⟩
    obtain ⟨⟨last, thereLast, request_eq, _⟩, _⟩ :=
      unconditionally.of_run coherentPosted there trivial running.2 after
    cases thereLast.symm.trans found
    exact request_eq
  have first := initially earlier posted clientId running.1 before
  rw [same] at first
  obtain ⟨⟨last, thereLast, _, holding⟩, _⟩ :=
    followed.of_run coherentPosted there first running.2 after
  cases thereLast.symm.trans found
  exact holding

/-! ## Restored submissions -/

/-- The profile that a submission names is offered, or about to be. -/
structure Secured (registry : QosProfileRegistry)
    (definition : ProfileDefinition) (call : ProfileCall) : Prop where
  named : ∃ body, call.request = .submit body ∧
    body.qosProfileId = some definition.profileId
  answered : ∀ response, call.wire = some (.answer response) →
    response.status ≠ 404
  accepted : ∀ response, call.wire = some (.answer response) →
    call.phase = .restoring definition → response.status = 204 →
      Offered registry definition
  /-- A submission is only on the way once the profile is there. -/
  sent : ∀ body, call.wire = some (.submission body) →
    Offered registry definition
  restoring : ∀ other, call.phase = .restoring other → other = definition
  failed : ∀ error, call.phase = .failed error →
    error.statusCode ≠ some 404

namespace Secured

variable {registry after : QosProfileRegistry}
  {definition : ProfileDefinition} {call moved : ProfileCall}

/-- A submission that begins to restore the profile that it names. -/
theorem of_restoring (formed : WellFormed call)
    (restoring : call.phase = .restoring definition)
    (sent : call.wire = some (.registration definition)) :
    Secured registry definition call where
  named := formed.named definition (Or.inl restoring)
  answered _ was := by cases sent.symm.trans was
  accepted _ was := by cases sent.symm.trans was
  sent _ was := by cases sent.symm.trans was
  restoring other was := by
    cases restoring.symm.trans was
    rfl
  failed _ was := by cases restoring.symm.trans was

/-- A submission that names an offered profile. -/
theorem of_post {body : SubmitRequestPayload}
    (names : body.qosProfileId = some definition.profileId)
    (offered : Offered registry definition) (clientId : ℕ) :
    Secured registry definition (.post clientId (.submit body)) where
  named := ⟨body, rfl, names⟩
  answered _ was := nomatch was
  accepted _ was := nomatch was
  sent _ _ := offered
  restoring _ was := nomatch was
  failed _ was := nomatch was

theorem keeps (secured : Secured registry definition call)
    (keeps : Keeps registry after) : Secured after definition call where
  named := secured.named
  answered := secured.answered
  accepted response was restoring status :=
    (secured.accepted response was restoring status).keeps keeps
  sent body was := (secured.sent body was).keeps keeps
  restoring := secured.restoring
  failed := secured.failed

/-- The service answers a submission that is on the way. -/
private theorem submissionServed (secured : Secured registry definition call)
    (formed : WellFormed call) {body : SubmitRequestPayload}
    (was : call.wire = some (.submission body)) {clientId : ℕ}
    {fate : SubmissionFate} {reply : Reply}
    (served : serve deployment registry clientId fate (.submission body) =
      some reply) :
    Secured reply.registry definition
      (call.withWire (reply.response.map .answer)) := by
  obtain ⟨own, submits, names⟩ := secured.named
  cases submits.symm.trans (formed.submission body was)
  have offered := secured.sent body was
  refine ⟨secured.named, ?_, fun _ _ _ _ => offered.keeps (keeps_serve served),
    fun _ sent => ?_, secured.restoring, secured.failed⟩
  · intro response carried
    obtain ⟨_, answer, same⟩ := Option.map_eq_some_iff.mp carried
    cases same
    exact answer_of_submission served answer names offered
  · obtain ⟨_, _, same⟩ := Option.map_eq_some_iff.mp sent
    cases same

/-- The service answers a registration that is on the way. -/
private theorem registrationServed
    (secured : Secured registry definition call) (formed : WellFormed call)
    {other : ProfileDefinition}
    (was : call.wire = some (.registration other)) {clientId : ℕ}
    {fate : SubmissionFate} {reply : Reply}
    (served : serve deployment registry clientId fate (.registration other) =
      some reply) :
    Secured reply.registry definition
      (call.withWire (reply.response.map .answer)) := by
  refine ⟨secured.named, ?_, ?_, fun _ sent => ?_, secured.restoring,
    secured.failed⟩
  · intro response carried
    obtain ⟨_, answer, same⟩ := Option.map_eq_some_iff.mp carried
    cases same
    exact (answer_of_registration served answer).1
  · intro response carried restoring accepted
    obtain ⟨_, answer, same⟩ := Option.map_eq_some_iff.mp carried
    cases same
    cases formed.restoring definition other restoring was
    exact (answer_of_registration served answer).2 accepted
  · obtain ⟨_, _, same⟩ := Option.map_eq_some_iff.mp sent
    cases same

/-- The client takes an answer in. -/
private theorem received (secured : Secured registry definition call)
    {known afterwards : KnownProfiles} {response : HttpResponse}
    (was : call.wire = some (.answer response))
    (taken : call.receive known response = some (moved, afterwards)) :
    Secured registry definition moved := by
  have found := secured.answered response was
  obtain ⟨body, submits, names⟩ := secured.named
  have named : ∃ body, moved.request = .submit body ∧
      body.qosProfileId = some definition.profileId :=
    ⟨body, (request_of_receive taken).trans submits, names⟩
  have failed : ∀ error, CallPhase.failed (.refused response) = .failed error →
      error.statusCode ≠ some 404 := by
    intro error same status
    cases same
    exact found (Option.some.inj status)
  cases submissionReceived submits taken with
  | restores _ lost =>
      unfold KnownProfiles.lost at lost
      rw [if_neg found] at lost
      cases lost
  | @retries other restoring accepted =>
      cases secured.restoring other restoring
      exact { named := named
              answered := fun _ carried => nomatch carried
              accepted := fun _ carried => nomatch carried
              sent := fun _ _ =>
                secured.accepted response was restoring accepted
              restoring := fun _ same => nomatch same
              failed := fun _ same => nomatch same }
  | refused _ _ =>
      exact { named := named
              answered := fun _ carried => nomatch carried
              accepted := fun _ carried => nomatch carried
              sent := fun _ carried => nomatch carried
              restoring := fun _ same => nomatch same
              failed := failed }
  | concludes _ =>
      refine { named := named
               answered := fun _ carried => nomatch carried
               accepted := fun _ carried => nomatch carried
               sent := fun _ carried => nomatch carried
               restoring := fun other same =>
                 absurd same (submissionPhase_finished response other).1
               failed := fun error same => ?_ }
      simp only [ProfileCall.conclude, ProfileCall.submissionPhase] at same
      split at same
      · cases same
      · exact failed error same

/-- What is secured stays so until a restart, and is admitted under the
definition. -/
theorem followed (deployment : Deployment) (definition : ProfileDefinition) :
    Followed deployment (fun registry call => Secured registry definition call)
      (fun profile => definition.Defines profile) where
  keeps secured keeps := secured.keeps keeps
  moves := by
    intro registry after known call moved admitted formed secured move
    refine ⟨?_, fun admission admits => ?_⟩
    · cases move with
      | submissionServed was served =>
          exact secured.submissionServed formed was served
      | registrationServed was served =>
          exact secured.registrationServed formed was served
      | lost =>
          exact { named := secured.named
                  answered := fun _ carried => nomatch carried
                  accepted := fun _ carried => nomatch carried
                  sent := fun _ carried => nomatch carried
                  restoring := secured.restoring
                  failed := secured.failed }
      | received was taken => exact secured.received was taken
      | gaveUp _ noStatus =>
          refine { named := secured.named
                   answered := secured.answered
                   accepted := fun _ _ same => nomatch same
                   sent := secured.sent
                   restoring := fun _ same => nomatch same
                   failed := fun error same => ?_ }
          cases same
          rw [noStatus]
          exact Option.some_ne_none 404 |>.symm
    · obtain ⟨body, was, _, defines⟩ := move.admits admits
      obtain ⟨own, submits, names⟩ := secured.named
      cases submits.symm.trans (formed.submission body was)
      exact defines definition names (secured.sent body was)

end Secured

/-- Until the next restart of the service, a submission that restores the
profile that it names is not refused as unknown any more, and it is admitted
under the definition that was restored or not at all. -/
theorem restored_submission_finds_its_profile
    (deployment : Deployment) (earlier later : List Action)
    (before exchange : ProfileExchange) (callId : ℕ)
    (call moved : ProfileCall) (definition : ProfileDefinition)
    (reached : Transition.run (ProfileExchange.step deployment)
      (new deployment) earlier = some before)
    (found : before.calls.lookup callId = some call)
    (restoring : call.phase = .restoring definition)
    (sent : call.wire = some (.registration definition))
    (running : .restartService ∉ later)
    (continued : Transition.run (ProfileExchange.step deployment) before
      later = some exchange)
    (afterwards : exchange.calls.lookup callId = some moved) :
    (∀ error, moved.phase = .failed error → error.statusCode ≠ some 404) ∧
      ∀ admission ∈ exchange.admitted, admission.callId = callId →
        definition.Defines admission.profile := by
  have coherent := Coherent.new.of_run reached
  have formed := coherent.formed callId call found
  obtain ⟨⟨last, there, _, secured⟩, granted⟩ :=
    (Secured.followed deployment definition).of_run coherent found
      (.of_restoring formed restoring sent) running continued
  cases there.symm.trans afterwards
  refine ⟨secured.failed, fun admission member of_call => ?_⟩
  rcases granted admission member of_call with already | defines
  · obtain ⟨body, submits, _⟩ := formed.named definition (Or.inl restoring)
    have nothing := (((AllAccounted.of_run reached).submissions callId call
      body found submits).restoring definition restoring).1
    rw [admissions, List.countP_eq_zero] at nothing
    exact absurd (decide_eq_true of_call) (nothing admission already)
  · exact defines

/-- The submission has just begun to restore its profile. -/
def beginsToRestore (exchange : ProfileExchange) (callId : ℕ) : Bool :=
  (exchange.calls.lookup callId).any fun call =>
    match call.phase, call.wire with
    | .restoring _, some (.registration _) => true
    | _, _ => false

/-- The submission finds the profile that it has restored. -/
theorem restored_submission_finds_speech :
    ∃ before exchange call definition moved,
      Transition.run (ProfileExchange.step openDeployment)
          (new openDeployment) lostProfile = some before ∧
      before.calls.lookup 1 = some call ∧
      call.phase = .restoring definition ∧
      Transition.run (ProfileExchange.step openDeployment) before
          restoredProfile = some exchange ∧
      exchange.calls.lookup 1 = some moved ∧
      ∀ admission ∈ exchange.admitted, admission.callId = 1 →
        definition.Defines admission.profile := by
  have computed :
      ((Transition.run (ProfileExchange.step openDeployment)
          (new openDeployment) lostProfile).bind fun before =>
        (Transition.run (ProfileExchange.step openDeployment) before
          restoredProfile).map fun exchange =>
            before.beginsToRestore 1 && exchange.hasReturned 1) =
        some true := by
    decide +kernel
  obtain ⟨before, reached, rest⟩ := Option.bind_eq_some_iff.mp computed
  obtain ⟨exchange, continued, holds⟩ := Option.map_eq_some_iff.mp rest
  rw [Bool.and_eq_true] at holds
  have begins := holds.1
  rw [beginsToRestore, Option.any_eq_true] at begins
  obtain ⟨call, found, begins⟩ := begins
  obtain ⟨moved, body, afterwards, _, _⟩ := exists_returned holds.2
  split at begins
  · rename_i definition other restoring carried
    have formed := (Coherent.new.of_run reached).formed 1 call found
    have sent : call.wire = some (.registration definition) := by
      rw [carried, formed.restoring definition other restoring carried]
    refine ⟨before, exchange, call, definition, moved, reached, found,
      restoring, continued, afterwards, ?_⟩
    refine (restored_submission_finds_its_profile openDeployment _ _ before
      exchange 1 call moved definition reached found restoring sent ?_
        continued afterwards).2
    intro restarts
    simp [restoredProfile, exchangeOnce] at restarts
  · cases begins

/-! ## Registrations -/

/-- What the service has accepted of a registration, it offers. -/
structure Registering (registry : QosProfileRegistry)
    (definition : ProfileDefinition) (call : ProfileCall) : Prop where
  request : call.request = .register definition
  accepted : ∀ response, call.wire = some (.answer response) →
    response.status = 204 → Offered registry definition
  returned : call.phase = .returned → Offered registry definition

theorem registering_post (registry : QosProfileRegistry) (clientId : ℕ)
    (definition : ProfileDefinition) :
    Registering registry definition
      (.post clientId (.register definition)) where
  request := rfl
  accepted _ was := nomatch was
  returned same := nomatch same

theorem Registering.followed (deployment : Deployment)
    (definition : ProfileDefinition) :
    Followed deployment
      (fun registry call => Registering registry definition call)
      (fun _ => True) where
  keeps registering keeps :=
    { request := registering.request
      accepted := fun response was status =>
        (registering.accepted response was status).keeps keeps
      returned := fun same => (registering.returned same).keeps keeps }
  moves := by
    intro registry after known call moved admitted formed registering move
    refine ⟨?_, fun _ _ => trivial⟩
    have kept := move.keeps
    cases move with
    | submissionServed was _ =>
        cases registering.request.symm.trans (formed.submission _ was)
    | registrationServed was served =>
        refine ⟨registering.request, fun response carried accepted => ?_,
          fun returned => (registering.returned returned).keeps kept⟩
        obtain ⟨_, answer, same⟩ := Option.map_eq_some_iff.mp carried
        cases same
        cases formed.registration definition _ registering.request was
        exact (answer_of_registration served answer).2 accepted
    | lost =>
        exact { request := registering.request
                accepted := fun _ carried => nomatch carried
                returned := registering.returned }
    | received was taken =>
        obtain ⟨_, ⟨accepted, rfl, _⟩ | ⟨rfl, _⟩⟩ :=
          registrationReceived registering.request taken
        · exact { request := registering.request
                  accepted := fun _ carried => nomatch carried
                  returned := fun _ =>
                    registering.accepted _ was accepted }
        · exact { request := registering.request
                  accepted := fun _ carried => nomatch carried
                  returned := fun same => nomatch same }
    | gaveUp _ _ =>
        exact { request := registering.request
                accepted := registering.accepted
                returned := fun same => nomatch same }

/-- A registration that was made and accepted since the last restart. -/
theorem offered_of_returned {actions : List Action}
    (coherent : Coherent exchange) (running : .restartService ∉ actions)
    (continued : Transition.run (ProfileExchange.step deployment) exchange
      actions = some next) {callId : ℕ} (recent : exchange.started ≤ callId)
    {call : ProfileCall} (found : next.calls.lookup callId = some call)
    {definition : ProfileDefinition}
    (registers : call.request = .register definition)
    (returned : call.phase = .returned) : Offered next.registry definition := by
  have registering : Registering next.registry definition call := by
    refine (Registering.followed deployment definition).of_posted coherent
      running continued recent found ?_
    intro earlier posted clientId _ _
    rw [registers]
    exact registering_post posted.registry clientId definition
  exact registering.returned returned

/-- What the service has accepted of a restoring submission, it offers. -/
structure Restored (registry : QosProfileRegistry) (call : ProfileCall) :
    Prop where
  /-- A submission waits until its profile is restored. -/
  held : ∀ definition body, call.phase = .restoring definition →
    call.wire ≠ some (.submission body)
  accepted : ∀ definition response, call.phase = .restoring definition →
    call.wire = some (.answer response) → response.status = 204 →
      Offered registry definition
  retrying : ∀ definition, call.phase = .retrying definition →
    Offered registry definition

namespace Restored

variable {registry after : QosProfileRegistry} {call moved : ProfileCall}

theorem of_post (registry : QosProfileRegistry) (clientId : ℕ)
    (request : CallRequest) :
    Restored registry (.post clientId request) where
  held _ _ same := nomatch same
  accepted _ _ same := nomatch same
  retrying _ same := nomatch same

/-- A call that restores nothing. -/
private theorem of_other
    (other : ∀ definition,
      call.phase ≠ .restoring definition ∧ call.phase ≠ .retrying definition) :
    Restored registry call where
  held definition _ same := absurd same (other definition).1
  accepted definition _ same := absurd same (other definition).1
  retrying definition same := absurd same (other definition).2

private theorem keeps (restored : Restored registry call)
    (keeps : Keeps registry after) : Restored after call where
  held := restored.held
  accepted definition response was answered status :=
    (restored.accepted definition response was answered status).keeps keeps
  retrying definition was := (restored.retrying definition was).keeps keeps

/-- The client takes an answer in. -/
private theorem received (restored : Restored registry call)
    {known afterwards : KnownProfiles} {response : HttpResponse}
    (was : call.wire = some (.answer response))
    (taken : call.receive known response = some (moved, afterwards)) :
    Restored registry moved := by
  cases request_eq : call.request with
  | register definition =>
      obtain ⟨_, ⟨_, rfl, _⟩ | ⟨rfl, _⟩⟩ :=
        registrationReceived request_eq taken
      · exact of_other fun _ =>
          ⟨fun same => (nomatch same), fun same => (nomatch same)⟩
      · exact of_other fun _ =>
          ⟨fun same => (nomatch same), fun same => (nomatch same)⟩
  | submit body =>
      cases submissionReceived request_eq taken with
      | restores _ _ =>
          exact { held := fun _ _ _ carried => nomatch carried
                  accepted := fun _ _ _ carried => nomatch carried
                  retrying := fun _ same => nomatch same }
      | @retries definition restoring accepted =>
          refine { held := fun _ _ same => nomatch same
                   accepted := fun _ _ same => nomatch same
                   retrying := fun other same => ?_ }
          cases same
          exact restored.accepted definition response restoring was accepted
      | refused _ _ =>
          exact of_other fun _ =>
            ⟨fun same => (nomatch same), fun same => (nomatch same)⟩
      | concludes _ => exact of_other (submissionPhase_finished response)

theorem followed (deployment : Deployment) :
    Followed deployment (fun registry call => Restored registry call)
      (fun _ => True) where
  keeps restored keeps := restored.keeps keeps
  moves := by
    intro registry after known call moved admitted formed restored move
    refine ⟨?_, fun _ _ => trivial⟩
    have kept := move.keeps
    cases move with
    | submissionServed was served =>
        exact { held := fun _ body _ => answer_ne_submission _ body
                accepted := fun definition _ restoring _ _ =>
                  absurd was (restored.held definition _ restoring)
                retrying := fun definition retries =>
                  (restored.retrying definition retries).keeps kept }
    | @registrationServed other fate reply was served =>
        refine { held := fun _ body _ => answer_ne_submission _ body
                 accepted := fun definition response restoring carried status =>
                   ?_
                 retrying := fun definition retries =>
                   (restored.retrying definition retries).keeps kept }
        obtain ⟨_, answer, same⟩ := Option.map_eq_some_iff.mp carried
        cases same
        cases formed.restoring definition other restoring was
        exact (answer_of_registration served answer).2 status
    | lost =>
        exact { held := fun _ _ _ carried => nomatch carried
                accepted := fun _ _ _ carried => nomatch carried
                retrying := restored.retrying }
    | received was taken => exact restored.received was taken
    | gaveUp _ _ =>
        exact of_other fun _ =>
          ⟨fun same => (nomatch same), fun same => (nomatch same)⟩

end Restored

/-- The service has accepted the definition: from a registration, or from a
submission that has restored its profile and tries again. -/
def HasRegistered (call : ProfileCall)
    (definition : ProfileDefinition) : Prop :=
  (call.request = .register definition ∧ call.phase = .returned) ∨
    call.phase = .retrying definition

/-- In the course of the run, the service has accepted the definition from the
call. -/
def AcceptedIn (deployment : Deployment) (exchange : ProfileExchange)
    (actions : List Action) (callId : ℕ) (definition : ProfileDefinition) :
    Prop :=
  ∃ earlier later between call,
    actions = earlier ++ later ∧
      Transition.run (ProfileExchange.step deployment) exchange earlier =
        some between ∧
      between.calls.lookup callId = some call ∧ HasRegistered call definition

/-- What was accepted since the last restart is offered. -/
private theorem offered_of_acceptedIn {actions : List Action}
    (coherent : Coherent exchange) (running : .restartService ∉ actions)
    (continued : Transition.run (ProfileExchange.step deployment) exchange
      actions = some next) {callId : ℕ} (recent : exchange.started ≤ callId)
    {definition : ProfileDefinition}
    (accepted : AcceptedIn deployment exchange actions callId definition) :
    Offered next.registry definition := by
  obtain ⟨earlier, later, between, call, split, reached, found, registered⟩ :=
    accepted
  rw [split, List.mem_append, not_or] at running
  have now : Offered between.registry definition := by
    rcases registered with ⟨registers, returned⟩ | retries
    · exact offered_of_returned coherent running.1 reached recent found
        registers returned
    · have restored : Restored between.registry call :=
        (Restored.followed deployment).of_posted coherent running.1 reached
          recent found fun _ posted clientId _ _ => .of_post _ clientId _
      exact restored.retrying definition retries
  have rest : Transition.run (ProfileExchange.step deployment) between later =
      some next := by
    rw [split, Transition.run_append, reached] at continued
    exact continued
  exact now.keeps (keeps_of_run running.2 rest)

/-- Until the next restart of the service, all accepted definitions of one
identifier describe one profile, whichever clients have registered or restored
them. -/
theorem accepted_registrations_agree
    (deployment : Deployment) (earlier later : List Action)
    (before exchange : ProfileExchange) (firstId secondId : ℕ)
    (left right : ProfileDefinition)
    (reached : Transition.run (ProfileExchange.step deployment)
      (new deployment) earlier = some before)
    (running : .restartService ∉ later)
    (continued : Transition.run (ProfileExchange.step deployment) before
      later = some exchange)
    (firstRecent : before.started ≤ firstId)
    (secondRecent : before.started ≤ secondId)
    (firstAccepted : AcceptedIn deployment before later firstId left)
    (secondAccepted : AcceptedIn deployment before later secondId right)
    (same : left.profileId = right.profileId) :
    ∃ profile, left.Defines profile ∧ right.Defines profile ∧
      exchange.registry.lookup profile.profileId = some profile := by
  have coherent := Coherent.new.of_run reached
  have offeredLeft := offered_of_acceptedIn coherent running continued
    firstRecent firstAccepted
  have offeredRight := offered_of_acceptedIn coherent running continued
    secondRecent secondAccepted
  exact offeredLeft.agree offeredRight same

/-- The service has forgotten the profile of its only client. -/
def forgottenProfile : List Action :=
  .register 0 speechDefinition :: exchangeOnce 0 ++ [.restartService]

/-- A submission restores the profile, and is tried once more. -/
def restoringSubmission : List Action :=
  .submit 0 speechRequest :: exchangeOnce 1 ++ exchangeOnce 1

/-- Then another client registers it. -/
def sharedProfile : List Action :=
  exchangeOnce 1 ++ .register 1 speechDefinition :: exchangeOnce 2

/-- The identifier that a call has registered. -/
def registeredAs (exchange : ProfileExchange) (callId : ℕ) : Option String :=
  (exchange.calls.lookup callId).bind fun call =>
    match call.request, call.phase with
    | .register definition, .returned => some definition.profileId
    | _, .retrying definition => some definition.profileId
    | _, _ => none

private theorem exists_registered {exchange : ProfileExchange} {callId : ℕ}
    {profileId : String}
    (registered : exchange.registeredAs callId = some profileId) :
    ∃ call definition, exchange.calls.lookup callId = some call ∧
      HasRegistered call definition ∧ definition.profileId = profileId := by
  obtain ⟨call, found, last⟩ := Option.bind_eq_some_iff.mp registered
  split at last
  · rename_i definition registers finished
    exact ⟨call, definition, found, Or.inl ⟨registers, finished⟩,
      Option.some.inj last⟩
  · rename_i definition retries
    exact ⟨call, definition, found, Or.inr retries, Option.some.inj last⟩
  · cases last

/-- The submission and the other client have registered the profile that the
service offers. -/
theorem shared_registrations_agree :
    ∃ before exchange left right profile,
      Transition.run (ProfileExchange.step openDeployment)
          (new openDeployment) forgottenProfile = some before ∧
      Transition.run (ProfileExchange.step openDeployment) before
          (restoringSubmission ++ sharedProfile) = some exchange ∧
      AcceptedIn openDeployment before (restoringSubmission ++ sharedProfile)
        1 left ∧
      AcceptedIn openDeployment before (restoringSubmission ++ sharedProfile)
        2 right ∧
      left.profileId = "speech-v1" ∧ right.profileId = "speech-v1" ∧
      left.Defines profile ∧ right.Defines profile ∧
      exchange.registry.lookup profile.profileId = some profile := by
  have computed :
      ((Transition.run (ProfileExchange.step openDeployment)
          (new openDeployment) forgottenProfile).bind fun before =>
        (Transition.run (ProfileExchange.step openDeployment) before
          restoringSubmission).bind fun between =>
            (Transition.run (ProfileExchange.step openDeployment) between
              sharedProfile).map fun exchange =>
                (before.started, between.registeredAs 1,
                  exchange.registeredAs 2)) =
      some (1, some "speech-v1", some "speech-v1") := by
    decide +kernel
  obtain ⟨before, reached, rest⟩ := Option.bind_eq_some_iff.mp computed
  obtain ⟨between, restoring, rest⟩ := Option.bind_eq_some_iff.mp rest
  obtain ⟨exchange, shared, outcome⟩ := Option.map_eq_some_iff.mp rest
  simp only [Prod.mk.injEq] at outcome
  obtain ⟨started, restored, registered⟩ := outcome
  have continued : Transition.run (ProfileExchange.step openDeployment) before
      (restoringSubmission ++ sharedProfile) = some exchange := by
    rw [Transition.run_append, restoring]
    exact shared
  obtain ⟨first, left, firstFound, firstRegistered, leftId⟩ :=
    exists_registered restored
  obtain ⟨second, right, secondFound, secondRegistered, rightId⟩ :=
    exists_registered registered
  have firstAccepted : AcceptedIn openDeployment before
      (restoringSubmission ++ sharedProfile) 1 left :=
    ⟨restoringSubmission, sharedProfile, between, first, rfl, restoring,
      firstFound, firstRegistered⟩
  have secondAccepted : AcceptedIn openDeployment before
      (restoringSubmission ++ sharedProfile) 2 right :=
    ⟨restoringSubmission ++ sharedProfile, [], exchange, second,
      (List.append_nil _).symm, continued, secondFound, secondRegistered⟩
  obtain ⟨profile, agreed⟩ :=
    accepted_registrations_agree openDeployment forgottenProfile
      (restoringSubmission ++ sharedProfile) before exchange 1 2 left right
      reached
      (by
        intro restarts
        simp [restoringSubmission, sharedProfile, exchangeOnce] at restarts)
      continued (by omega) (by omega) firstAccepted secondAccepted
      (leftId.trans rightId.symm)
  exact ⟨before, exchange, left, right, profile, reached, continued,
    firstAccepted, secondAccepted, leftId, rightId, agreed⟩

end ProfileExchange

end Carbonshift
