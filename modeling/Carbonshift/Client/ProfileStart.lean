import Carbonshift.Client.ProfileGuarantees

/-!
# Profiles of a client that has started

A client registers its profiles one after another before it serves requests,
and tries again where the service was not ready.  Once it is done, it finds all
of them until the service restarts.
-/

namespace Carbonshift

namespace ProfileExchange

variable {deployment : Deployment} {exchange next : ProfileExchange}

/-! ## The start of a client -/

/-- How the start of a client goes on in a step. -/
inductive BootstrapMove (deployment : Deployment) (exchange : ProfileExchange)
    (clientId : ℕ) (next : ProfileExchange) (bootstrap : Bootstrap) :
    Bootstrap → Prop where
  | sends {definition : ProfileDefinition} {rest : List ProfileDefinition}
      (remaining : bootstrap.remaining = definition :: rest)
      (found : next.calls.lookup exchange.started =
        some (.post clientId (.register definition))) :
      BootstrapMove deployment exchange clientId next bootstrap
        { bootstrap with current := some exchange.started }
  | proceeds {definition : ProfileDefinition}
      {rest : List ProfileDefinition} {callId : ℕ} {call : ProfileCall}
      {after : Bootstrap}
      (unfailed : bootstrap.failure = none)
      (remaining : bootstrap.remaining = definition :: rest)
      (current : bootstrap.current = some callId)
      (found : exchange.calls.lookup callId = some call)
      (proceeded : bootstrap.proceed (deployment.client clientId) definition
        rest call.phase = some after) :
      BootstrapMove deployment exchange clientId next bootstrap after

/-- A start that nobody begins anew stays as it is or goes on. -/
theorem bootstrap_of_step {action : Action} {clientId : ℕ}
    (taken : exchange.step deployment action = some next)
    (unbegun : ∀ profiles, action ≠ .startBootstrap clientId profiles)
    {after : Bootstrap}
    (there : next.bootstraps.lookup clientId = some after) :
    exchange.bootstraps.lookup clientId = some after ∨
      ∃ bootstrap, exchange.bootstraps.lookup clientId = some bootstrap ∧
        BootstrapMove deployment exchange clientId next bootstrap after := by
  cases action with
  | submit _ _ | register _ _ | restartService =>
      cases taken
      exact Or.inl there
  | serve callId fate =>
      obtain ⟨call, found, rest⟩ := Option.bind_eq_some_iff.mp taken
      obtain ⟨wire, was, served⟩ := Option.bind_eq_some_iff.mp rest
      obtain ⟨reply, answered, rfl⟩ := Option.map_eq_some_iff.mp served
      exact Or.inl there
  | lose callId =>
      obtain ⟨call, found, rfl⟩ := Option.map_eq_some_iff.mp taken
      exact Or.inl there
  | receive callId =>
      obtain ⟨call, found, rest⟩ := Option.bind_eq_some_iff.mp taken
      split at rest
      · obtain ⟨received, _, rfl⟩ := Option.map_eq_some_iff.mp rest
        exact Or.inl there
      · cases rest
  | giveUp callId reason =>
      obtain ⟨call, found, rest⟩ := Option.bind_eq_some_iff.mp taken
      split at rest
      · cases rest
      · cases rest
      · cases rest
        exact Or.inl there
  | startBootstrap other profiles =>
      cases taken
      have different : clientId ≠ other := fun same =>
        unbegun profiles (by rw [same])
      rw [AList.lookup_insert_ne different] at there
      exact Or.inl there
  | restartClient other =>
      cases taken
      by_cases own : clientId = other
      · rw [own, AList.lookup_erase] at there
        cases there
      · rw [AList.lookup_erase_ne own] at there
        exact Or.inl there
  | bootstrap other =>
      obtain ⟨bootstrap, began, rest⟩ := Option.bind_eq_some_iff.mp taken
      unfold bootstrapStep at rest
      split at rest
      · rename_i definition tail unfailed remaining unsent
        cases rest
        by_cases own : clientId = other
        · subst own
          rw [AList.lookup_insert] at there
          cases there
          exact Or.inr ⟨bootstrap, began,
            .sends remaining (AList.lookup_insert _)⟩
        · rw [AList.lookup_insert_ne own] at there
          exact Or.inl there
      · rename_i definition tail callId unfailed remaining current
        obtain ⟨call, found, proceeds⟩ := Option.bind_eq_some_iff.mp rest
        obtain ⟨moved, proceeded, rfl⟩ := Option.map_eq_some_iff.mp proceeds
        by_cases own : clientId = other
        · subst own
          rw [AList.lookup_insert] at there
          cases there
          exact Or.inr ⟨bootstrap, began,
            .proceeds unfailed remaining current found proceeded⟩
        · rw [AList.lookup_insert_ne own] at there
          exact Or.inl there
      · cases rest

/-- The start goes through the definitions in their order. -/
def Covers (profiles : List ProfileDefinition) (bootstrap : Bootstrap) : Prop :=
  profiles.map (·.profileId) =
    bootstrap.registeredIds ++ bootstrap.remaining.map (·.profileId)

/-- One is registered after the other. -/
theorem Covers.move {clientId : ℕ} {profiles : List ProfileDefinition}
    {bootstrap after : Bootstrap} (covers : Covers profiles bootstrap)
    (move : BootstrapMove deployment exchange clientId next bootstrap after) :
    Covers profiles after := by
  cases move with
  | sends _ _ => exact covers
  | @proceeds definition rest _ call _ _ remaining _ _ proceeded =>
      cases phase_eq : call.phase with
      | waiting | restoring _ | retrying _ =>
          rw [phase_eq] at proceeded
          cases proceeded
      | returned =>
          rw [phase_eq] at proceeded
          cases proceeded
          rw [Covers, covers, remaining, List.map_cons, List.append_assoc,
            List.singleton_append]
      | failed error =>
          rw [phase_eq, Bootstrap.proceed] at proceeded
          split at proceeded
          · cases proceeded
            exact covers
          · cases proceeded
            exact covers

theorem covers_of_run {actions : List Action} {clientId : ℕ}
    {profiles : List ProfileDefinition}
    (once : ∀ other, .startBootstrap clientId other ∉ actions)
    (continued : Transition.run (ProfileExchange.step deployment) exchange
      actions = some next)
    (initially : ∀ bootstrap,
      exchange.bootstraps.lookup clientId = some bootstrap →
        Covers profiles bootstrap)
    {bootstrap : Bootstrap}
    (there : next.bootstraps.lookup clientId = some bootstrap) :
    Covers profiles bootstrap := by
  refine Transition.run_induction_of_forall
    (fun action => ∀ other, action ≠ .startBootstrap clientId other)
    (fun _ state => ∀ bootstrap,
      state.bootstraps.lookup clientId = some bootstrap →
        Covers profiles bootstrap)
    initially ?_
    (fun action member other => ne_of_mem_of_not_mem member (once other))
    continued bootstrap there
  intro history state action after _ _ every unbegun taken moved found
  rcases bootstrap_of_step taken unbegun found with same | ⟨before, was, move⟩
  · exact every moved same
  · exact (every before was).move move

/-- What the start of a client has registered so far. -/
structure Started (exchange : ProfileExchange) (since : ℕ)
    (profiles : List ProfileDefinition) (bootstrap : Bootstrap) : Prop where
  registered : ∃ registered,
    profiles = registered ++ bootstrap.remaining ∧
      ∀ definition ∈ registered, Offered exchange.registry definition
  current : ∀ callId, bootstrap.failure = none →
    bootstrap.current = some callId →
      since ≤ callId ∧
        ∃ definition rest call,
          bootstrap.remaining = definition :: rest ∧
            exchange.calls.lookup callId = some call ∧
              call.request = .register definition

theorem started_start (exchange : ProfileExchange) (since : ℕ)
    (settings : ClientSettings) (profiles : List ProfileDefinition) :
    Started exchange since profiles (.start settings profiles) where
  registered := ⟨[], rfl, fun _ member => nomatch member⟩
  current _ _ same := nomatch same

/-- A call keeps its request. -/
theorem exists_lookup_of_step {action : Action} (coherent : Coherent exchange)
    (taken : exchange.step deployment action = some next) {callId : ℕ}
    {call : ProfileCall} (found : exchange.calls.lookup callId = some call) :
    ∃ moved, next.calls.lookup callId = some moved ∧
      moved.request = call.request := by
  cases step_effect taken with
  | posted calls_eq _ _ _ =>
      refine ⟨call, ?_, rfl⟩
      rw [calls_eq, AList.lookup_insert_ne
        (coherent.numbered callId call found).ne, found]
  | @moved mover before moved _ there move calls_eq _ _ =>
      by_cases own : callId = mover
      · subst own
        cases found.symm.trans there
        exact ⟨moved, by rw [calls_eq, AList.lookup_insert], move.request_eq⟩
      · exact ⟨call, by rw [calls_eq, AList.lookup_insert_ne own, found], rfl⟩
  | quiet calls_eq _ _ _ => exact ⟨call, by rw [calls_eq, found], rfl⟩

namespace Started

variable {since : ℕ} {profiles : List ProfileDefinition}
  {bootstrap after : Bootstrap}

/-- Nothing is lost while the service runs. -/
theorem keeps (started : Started exchange since profiles bootstrap)
    (coherent : Coherent exchange) {action : Action}
    (taken : exchange.step deployment action = some next)
    (running : action ≠ .restartService) :
    Started next since profiles bootstrap := by
  obtain ⟨registered, split, offered⟩ := started.registered
  refine ⟨⟨registered, split, fun definition member =>
    (offered definition member).keeps (keeps_of_step taken running)⟩, ?_⟩
  intro callId unfailed current
  obtain ⟨recent, definition, rest, call, remaining, found, registers⟩ :=
    started.current callId unfailed current
  obtain ⟨moved, there, request_eq⟩ :=
    exists_lookup_of_step coherent taken found
  exact ⟨recent, definition, rest, moved, remaining, there,
    request_eq.trans registers⟩

/-- After an accepted registration the next definition is up; a failed one is
up again or ends the start. -/
theorem proceed (started : Started exchange since profiles bootstrap)
    {settings : ClientSettings} {definition : ProfileDefinition}
    {rest : List ProfileDefinition} {callId : ℕ} {call : ProfileCall}
    (unfailed : bootstrap.failure = none)
    (remaining : bootstrap.remaining = definition :: rest)
    (current : bootstrap.current = some callId)
    (found : exchange.calls.lookup callId = some call)
    (accepted : since ≤ callId → call.request = .register definition →
      call.phase = .returned → Offered exchange.registry definition)
    (proceeded : bootstrap.proceed settings definition rest call.phase =
      some after) : Started exchange since profiles after := by
  obtain ⟨recent, own, tail, other, remaining_eq, there, registers⟩ :=
    started.current callId unfailed current
  cases remaining.symm.trans remaining_eq
  cases found.symm.trans there
  obtain ⟨registered, split, offered⟩ := started.registered
  cases phase_eq : call.phase with
  | waiting | restoring _ | retrying _ =>
      rw [phase_eq] at proceeded
      cases proceeded
  | returned =>
      have now := accepted recent registers phase_eq
      rw [phase_eq] at proceeded
      cases proceeded
      refine ⟨⟨registered ++ [definition], ?_, ?_⟩,
        fun _ _ same => nomatch same⟩
      · rw [split, remaining, List.append_assoc, List.singleton_append]
      · intro every member
        rcases List.mem_append.mp member with earlier | last
        · exact offered every earlier
        · cases List.mem_singleton.mp last
          exact now
  | failed error =>
      rw [phase_eq, Bootstrap.proceed] at proceeded
      split at proceeded
      · cases proceeded
        exact ⟨⟨registered, split, offered⟩, fun _ same => nomatch same⟩
      · cases proceeded
        exact ⟨⟨registered, split, offered⟩, fun _ _ same => nomatch same⟩

end Started

/-- What a client has registered since its start, in a run without a restart of
the service. -/
theorem started_of_run {actions : List Action} {clientId : ℕ}
    {profiles : List ProfileDefinition} (coherent : Coherent exchange)
    (running : .restartService ∉ actions)
    (once : ∀ other, .startBootstrap clientId other ∉ actions)
    (continued : Transition.run (ProfileExchange.step deployment) exchange
      actions = some next)
    (initially : ∀ bootstrap,
      exchange.bootstraps.lookup clientId = some bootstrap →
        Started exchange exchange.started profiles bootstrap)
    {bootstrap : Bootstrap}
    (there : next.bootstraps.lookup clientId = some bootstrap) :
    Started next exchange.started profiles bootstrap := by
  refine (Transition.run_induction_of_forall
    (fun action => action ≠ .restartService ∧
      ∀ other, action ≠ .startBootstrap clientId other)
    (fun _ state => Coherent state ∧ exchange.started ≤ state.started ∧
      ∀ bootstrap, state.bootstraps.lookup clientId = some bootstrap →
        Started state exchange.started profiles bootstrap)
    ⟨coherent, le_rfl, initially⟩ ?_
    (fun action member => ⟨ne_of_mem_of_not_mem member running,
      fun other => ne_of_mem_of_not_mem member (once other)⟩) continued).2.2
    bootstrap there
  rintro history state action after before past ⟨formed, later, every⟩
    ⟨allowed, unbegun⟩ taken
  have stillLater : exchange.started ≤ after.started := by
    cases step_effect taken with
    | posted _ started_eq _ _ => omega
    | moved _ _ _ started_eq _ => omega
    | quiet _ started_eq _ _ => omega
  refine ⟨formed.step taken, stillLater, fun moved found => ?_⟩
  have allowedPast : Action.restartService ∉ history := fun member =>
    (past _ member).1 rfl
  rcases bootstrap_of_step taken unbegun found with same | ⟨bootstrap, was, move⟩
  · exact (every moved same).keeps formed taken allowed
  · have started := every bootstrap was
    cases move with
    | @sends definition rest remaining sent =>
        refine ⟨(started.keeps formed taken allowed).registered,
          fun callId _ current => ?_⟩
        cases current
        exact ⟨later, definition, rest, _, remaining, sent, rfl⟩
    | @proceeds definition rest callId call _ unfailed remaining current
        lookup_eq proceeded =>
        refine (started.proceed unfailed remaining current lookup_eq ?_
          proceeded).keeps formed taken allowed
        exact fun recent registers returned =>
          offered_of_returned coherent allowedPast before recent lookup_eq
            registers returned

/-- While the service runs, what names an offered profile is admitted under
it. -/
theorem admitted_of_run {actions : List Action}
    (running : .restartService ∉ actions)
    (continued : Transition.run (ProfileExchange.step deployment) exchange
      actions = some next) :
    ∃ recent, next.admitted = exchange.admitted ++ recent ∧
      ∀ definition, Offered exchange.registry definition →
        ∀ admission ∈ recent, admission.named = some definition.profileId →
          definition.Defines admission.profile := by
  refine Transition.run_induction_of_forall
    (fun action => action ≠ .restartService)
    (fun _ state => ∃ recent, state.admitted = exchange.admitted ++ recent ∧
      ∀ definition, Offered exchange.registry definition →
        ∀ admission ∈ recent, admission.named = some definition.profileId →
          definition.Defines admission.profile)
    ⟨[], (List.append_nil _).symm, fun _ _ _ member => nomatch member⟩ ?_
    (fun action member => ne_of_mem_of_not_mem member running) continued
  rintro history state action after before past ⟨recent, admitted_eq, defined⟩
    allowed taken
  cases step_effect taken with
  | posted _ _ _ same => exact ⟨recent, same.trans admitted_eq, defined⟩
  | @moved callId call moved admitted _ move _ _ appended =>
      refine ⟨_, by rw [appended, admitted_eq, List.append_assoc], ?_⟩
      intro definition offered admission member names
      rcases List.mem_append.mp member with already | now
      · exact defined definition offered admission already names
      · rw [Option.mem_toList, Option.map_eq_some_iff] at now
        obtain ⟨granted, admits, rfl⟩ := now
        obtain ⟨body, _, named_eq, defines⟩ := move.admits admits
        have still := offered.keeps
          (keeps_of_run (fun member => past _ member rfl) before)
        exact defines definition (named_eq.symm.trans names) still
  | quiet _ _ _ same => exact ⟨recent, same.trans admitted_eq, defined⟩

/-- A submission that was posted while its profile was offered is secured. -/
theorem secured_of_run {actions : List Action}
    {definition : ProfileDefinition} (coherent : Coherent exchange)
    (offered : Offered exchange.registry definition)
    (running : .restartService ∉ actions)
    (continued : Transition.run (ProfileExchange.step deployment) exchange
      actions = some next) {callId : ℕ} (recent : exchange.started ≤ callId)
    {call : ProfileCall} (found : next.calls.lookup callId = some call)
    {body : SubmitRequestPayload} (submits : call.request = .submit body)
    (names : body.qosProfileId = some definition.profileId) :
    Secured next.registry definition call := by
  refine (Secured.followed deployment definition).of_posted coherent running
    continued recent found ?_
  intro earlier posted clientId earlierRunning reached
  rw [submits]
  exact .of_post names (offered.keeps (keeps_of_run earlierRunning reached))
    clientId

/-- A client that has finished its start has registered all of its profiles,
and it finds them until the service restarts: what names one of them is
admitted under the definition of the client, and no later submission that names
it is refused as unknown. -/
theorem started_client_finds_its_profiles
    (deployment : Deployment) (earlier later afterwards : List Action)
    (before exchange final : ProfileExchange) (clientId : ℕ)
    (profiles : List ProfileDefinition) (bootstrap : Bootstrap)
    (reached : Transition.run (ProfileExchange.step deployment)
      (new deployment) earlier = some before)
    (continued : Transition.run (ProfileExchange.step deployment) before
      (.startBootstrap clientId profiles :: later) = some exchange)
    (once : ∀ other, .startBootstrap clientId other ∉ later)
    (there : exchange.bootstraps.lookup clientId = some bootstrap)
    (finished : bootstrap.Finished)
    (used : Transition.run (ProfileExchange.step deployment) exchange
      afterwards = some final) :
    bootstrap.registeredIds = profiles.map (·.profileId) ∧
      (.restartService ∉ later ++ afterwards →
        ∃ recent, final.admitted = exchange.admitted ++ recent ∧
          ∀ definition ∈ profiles,
            (∀ admission ∈ recent,
              admission.named = some definition.profileId →
                definition.Defines admission.profile) ∧
            ∀ callId call body error, exchange.started ≤ callId →
              final.calls.lookup callId = some call →
                call.request = .submit body →
                  body.qosProfileId = some definition.profileId →
                    call.phase = .failed error →
                      error.statusCode ≠ some 404) := by
  obtain ⟨began, taken, rest⟩ := Option.bind_eq_some_iff.mp continued
  have covers : Covers profiles bootstrap := by
    refine covers_of_run once rest (fun first found => ?_) there
    cases taken
    rw [AList.lookup_insert] at found
    cases found
    rfl
  refine ⟨?_, fun running => ?_⟩
  · rw [covers, finished.2, List.map_nil, List.append_nil]
  rw [List.mem_append, not_or] at running
  have coherentBegan := (Coherent.new.of_run reached).step taken
  have coherent := coherentBegan.of_run rest
  have started : Started exchange began.started profiles bootstrap := by
    refine started_of_run coherentBegan running.1 once rest ?_ there
    intro first found
    cases taken
    rw [AList.lookup_insert] at found
    cases found
    exact started_start _ _ _ _
  obtain ⟨registered, split, offered⟩ := started.registered
  rw [finished.2, List.append_nil] at split
  subst split
  obtain ⟨recent, admitted_eq, defined⟩ := admitted_of_run running.2 used
  refine ⟨recent, admitted_eq, fun definition member => ⟨?_, ?_⟩⟩
  · exact defined definition (offered definition member)
  · intro callId call body error later found submits names failed
    exact (secured_of_run coherent (offered definition member) running.2 used
      later found submits names).failed error failed

/-- The only profile of a client is registered. -/
def speechStart : List Action :=
  .bootstrap 0 :: exchangeOnce 0 ++ [.bootstrap 0]

/-- Another client names the profile. -/
def speechUse : List Action := .submit 1 speechRequest :: exchangeOnce 1

/-- The start of a client is finished. -/
def hasStarted (exchange : ProfileExchange) (clientId : ℕ) : Bool :=
  (exchange.bootstraps.lookup clientId).any fun bootstrap =>
    bootstrap.failure.isNone && bootstrap.remaining.isEmpty

/-- The profile of the started client is found by the other one. -/
theorem started_client_finds_speech :
    ∃ exchange final bootstrap recent,
      Transition.run (ProfileExchange.step openDeployment)
          (new openDeployment)
          (.startBootstrap 0 [speechDefinition] :: speechStart) =
        some exchange ∧
      Transition.run (ProfileExchange.step openDeployment) exchange speechUse =
        some final ∧
      exchange.bootstraps.lookup 0 = some bootstrap ∧
      bootstrap.registeredIds = ["speech-v1"] ∧
      final.admitted = exchange.admitted ++ recent ∧
      final.admissions 1 = 1 ∧
      ∀ admission ∈ recent, admission.named = some "speech-v1" →
        speechDefinition.Defines admission.profile := by
  have computed :
      ((Transition.run (ProfileExchange.step openDeployment)
          (new openDeployment)
          (.startBootstrap 0 [speechDefinition] :: speechStart)).bind
        fun exchange =>
          (Transition.run (ProfileExchange.step openDeployment) exchange
            speechUse).map fun final =>
              exchange.hasStarted 0 && decide (final.admissions 1 = 1)) =
        some true := by
    decide +kernel
  obtain ⟨exchange, continued, rest⟩ := Option.bind_eq_some_iff.mp computed
  obtain ⟨final, used, holds⟩ := Option.map_eq_some_iff.mp rest
  rw [Bool.and_eq_true, decide_eq_true_eq] at holds
  have started := holds.1
  rw [hasStarted, Option.any_eq_true] at started
  obtain ⟨bootstrap, there, finished⟩ := started
  rw [Bool.and_eq_true, Option.isNone_iff_eq_none, List.isEmpty_iff]
    at finished
  obtain ⟨ids, finds⟩ :=
    started_client_finds_its_profiles openDeployment [] speechStart speechUse
      (new openDeployment) exchange final 0 [speechDefinition] bootstrap rfl
      continued
      (by intro other again; simp [speechStart, exchangeOnce] at again)
      there finished used
  obtain ⟨recent, admitted_eq, found⟩ := finds (by
    intro restarts
    simp [speechStart, speechUse, exchangeOnce] at restarts)
  exact ⟨exchange, final, bootstrap, recent, continued, used, there, ids,
    admitted_eq, holds.2,
    (found speechDefinition (List.mem_singleton_self _)).1⟩

end ProfileExchange

end Carbonshift
