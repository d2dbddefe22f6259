import Carbonshift.Service.CallbackGuard
import Carbonshift.Service.RecordHistory

/-!
# The messages of the dispatcher

The exchange only grows.  While an answer is awaited, its message is the last
event, and every message carries the payload that its request was recorded
with.  A completed record shows what its callback has measured.
-/

namespace Carbonshift

/-- Where the executor is to post the result of a request. -/
def callbackAddress (settings : ServiceSettings) (requestId : ℕ) : String :=
  settings.service.selfBaseUrl ++ "/v1/callback/" ++ toString requestId

theorem toString_nat_injective {first second : ℕ}
    (same : toString first = toString second) : first = second := by
  have digits : Nat.toDigits 10 first = Nat.toDigits 10 second := by
    rw [← Nat.toList_repr, ← Nat.toList_repr]
    exact congrArg String.toList same
  have read := congrArg (fun characters =>
    Nat.ofDigitChars 10 characters 0) digits
  simpa using read

/-- No two requests share the address of their callback. -/
theorem callbackAddress_injective {settings : ServiceSettings}
    {first second : ℕ}
    (same : callbackAddress settings first =
      callbackAddress settings second) : first = second :=
  toString_nat_injective ((String.append_right_inj _).mp same)

namespace Service

variable {σ : Type} {settings : ServiceSettings}
variable {numerics : NumericRuntime σ} {runtime : ServiceRuntime}
variable {service next : Service σ} {action : Action}
variable {known : List Request}

/-! ## The exchange -/

theorem StepEffect.exchange_grows
    (effect : StepEffect settings numerics runtime service action next) :
    service.exchange <+: next.exchange := by
  cases effect with
  | background _ _ => exact List.prefix_refl _
  | started _ => exact List.prefix_refl _
  | handled _ _ => exact List.prefix_refl _
  | dispatched => exact List.prefix_append _ _

/-- A new acceptance is the answer that was awaited. -/
theorem StepEffect.accepted
    (effect : StepEffect settings numerics runtime service action next)
    {requestId : ℕ} (accepted : .accepted requestId ∈ next.exchange) :
    .accepted requestId ∈ service.exchange ∨
      ∃ choice, action = .dispatch choice ∧ choice.outcome = .accepted ∧
        service.awaited = some requestId := by
  cases effect with
  | background _ _ => exact Or.inl accepted
  | started _ => exact Or.inl accepted
  | handled _ _ => exact Or.inl accepted
  | @dispatched choice =>
      refine (List.mem_append.mp accepted).imp_right fun event => ?_
      refine ⟨choice, rfl, ?_⟩
      have effect := AppState.dispatcherStep_effect settings runtime choice
        service.app service.dispatcher
      generalize service.app.dispatcherStep settings runtime choice
        service.dispatcher = reached at effect event
      obtain ⟨phase, app, events⟩ := reached
      rw [awaited]
      generalize service.dispatcher = before at effect ⊢
      cases effect with
      | quiet _ => cases event
      | listed _ => cases event
      | released _ _ _ _ unaccepted => exact absurd event (unaccepted _)
      | sent => cases List.mem_singleton.mp event
      | accepted outcome =>
          cases List.mem_singleton.mp event
          exact ⟨outcome, rfl⟩

/-- The step in which the awaited answer is a good one. -/
theorem accepted_of_step {choice : DispatcherChoice} {requestId : ℕ}
    (taken : Service.step settings numerics runtime service
      (.dispatch choice) = some next)
    (outcome : choice.outcome = .accepted)
    (awaits : service.awaited = some requestId) :
    .accepted requestId ∈ next.exchange := by
  cases taken
  dsimp only
  refine List.mem_append_right _ ?_
  unfold awaited at awaits
  split at awaits
  · rename_i message rest waiting
    cases awaits
    rw [waiting]
    simp only [AppState.dispatcherStep, outcome]
    exact List.mem_singleton_self _
  · cases awaits

/-- The message whose answer is awaited was sent last. -/
def AwaitsLast (service : Service σ) : Prop :=
  ∀ message rest, service.dispatcher = .awaiting message rest →
    ∃ earlier, service.exchange = earlier ++ [.sent message]

theorem AwaitsLast.step
    (last : AwaitsLast service)
    (effect : StepEffect settings numerics runtime service action next) :
    AwaitsLast next := by
  cases effect with
  | background _ _ => exact last
  | started _ => exact last
  | handled _ _ => exact last
  | @dispatched choice =>
      intro message rest waiting
      dsimp only at waiting ⊢
      generalize service.dispatcher = phase at waiting ⊢
      cases phase with
      | idle => cases waiting
      | ticked currentSlot => cases waiting
      | observed currentSlot now assignments => cases waiting
      | sending due => cases due <;> cases waiting
      | loaded requestId assignment payload others =>
          simp only [AppState.dispatcherStep] at waiting
          split at waiting <;> cases waiting
      | refused requestId error others => cases waiting
      | addressed sent others =>
          simp only [AppState.dispatcherStep] at waiting ⊢
          split at waiting
          · cases waiting
          · rename_i somewhere
            cases waiting
            rw [if_neg somewhere]
            exact ⟨service.exchange, rfl⟩
      | awaiting sent others =>
          simp only [AppState.dispatcherStep] at waiting
          split at waiting <;> cases waiting

/-! ## Dispatched records -/

/-- The message of a dispatched record has been accepted. -/
def DispatchesAccepted (service : Service σ) : Prop :=
  ∀ requestId tracked, service.app.tracked.lookup requestId = some tracked →
    tracked.status = .dispatched → .accepted requestId ∈ service.exchange

/-- With an executor, a record is dispatched when its message is accepted. -/
theorem DispatchesAccepted.step
    (accepted : DispatchesAccepted service)
    (somewhere : settings.service.executorUrl ≠ none)
    (taken : Service.step settings numerics runtime service action =
      some next) :
    DispatchesAccepted next := by
  intro requestId tracked found dispatched
  have effect := step_effect taken
  rcases (effect.recordHistory found).status_dispatched dispatched with
    ⟨before, recorded, earlier⟩ | nowhere | ⟨choice, rfl, outcome, awaits⟩
  · exact effect.exchange_grows.subset
      (accepted requestId before recorded earlier)
  · exact absurd nowhere somewhere
  · exact accepted_of_step taken outcome awaits

theorem dispatchesAccepted_of_run
    {carbonForecast : List ℚ} {startedAt : ℤ} {actions : List Action}
    (somewhere : settings.service.executorUrl ≠ none)
    (reached : Transition.run (Service.step settings numerics runtime)
      (Service.new settings carbonForecast startedAt) actions =
        some service) :
    DispatchesAccepted service := by
  refine Transition.run_induction (fun _ state => DispatchesAccepted state)
    ?_ (fun _ _ _ _ accepted taken => accepted.step somewhere taken) reached
  intro requestId tracked found
  exact absurd (found.symm.trans (AList.lookup_empty _))
    (Option.some_ne_none _)

/-! ## Payloads -/

/-- The request has been recorded with the payload. -/
def RecordedWith (service : Service σ) (requestId : ℕ) (payload : Json) :
    Prop :=
  ∃ tracked, service.app.tracked.lookup requestId = some tracked ∧
    tracked.payload = payload

/-- The message carries what its request was recorded with, and the address of
its callback. -/
structure SpeaksFor (settings : ServiceSettings) (service : Service σ)
    (message : ExecutorDispatchPayload) : Prop where
  recorded : RecordedWith service message.requestId message.payload
  callbackUrl_eq : message.callbackUrl =
    callbackAddress settings message.requestId

/-- What the dispatcher has in hand agrees with the records. -/
def DispatcherPhase.AgreesWith (settings : ServiceSettings)
    (service : Service σ) : DispatcherPhase → Prop
  | .sending due =>
      ∀ entry ∈ due, entry.1 ∈ service.app.tracked
  | .loaded requestId _ payload rest =>
      RecordedWith service requestId payload ∧
        ∀ entry ∈ rest, entry.1 ∈ service.app.tracked
  | .refused _ _ rest =>
      ∀ entry ∈ rest, entry.1 ∈ service.app.tracked
  | .addressed message rest =>
      SpeaksFor settings service message ∧
        ∀ entry ∈ rest, entry.1 ∈ service.app.tracked
  | .awaiting message rest =>
      SpeaksFor settings service message ∧
        ∀ entry ∈ rest, entry.1 ∈ service.app.tracked
  | _ => True

/-- Every message speaks for its request. -/
structure SendsRecorded (settings : ServiceSettings) (service : Service σ) :
    Prop where
  inHand : DispatcherPhase.AgreesWith settings service service.dispatcher
  sent : ∀ {message}, .sent message ∈ service.exchange →
    SpeaksFor settings service message

theorem RecordedWith.step
    {requestId : ℕ} {payload : Json}
    (recorded : RecordedWith service requestId payload)
    (registered : Registered known service)
    (effect : StepEffect settings numerics runtime service action next) :
    RecordedWith next requestId payload := by
  obtain ⟨tracked, found, rfl⟩ := recorded
  obtain ⟨after, followed, _⟩ :=
    registered.lookup effect.recordsMove found
  exact ⟨after, followed,
    (effect.recordHistory followed).payload_eq registered found⟩

theorem SpeaksFor.step
    {message : ExecutorDispatchPayload}
    (speaks : SpeaksFor settings service message)
    (registered : Registered known service)
    (effect : StepEffect settings numerics runtime service action next) :
    SpeaksFor settings next message :=
  ⟨speaks.recorded.step registered effect, speaks.callbackUrl_eq⟩

theorem DispatcherPhase.AgreesWith.step {phase : DispatcherPhase}
    (agrees : DispatcherPhase.AgreesWith settings service phase)
    (registered : Registered known service)
    (effect : StepEffect settings numerics runtime service action next) :
    DispatcherPhase.AgreesWith settings next phase := by
  have stays : ∀ {requestId : ℕ}, requestId ∈ service.app.tracked →
      requestId ∈ next.app.tracked := by
    intro requestId member
    obtain ⟨tracked, found⟩ := Dictionary.exists_lookup_of_mem member
    obtain ⟨after, followed, _⟩ :=
      registered.lookup effect.recordsMove found
    exact Dictionary.mem_of_lookup followed
  cases phase with
  | idle => trivial
  | ticked currentSlot => trivial
  | observed currentSlot now assignments => trivial
  | sending due => exact fun entry member => stays (agrees entry member)
  | loaded requestId assignment payload rest =>
      exact ⟨agrees.1.step registered effect,
        fun entry member => stays (agrees.2 entry member)⟩
  | refused requestId error rest =>
      exact fun entry member => stays (agrees entry member)
  | addressed message rest =>
      exact ⟨agrees.1.step registered effect,
        fun entry member => stays (agrees.2 entry member)⟩
  | awaiting message rest =>
      exact ⟨agrees.1.step registered effect,
        fun entry member => stays (agrees.2 entry member)⟩

/-- What the dispatcher takes in hand next agrees with the records before. -/
private theorem agreesWith_dispatched {choice : DispatcherChoice}
    {phase : DispatcherPhase}
    (agrees : DispatcherPhase.AgreesWith settings service phase) :
    DispatcherPhase.AgreesWith settings service
      (service.app.dispatcherStep settings runtime choice phase).1 := by
  cases phase with
  | idle => trivial
  | ticked currentSlot => trivial
  | observed currentSlot now assignments =>
      intro entry member
      obtain ⟨_, found, _⟩ := isDue_of_mem_dueAssignments
        (List.mem_map_of_mem ((choice.order.perm _).mem_iff.mp member))
      exact Dictionary.mem_of_lookup found
  | sending due =>
      cases due with
      | nil => trivial
      | cons entry rest =>
          obtain ⟨own, others⟩ := List.forall_mem_cons.mp agrees
          obtain ⟨tracked, found⟩ := Dictionary.exists_lookup_of_mem own
          refine ⟨⟨tracked, found, ?_⟩, others⟩
          rw [found]
          rfl
  | loaded requestId assignment payload rest =>
      simp only [AppState.dispatcherStep]
      split
      · exact agrees.2
      · exact ⟨⟨agrees.1, rfl⟩, agrees.2⟩
  | refused requestId error rest => exact agrees
  | addressed message rest =>
      simp only [AppState.dispatcherStep]
      split
      · exact agrees.2
      · exact agrees
  | awaiting message rest =>
      simp only [AppState.dispatcherStep]
      split <;> exact agrees.2

/-- A message that is sent agrees with its record. -/
private theorem speaksFor_of_sent {choice : DispatcherChoice}
    {phase after : DispatcherPhase} {app : AppState σ}
    {events : List DispatchEvent} {message : ExecutorDispatchPayload}
    (agrees : DispatcherPhase.AgreesWith settings service phase)
    (effect : AppState.DispatchEffect choice service.app phase after app
      events)
    (sent : .sent message ∈ events) :
    SpeaksFor settings service message := by
  cases effect with
  | quiet _ => cases sent
  | listed _ => cases sent
  | released _ _ _ unsent _ => exact absurd sent (unsent message)
  | sent =>
      cases List.mem_singleton.mp sent
      exact agrees.1
  | accepted _ => cases List.mem_singleton.mp sent

namespace SendsRecorded

theorem new (settings : ServiceSettings) (carbonForecast : List ℚ)
    (startedAt : ℤ) :
    SendsRecorded settings (Service.new settings carbonForecast startedAt :
      Service σ) :=
  ⟨trivial, fun sent => nomatch sent⟩

theorem step (recorded : SendsRecorded settings service)
    (registered : Registered known service)
    (effect : StepEffect settings numerics runtime service action next) :
    SendsRecorded settings next := by
  have whole := effect
  cases effect with
  | background _ _ =>
      exact ⟨recorded.inHand.step registered whole,
        fun sent => (recorded.sent sent).step registered whole⟩
  | started _ =>
      exact ⟨recorded.inHand.step registered whole,
        fun sent => (recorded.sent sent).step registered whole⟩
  | handled _ _ =>
      exact ⟨recorded.inHand.step registered whole,
        fun sent => (recorded.sent sent).step registered whole⟩
  | @dispatched choice =>
      refine ⟨(agreesWith_dispatched recorded.inHand).step registered whole,
        fun {message} sent => ?_⟩
      rcases List.mem_append.mp sent with earlier | last
      · exact (recorded.sent earlier).step registered whole
      · exact (speaksFor_of_sent recorded.inHand
          (AppState.dispatcherStep_effect settings runtime choice service.app
            service.dispatcher) last).step registered whole

theorem of_run
    {carbonForecast : List ℚ} {startedAt : ℤ} {actions : List Action}
    (reached : Transition.run (Service.step settings numerics runtime)
      (Service.new settings carbonForecast startedAt) actions =
        some service) :
    SendsRecorded settings service := by
  refine (Transition.run_induction
    (fun _ state =>
      (∃ known, Consistent settings numerics known state) ∧
        SendsRecorded settings state)
    ⟨⟨[], .new settings numerics carbonForecast startedAt⟩,
      .new settings carbonForecast startedAt⟩ ?_ reached).2
  rintro _ state action next ⟨⟨known, consistent⟩, recorded⟩ taken
  obtain ⟨_, _, follows⟩ := consistent.step taken
  exact ⟨⟨_, follows⟩,
    recorded.step consistent.registered (step_effect taken)⟩

end SendsRecorded

/-! ## Callbacks -/

/-- The record is completed, and shows what the callback has measured. -/
structure CompletedBy (tracked : TrackedRequest)
    (body : ExecutorCallbackPayload) : Prop where
  received : tracked.executorCallbackReceived = true
  success : body.success = true
  error_eq : tracked.error = body.error
  actualErrorPct_eq : tracked.actualErrorPct = body.actualErrorPct
  executionTimeSec_eq : tracked.executionTimeSec = body.executionTimeSec
  baselineExecutionTimeSec_eq :
    tracked.baselineExecutionTimeSec = body.baselineExecutionTimeSec

/-- All callbacks in progress have been posted, and so has the one that a
completed record shows. -/
structure ShowsPosted (posted : ℕ → ExecutorCallbackPayload → Prop)
    (service : Service σ) : Prop where
  calling : ∀ {handlerId requestId body phase},
    service.handlers.lookup handlerId =
        some (.callback requestId body phase) →
      posted requestId body
  completed : ∀ {requestId tracked},
    service.app.tracked.lookup requestId = some tracked →
      tracked.status = .completed →
        ∃ body, posted requestId body ∧ CompletedBy tracked body

namespace ShowsPosted

variable {posted more : ℕ → ExecutorCallbackPayload → Prop}

theorem new (settings : ServiceSettings) (carbonForecast : List ℚ)
    (startedAt : ℤ) :
    ShowsPosted posted (Service.new settings carbonForecast startedAt :
      Service σ) := by
  constructor
  · intro _ _ _ _ found
    exact absurd (found.symm.trans (AList.lookup_empty _))
      (Option.some_ne_none _)
  · intro _ _ found
    exact absurd (found.symm.trans (AList.lookup_empty _))
      (Option.some_ne_none _)

theorem mono (shows : ShowsPosted posted service)
    (grows : ∀ requestId body, posted requestId body → more requestId body) :
    ShowsPosted more service := by
  refine ⟨fun found => grows _ _ (shows.calling found),
    fun found completed => ?_⟩
  obtain ⟨body, there, by_⟩ := shows.completed found completed
  exact ⟨body, grows _ _ there, by_⟩

/-- A completed record that somebody else has written was not written. -/
private theorem eq_of_writes (shows : ShowsPosted posted service)
    {requestId : ℕ} {status : RequestStatus} {before tracked : TrackedRequest}
    (recorded : service.app.tracked.lookup requestId = some before)
    (writes : TrackedRequest.Writes status before tracked)
    (other : status ≠ .completed) (completed : tracked.status = .completed) :
    tracked = before := by
  rcases writes.status_eq with same | new | ⟨same, unclaimed⟩
  · exact same
  · exact absurd (new.symm.trans completed) other
  · obtain ⟨_, _, by_⟩ :=
      shows.completed recorded (same.symm.trans completed)
    exact absurd by_.received (Bool.eq_false_iff.mp unclaimed)

theorem step (shows : ShowsPosted posted service)
    (claimed : CallbacksClaimed service)
    (arrives : ∀ requestId body, action = .callback requestId body →
      posted requestId body)
    (taken : Service.step settings numerics runtime service action =
      some next) :
    ShowsPosted posted next := by
  have effect := step_effect taken
  refine ⟨fun found => ?_, fun {requestId tracked} found completed => ?_⟩
  · rcases callback_of_step taken found with ⟨before, there⟩ | ⟨_, here⟩
    · exact shows.calling there
    · exact arrives _ _ here
  · cases effect.recordHistory found with
    | kept recorded => exact shows.completed recorded completed
    | @written status before _ recorded writes undone =>
        have other : status ≠ .completed := by
          rintro rfl
          rcases undone with same | same <;> cases same
        have same := shows.eq_of_writes recorded writes other completed
        subst same
        exact shows.completed recorded completed
    | @dispatched before _ recorded writes _ =>
        have same := shows.eq_of_writes recorded writes (by decide) completed
        subst same
        exact shows.completed recorded completed
    | claimed recorded _ =>
        obtain ⟨body, there, by_⟩ := shows.completed recorded completed
        exact ⟨body, there, rfl, by_.success, by_.error_eq,
          by_.actualErrorPct_eq, by_.executionTimeSec_eq,
          by_.baselineExecutionTimeSec_eq⟩
    | @finished before handlerId body phase cost baseline recorded there =>
        obtain ⟨claimant, known, received⟩ := claimed _ _ _ _ there
        rw [recorded, Option.some.injEq] at known
        rw [← known] at received
        refine ⟨body, shows.calling there, received, ?_, rfl, rfl, rfl, rfl⟩
        rw [TrackedRequest.finishCallback] at completed
        dsimp only at completed
        split at completed
        · assumption
        · cases completed
    | created _ _ => cases completed

end ShowsPosted

end Service

end Carbonshift
