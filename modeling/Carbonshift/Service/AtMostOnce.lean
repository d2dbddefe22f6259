import Carbonshift.Service.Barrier
import Carbonshift.Service.Claims

/-!
# Sending a request once

The tracked status is all that keeps the dispatcher from sending a request
again.  It does so as long as nobody overwrites what an accepted message has
left there: the poll of the submission does, and an accepted message leaves
nothing there while the callback of the request is half done.
-/

namespace Carbonshift

/-! ## The exchange -/

/-- The later event sends what the earlier one has accepted. -/
def DispatchEvent.Resends : DispatchEvent → DispatchEvent → Prop
  | .accepted requestId, .sent message => message.requestId = requestId
  | _, _ => False

instance : DecidableRel DispatchEvent.Resends
  | .accepted requestId, .sent message =>
      inferInstanceAs (Decidable (message.requestId = requestId))
  | .accepted _, .accepted _ => isFalse id
  | .accepted _, .failed _ _ => isFalse id
  | .sent _, _ => isFalse id
  | .failed _ _, _ => isFalse id

/-- No message of a request follows its acceptance. -/
def SentAtMostOnce (exchange : List DispatchEvent) : Prop :=
  exchange.Pairwise fun earlier later => ¬ earlier.Resends later

instance : DecidablePred SentAtMostOnce :=
  fun exchange => inferInstanceAs (Decidable (exchange.Pairwise _))

theorem sentAtMostOnce_append_of_unsent
    {exchange events : List DispatchEvent}
    (once : SentAtMostOnce exchange)
    (single : events.length ≤ 1)
    (fresh : ∀ message, .sent message ∈ events →
      .accepted message.requestId ∉ exchange) :
    SentAtMostOnce (exchange ++ events) := by
  refine List.pairwise_append.mpr ⟨once, ?_, ?_⟩
  · match events, single with
    | [], _ => exact List.Pairwise.nil
    | [event], _ => exact List.pairwise_singleton _ event
  · intro earlier before later after resends
    cases earlier with
    | sent message => exact resends
    | failed requestId error => exact resends
    | accepted requestId =>
        cases later with
        | accepted other => exact resends
        | failed other error => exact resends
        | sent message =>
            subst resends
            exact fresh message after before

namespace TrackedRequest

/-- The dispatcher has nothing to do for the request any more. -/
def HandedOver (tracked : TrackedRequest) : Prop :=
  tracked.status = .dispatched ∨
    (tracked.executorCallbackReceived = true ∧
      tracked.status.isWaiting = false)

variable {tracked : TrackedRequest}

theorem HandedOver.not_isDue (handed : tracked.HandedOver) (now : ℕ) :
    tracked.isDue now = false := by
  have settled : tracked.status.isWaiting = false := by
    rcases handed with dispatched | ⟨_, settled⟩
    · rw [dispatched]
      rfl
    · exact settled
  rw [isDue, settled, Bool.false_and]

/-- The poll may mark the request: the executor has not accepted it, or its
result is in. -/
def MayBeMarked (tracked : TrackedRequest) : Prop :=
  tracked.status = .dispatched → tracked.executorCallbackReceived = true

instance : DecidablePred MayBeMarked :=
  fun tracked => inferInstanceAs (Decidable (tracked.status = .dispatched → _))

/-- An accepted message leaves its mark: no callback has been claimed, or it
has left its final status. -/
def MayBeAccepted (tracked : TrackedRequest) : Prop :=
  tracked.executorCallbackReceived = true → tracked.status.isWaiting = false

instance : DecidablePred MayBeAccepted :=
  fun tracked => inferInstanceAs
    (Decidable (tracked.executorCallbackReceived = true → _))

theorem HandedOver.markScheduled (handed : tracked.HandedOver)
    (free : tracked.MayBeMarked) : tracked.markScheduled.HandedOver := by
  have received : tracked.executorCallbackReceived = true := by
    rcases handed with dispatched | ⟨received, _⟩
    · exact free dispatched
    · exact received
  rw [TrackedRequest.markScheduled, if_pos received]
  exact handed

theorem HandedOver.claimCallback (handed : tracked.HandedOver) :
    tracked.claimCallback.HandedOver :=
  handed.imp_right fun settled => ⟨rfl, settled.2⟩

theorem handedOver_finishCallback {body : ExecutorCallbackPayload}
    {actualCarbonCost actualBaseline : Option ℚ}
    (received : tracked.executorCallbackReceived = true) :
    (tracked.finishCallback body actualCarbonCost
      actualBaseline).HandedOver := by
  refine Or.inr ⟨received, ?_⟩
  rw [finishCallback]
  cases body.success <;> rfl

theorem handedOver_setStatus_dispatched (free : tracked.MayBeAccepted) :
    (tracked.setStatus .dispatched none).HandedOver := by
  unfold setStatus
  by_cases received : tracked.executorCallbackReceived = true
  · rw [if_pos received]
    exact Or.inr ⟨received, free received⟩
  · rw [if_neg received]
    exact Or.inl rfl

end TrackedRequest

/-! ## Requests in the hands of the dispatcher -/

/-- The requests that the dispatcher still has to send in this tick. -/
def DispatcherPhase.inHand : DispatcherPhase → List ℕ
  | .sending due => due.map Prod.fst
  | .loaded requestId _ _ rest => requestId :: rest.map Prod.fst
  | .refused requestId _ rest => requestId :: rest.map Prod.fst
  | .addressed message rest => message.requestId :: rest.map Prod.fst
  | .awaiting message rest => message.requestId :: rest.map Prod.fst
  | _ => []

section Due

variable {σ : Type} {state : AppState σ} {currentSlot : ℤ} {now : ℕ}
variable {assignments : Dictionary ℕ Assignment}

theorem nodup_map_dueAssignments :
    ((state.dueAssignments currentSlot now assignments).map
      Prod.fst).Nodup := by
  have keys : (assignments.toPairs.map Prod.fst).Nodup := by
    rw [Dictionary.toPairs, List.map_map]
    exact assignments.nodupKeys
  exact keys.sublist (List.filter_sublist.map Prod.fst)

/-- A due request has a record that is still waiting. -/
theorem isDue_of_mem_dueAssignments {requestId : ℕ}
    (listed : requestId ∈
      (state.dueAssignments currentSlot now assignments).map Prod.fst) :
    ∃ tracked, state.tracked.lookup requestId = some tracked ∧
      tracked.isDue now = true := by
  obtain ⟨entry, member, same⟩ := List.mem_map.mp listed
  have selected := (List.mem_filter.mp member).2
  rw [Bool.and_eq_true, same] at selected
  cases found : state.tracked.lookup requestId with
  | none =>
      rw [found] at selected
      cases selected.2
  | some tracked =>
      rw [found] at selected
      exact ⟨tracked, rfl, selected.2⟩

end Due

/-! ## Steps of the dispatcher -/

namespace AppState

variable {σ : Type}

/-- What a step of the dispatcher does. -/
inductive DispatchEffect (choice : DispatcherChoice) (state : AppState σ) :
    DispatcherPhase → DispatcherPhase → AppState σ → List DispatchEvent →
      Prop where
  | quiet {phase after : DispatcherPhase}
      (fewer : after.inHand.Sublist phase.inHand) :
      DispatchEffect choice state phase after state []
  | listed {currentSlot : ℤ} {now : ℕ} {assignments : Dictionary ℕ Assignment}
      {due : List (ℕ × Assignment)}
      (order : due.Perm (state.dueAssignments currentSlot now assignments)) :
      DispatchEffect choice state (.observed currentSlot now assignments)
        (.sending due) state []
  | released {phase : DispatcherPhase} {requestId : ℕ}
      {rest : List (ℕ × Assignment)} {update : TrackedRequest → TrackedRequest}
      {events : List DispatchEvent}
      (held : phase.inHand = requestId :: rest.map Prod.fst)
      (follows : ∀ tracked, TrackedRequest.Follows tracked (update tracked))
      (single : events.length ≤ 1)
      (unsent : ∀ message, .sent message ∉ events)
      (unaccepted : ∀ accepted, .accepted accepted ∉ events) :
      DispatchEffect choice state phase (.sending rest)
        (state.adjustTracked requestId update) events
  | sent {message : ExecutorDispatchPayload} {rest : List (ℕ × Assignment)} :
      DispatchEffect choice state (.addressed message rest)
        (.awaiting message rest) state [.sent message]
  | accepted {message : ExecutorDispatchPayload}
      {rest : List (ℕ × Assignment)}
      (outcome : choice.outcome = .accepted) :
      DispatchEffect choice state (.awaiting message rest) (.sending rest)
        (state.adjustTracked message.requestId fun tracked =>
          tracked.setStatus .dispatched none)
        [.accepted message.requestId]

theorem dispatcherStep_effect
    (settings : ServiceSettings) (runtime : ServiceRuntime)
    (choice : DispatcherChoice) (state : AppState σ)
    (phase : DispatcherPhase) :
    DispatchEffect choice state phase
      (state.dispatcherStep settings runtime choice phase).1
      (state.dispatcherStep settings runtime choice phase).2.1
      (state.dispatcherStep settings runtime choice phase).2.2 := by
  cases phase with
  | idle => exact .quiet (List.Sublist.refl [])
  | ticked currentSlot => exact .quiet (List.Sublist.refl [])
  | observed currentSlot now assignments =>
      exact .listed (choice.order.perm _)
  | sending due =>
      cases due with
      | nil => exact .quiet (List.Sublist.refl [])
      | cons entry rest => exact .quiet (List.Sublist.refl _)
  | loaded requestId assignment payload rest =>
      simp only [dispatcherStep]
      split
      · exact .quiet (List.Sublist.refl _)
      · exact .quiet (List.Sublist.refl _)
  | refused requestId error rest =>
      exact .released rfl
        (fun tracked => tracked.follows_setStatus .failed (some error))
        (Nat.zero_le 1) (fun _ => List.not_mem_nil) fun _ => List.not_mem_nil
  | addressed message rest =>
      simp only [dispatcherStep]
      split
      · exact .released rfl
          (fun tracked => tracked.follows_setStatus .dispatched none)
          (Nat.zero_le 1) (fun _ => List.not_mem_nil) fun _ => List.not_mem_nil
      · exact .sent
  | awaiting message rest =>
      simp only [dispatcherStep]
      split
      · rename_i outcome
        exact .accepted outcome
      · rename_i error _
        refine .released rfl
          (fun tracked => tracked.follows_recordFailure settings.service
            choice.now error)
          le_rfl (fun _ listed => ?_) fun _ listed => ?_
        · cases List.mem_singleton.mp listed
        · cases List.mem_singleton.mp listed

end AppState

namespace Service

variable {σ : Type} {settings : ServiceSettings}
variable {numerics : NumericRuntime σ} {runtime : ServiceRuntime}
variable {service next : Service σ} {action : Action}
variable {known received : List Request}

/-! ## The condition -/

/-- The request that a handler is about to mark as scheduled. -/
def marking (service : Service σ) (handlerId : ℕ) : Option ℕ :=
  match service.handlers.lookup handlerId with
  | some (.submit submission (.assigned _ _)) => some submission.requestId
  | _ => none

/-- The request whose answer the dispatcher awaits. -/
def awaited (service : Service σ) : Option ℕ :=
  match service.dispatcher with
  | .awaiting message _ => some message.requestId
  | _ => none

/-- The step overwrites no acceptance: a poll marks no request that the
executor has accepted and not called back, and no message is accepted while
the callback of its request is half done. -/
def KeepsAcceptance (service : Service σ) : Action → Prop
  | .handle handlerId _ =>
      ∀ requestId ∈ service.marking handlerId,
        ∀ tracked ∈ service.app.tracked.lookup requestId,
          tracked.MayBeMarked
  | .dispatch choice =>
      choice.outcome = .accepted →
        ∀ requestId ∈ service.awaited,
          ∀ tracked ∈ service.app.tracked.lookup requestId,
            tracked.MayBeAccepted
  | _ => True

instance (service : Service σ) : DecidablePred (KeepsAcceptance service)
  | .registerProfile _ => isTrue trivial
  | .replaceCapacityTiers _ => isTrue trivial
  | .submit _ => isTrue trivial
  | .callback _ _ => isTrue trivial
  | .advanceSlot _ => isTrue trivial
  | .closeSlot _ => isTrue trivial
  | .handle handlerId _ =>
      inferInstanceAs (Decidable (∀ requestId ∈ service.marking handlerId, _))
  | .loop _ => isTrue trivial
  | .claimBatch => isTrue trivial
  | .work _ _ => isTrue trivial
  | .release _ => isTrue trivial
  | .dispatch choice =>
      inferInstanceAs (Decidable (choice.outcome = .accepted → _))

/-- What is accepted stays out of the dispatcher's hands. -/
structure SendsOnce (service : Service σ) : Prop where
  claimed : ∀ {handlerId requestId body phase},
    service.handlers.lookup handlerId =
      some (.callback requestId body phase) →
    ∃ tracked, service.app.tracked.lookup requestId = some tracked ∧
      tracked.executorCallbackReceived = true
  tracked : ∀ requestId ∈ service.dispatcher.inHand,
    requestId ∈ service.app.tracked
  distinct : service.dispatcher.inHand.Nodup
  accepted : ∀ {requestId}, .accepted requestId ∈ service.exchange →
    (∃ tracked, service.app.tracked.lookup requestId = some tracked ∧
      tracked.HandedOver) ∧
      requestId ∉ service.dispatcher.inHand
  once : SentAtMostOnce service.exchange

namespace SendsOnce

theorem new (settings : ServiceSettings) (carbonForecast : List ℚ)
    (startedAt : ℤ) :
    SendsOnce (Service.new settings carbonForecast startedAt :
      Service σ) := by
  refine ⟨fun found => ?_, ?_, List.nodup_nil, fun accepted => ?_,
    List.Pairwise.nil⟩
  · exact absurd (found.symm.trans (AList.lookup_empty _))
      (Option.some_ne_none _)
  · intro requestId member
    cases member
  · cases accepted

/-! ## Steps of the dispatcher -/

private theorem callbacksClaimed (sends : SendsOnce service) :
    CallbacksClaimed service :=
  fun _ _ _ _ found => sends.claimed found

private theorem dispatch
    (sends : SendsOnce service) (registered : Registered known service)
    {choice : DispatcherChoice} {phase : DispatcherPhase} {app : AppState σ}
    {events : List DispatchEvent}
    (keeps : KeepsAcceptance service (.dispatch choice))
    (effect : AppState.DispatchEffect choice service.app service.dispatcher
      phase app events)
    (records : RecordsMove service
      { service with
        app := app, dispatcher := phase,
        exchange := service.exchange ++ events }) :
    SendsOnce
      { service with
        app := app, dispatcher := phase,
        exchange := service.exchange ++ events } := by
  have claimed : ∀ {handlerId requestId body callback},
      service.handlers.lookup handlerId =
        some (.callback requestId body callback) →
      ∃ tracked, app.tracked.lookup requestId = some tracked ∧
        tracked.executorCallbackReceived = true :=
    fun found =>
      sends.callbacksClaimed.received_of_records registered records found
  generalize was : service.dispatcher = before at effect
  have inHand := sends.tracked
  have distinct := sends.distinct
  have accepted := @sends.accepted
  simp only [KeepsAcceptance, awaited, was] at keeps
  rw [was] at inHand distinct accepted
  cases effect with
  | quiet fewer =>
      rw [List.append_nil]
      exact ⟨claimed, fun requestId member =>
        inHand requestId (fewer.subset member), fewer.nodup distinct,
        fun before => ⟨(accepted before).1, fun member =>
          (accepted before).2 (fewer.subset member)⟩, sends.once⟩
  | @listed currentSlot now assignments due order =>
      rw [List.append_nil]
      have ids := order.map Prod.fst
      refine ⟨claimed, fun requestId member => ?_,
        ids.nodup_iff.mpr nodup_map_dueAssignments,
        fun before => ⟨(accepted before).1, fun member => ?_⟩, sends.once⟩
      · obtain ⟨_, recorded, _⟩ :=
          isDue_of_mem_dueAssignments (ids.subset member)
        exact Dictionary.mem_of_lookup recorded
      · obtain ⟨tracked, recorded, due⟩ :=
          isDue_of_mem_dueAssignments (ids.subset member)
        obtain ⟨settled, found, handed⟩ := (accepted before).1
        rw [recorded, Option.some.injEq] at found
        rw [found, handed.not_isDue] at due
        cases due
  | @released _ requestId rest update _ held follows single unsent
      unaccepted =>
      rw [held] at inHand distinct accepted
      refine ⟨claimed, fun other member => ?_, (List.nodup_cons.mp distinct).2,
        fun {other} before => ?_, ?_⟩
      · exact Dictionary.mem_adjust_iff.mpr
          (inHand other (List.mem_cons_of_mem requestId member))
      · have earlier := (List.mem_append.mp before).resolve_right
          (unaccepted other)
        obtain ⟨settled, released⟩ := accepted earlier
        refine ⟨Dictionary.exists_lookup_adjust settled
          fun tracked same _ _ => ?_,
          fun member => released (List.mem_cons_of_mem requestId member)⟩
        exact absurd (same ▸ List.mem_cons_self) released
      · exact sentAtMostOnce_append_of_unsent sends.once single
          fun message member => absurd member (unsent message)
  | @sent message rest =>
      refine ⟨claimed, inHand, distinct, fun {other} before => ?_, ?_⟩
      · refine accepted ((List.mem_append.mp before).resolve_right fun new => ?_)
        cases List.mem_singleton.mp new
      · refine sentAtMostOnce_append_of_unsent sends.once le_rfl
          fun other member before => ?_
        cases List.mem_singleton.mp member
        exact (accepted before).2 List.mem_cons_self
  | @accepted message rest outcome =>
      obtain ⟨apart, distinctRest⟩ := List.nodup_cons.mp distinct
      refine ⟨claimed, fun other member => ?_, distinctRest,
        fun {other} before => ?_, ?_⟩
      · exact Dictionary.mem_adjust_iff.mpr
          (inHand other (List.mem_cons_of_mem message.requestId member))
      · rcases List.mem_append.mp before with earlier | new
        · obtain ⟨settled, released⟩ := accepted earlier
          refine ⟨Dictionary.exists_lookup_adjust settled
            fun tracked same _ _ => ?_, fun member =>
              released (List.mem_cons_of_mem message.requestId member)⟩
          exact absurd (same ▸ List.mem_cons_self) released
        · cases List.mem_singleton.mp new
          obtain ⟨tracked, recorded⟩ := Dictionary.exists_lookup_of_mem
            (inHand message.requestId List.mem_cons_self)
          refine ⟨⟨tracked.setStatus .dispatched none, ?_, ?_⟩, apart⟩
          · dsimp only [AppState.adjustTracked]
            rw [Dictionary.lookup_adjust_self, recorded]
            rfl
          · exact TrackedRequest.handedOver_setStatus_dispatched
              (keeps outcome message.requestId rfl tracked recorded)
      · refine sentAtMostOnce_append_of_unsent sends.once le_rfl
          fun other member => ?_
        cases List.mem_singleton.mp member

/-! ## Other steps -/

/-- No step of a handler takes an accepted request back. -/
private theorem handedOver_of_handled
    (sends : SendsOnce service) (registered : Registered known service)
    {handlerId : ℕ} {handler : Handler} {choice : HandlerChoice}
    {moved : Handler × AppState σ}
    (keeps : KeepsAcceptance service (.handle handlerId choice))
    (found : service.handlers.lookup handlerId = some handler)
    (taken : handlerStep settings runtime service choice handler =
      some moved)
    {requestId : ℕ}
    (handed : ∃ tracked, service.app.tracked.lookup requestId = some tracked ∧
      tracked.HandedOver) :
    ∃ tracked, moved.2.tracked.lookup requestId = some tracked ∧
      tracked.HandedOver := by
  cases handler with
  | submit submission phase =>
      obtain ⟨after, stepped, rfl⟩ := Option.map_eq_some_iff.mp taken
      have effect := AppState.submitStep_effect stepped
      generalize after.1 = reached, after.2 = app at effect ⊢
      cases effect with
      | quiet _ records _ =>
          rw [records.tracked_eq]
          exact handed
      | fenced _ _ => exact handed
      | recorded =>
          obtain ⟨tracked, recorded, settled⟩ := handed
          have other : requestId ≠ submission.requestId := by
            rintro rfl
            exact registered.unrecorded found rfl
              (Dictionary.mem_of_lookup recorded)
          refine ⟨tracked, ?_, settled⟩
          rw [AList.lookup_insert_ne other]
          exact recorded
      | queued => exact handed
      | marked =>
          refine Dictionary.exists_lookup_adjust handed
            fun tracked same recorded settled => ?_
          rw [same] at recorded
          have marks : service.marking handlerId =
              some submission.requestId := by
            rw [marking, found]
          exact settled.markScheduled
            (keeps submission.requestId marks tracked recorded)
  | callback calledId body phase =>
      obtain ⟨after, stepped, rfl⟩ := Option.map_eq_some_iff.mp taken
      have effect := AppState.callbackStep_effect stepped
      generalize after.2 = app at effect ⊢
      cases effect with
      | quiet => exact handed
      | errorCorrected => exact handed
      | costCorrected => exact handed
      | finished =>
          refine Dictionary.exists_lookup_adjust handed
            fun tracked same recorded _ => ?_
          obtain ⟨claimed, there, received⟩ := sends.claimed found
          rw [← same, recorded, Option.some.injEq] at there
          rw [← there] at received
          exact TrackedRequest.handedOver_finishCallback received
  | advance body phase =>
      obtain ⟨after, stepped, rfl⟩ := Option.map_eq_some_iff.mp taken
      dsimp only
      rw [(AppState.advanceStep_effect stepped).1.tracked_eq]
      exact handed
  | close body phase =>
      obtain ⟨after, stepped, rfl⟩ := Option.map_eq_some_iff.mp taken
      dsimp only
      rw [(AppState.closeStep_effect stepped).keeps.2.1]
      exact handed

/-- A step that leaves the dispatcher alone. -/
private theorem of_sameDispatcher
    (sends : SendsOnce service) (registered : Registered known service)
    (effect : StepEffect settings numerics runtime service action next)
    (dispatcher_eq : next.dispatcher = service.dispatcher)
    (exchange_eq : next.exchange = service.exchange)
    (handed : ∀ requestId,
      (∃ tracked, service.app.tracked.lookup requestId = some tracked ∧
        tracked.HandedOver) →
      ∃ tracked, next.app.tracked.lookup requestId = some tracked ∧
        tracked.HandedOver) :
    SendsOnce next := by
  refine ⟨fun found => sends.callbacksClaimed.step registered effect _ _ _ _
      found, fun requestId member => ?_, ?_, fun {requestId} accepted => ?_, ?_⟩
  · rw [dispatcher_eq] at member
    obtain ⟨tracked, recorded⟩ :=
      Dictionary.exists_lookup_of_mem (sends.tracked requestId member)
    obtain ⟨after, followed, _⟩ :=
      registered.lookup effect.recordsMove recorded
    exact Dictionary.mem_of_lookup followed
  · rw [dispatcher_eq]
    exact sends.distinct
  · rw [exchange_eq] at accepted
    rw [dispatcher_eq]
    exact ⟨handed requestId (sends.accepted accepted).1,
      (sends.accepted accepted).2⟩
  · rw [exchange_eq]
    exact sends.once

/-- Every step that overwrites no acceptance sends no accepted request
again. -/
theorem step
    (sends : SendsOnce service) (registered : Registered known service)
    (keeps : KeepsAcceptance service action)
    (effect : StepEffect settings numerics runtime service action next) :
    SendsOnce next := by
  have records := effect.recordsMove
  have whole := effect
  cases effect with
  | background _ same =>
      refine sends.of_sameDispatcher registered whole rfl rfl
        fun requestId handed => ?_
      dsimp only
      rw [same.tracked_eq]
      exact handed
  | started arrival =>
      refine sends.of_sameDispatcher registered whole rfl rfl
        fun requestId handed => ?_
      dsimp only [start]
      cases arrival with
      | submit => exact handed
      | callback _ _ =>
          exact Dictionary.exists_lookup_adjust handed
            fun _ _ _ settled => settled.claimCallback
      | advance _ => exact handed
      | close _ => exact handed
  | handled found taken =>
      exact sends.of_sameDispatcher registered whole rfl rfl
        fun requestId handed =>
          sends.handedOver_of_handled registered keeps found taken handed
  | dispatched =>
      exact sends.dispatch registered keeps
        (AppState.dispatcherStep_effect settings runtime _ service.app
          service.dispatcher) records

end SendsOnce

/-- In a run whose steps overwrite no acceptance, no accepted request is sent
again. -/
theorem sent_at_most_once
    (settings : ServiceSettings) (numerics : NumericRuntime σ)
    (runtime : ServiceRuntime) (carbonForecast : List ℚ) (startedAt : ℤ)
    (actions : List Action) (final : Service σ)
    (keeps : Transition.Guarded (Service.step settings numerics runtime)
      KeepsAcceptance (Service.new settings carbonForecast startedAt) actions)
    (reached : Transition.run (Service.step settings numerics runtime)
      (Service.new settings carbonForecast startedAt) actions = some final) :
    SentAtMostOnce final.exchange := by
  have kept := Transition.guarded_induction
    (fun _ state =>
      (∃ known, Consistent settings numerics known state) ∧ SendsOnce state)
    ⟨⟨[], .new settings numerics carbonForecast startedAt⟩,
      .new settings carbonForecast startedAt⟩ ?_ keeps reached
  · exact kept.2.once
  · rintro _ state action next ⟨⟨known, consistent⟩, sends⟩ allowed taken
    obtain ⟨_, _, follows⟩ := consistent.step taken
    exact ⟨⟨_, follows⟩,
      sends.step consistent.registered allowed (step_effect taken)⟩

/-- The request is scheduled, and its poll has not looked yet. -/
def unpolledRun : List Action :=
  .advanceSlot (providerMessage "announce" 0 none none) :: handleTimes 0 6 ++
    .submit (plainRequest 0) :: handleTimes 1 5 ++ solveOnce 0

/-- The message is refused once, sent again after the backoff, accepted and
called back. -/
def retriedRun : List Action :=
  unpolledRun ++ handleTimes 1 2 ++
    List.replicate 7 (.dispatch ⟨0, .entryOrder, .failed "503"⟩) ++
    List.replicate 8 (.dispatch ⟨100, .entryOrder, .accepted⟩) ++
    .callback 1 ⟨true, .object [], none⟩ :: handleTimes 2 6 ++
    List.replicate 4 (.dispatch ⟨200, .entryOrder, .accepted⟩)

/-- The retried message is accepted once, and never sent after that. -/
theorem retriedRun_sends_at_most_once :
    ∃ final : Service Unit,
      Transition.run (Service.step executorSettings .least AppState.epochOnly)
          (Service.new executorSettings [1, 2, 2, 2] 0) retriedRun =
        some final ∧
      final.exchange.length = 4 ∧ SentAtMostOnce final.exchange := by
  have keeps : Transition.Guarded
      (Service.step executorSettings .least AppState.epochOnly)
      KeepsAcceptance
      (Service.new executorSettings [1, 2, 2, 2] 0 : Service Unit)
      retriedRun := by
    decide +kernel
  have computed :
      (Transition.run
          (Service.step executorSettings .least AppState.epochOnly)
          (Service.new executorSettings [1, 2, 2, 2] 0) retriedRun).map
            (fun final => final.exchange.length) = some 4 := by
    decide +kernel
  obtain ⟨final, reached, events⟩ := Option.map_eq_some_iff.mp computed
  exact ⟨final, reached, events,
    sent_at_most_once executorSettings .least AppState.epochOnly [1, 2, 2, 2]
      0 retriedRun final keeps reached⟩

/-- The message is accepted before the poll looks; the poll marks the request
as scheduled, and the next tick sends it again. -/
def resentRun : List Action :=
  unpolledRun ++ dispatchTimes 8 ++ handleTimes 1 2 ++ dispatchTimes 8

/-- The poll of the submission takes the acceptance back. -/
theorem resentRun_sends_twice :
    ∃ final : Service Unit,
      Transition.run (Service.step executorSettings .least AppState.epochOnly)
          (Service.new executorSettings [1, 2, 2, 2] 0) resentRun =
        some final ∧
      ¬ SentAtMostOnce final.exchange := by
  have computed :
      (Transition.run
          (Service.step executorSettings .least AppState.epochOnly)
          (Service.new executorSettings [1, 2, 2, 2] 0) resentRun).map
            (fun final => decide (SentAtMostOnce final.exchange)) =
        some false := by
    decide +kernel
  obtain ⟨final, reached, sends⟩ := Option.map_eq_some_iff.mp computed
  exact ⟨final, reached, of_decide_eq_false sends⟩

end Service

end Carbonshift
