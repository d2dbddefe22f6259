import Carbonshift.Client.TrackerThreads

/-!
# What a step does to the tracker

Every step of a thread does one of a few deeds, provided that the callbacks
find their requests open.
-/

namespace Carbonshift

namespace Client

/-! ## What a thread holds -/

namespace Thread

/-- The line that the thread is about to write. -/
def record : Thread → Option MetricsRecord
  | .delivery ⟨_, .persisting record⟩ => some record
  | .sweep ⟨_, _, .persisting record⟩ => some record
  | _ => none

/-- The accepted request that the thread is about to track. -/
def adding : Thread → Option ℕ
  | .sender ⟨_, _, _, .adding _ _ ack⟩ => some ack.requestId
  | _ => none

/-- The callback that the thread has applied. -/
def applied : Thread → Option CallerCallbackPayload
  | .delivery ⟨body, .persisting _⟩ => some body
  | _ => none

/-- The thread owes nothing. -/
structure Idle (thread : Thread) : Prop where
  record : thread.record = none
  adding : thread.adding = none
  applied : thread.applied = none

end Thread

/-- The request carries the outcome that a callback reports. -/
structure TrackedRequest.Carries (tracked : TrackedRequest)
    (body : CallerCallbackPayload) : Prop where
  received : tracked.callbackReceivedAt.isSome
  status : tracked.status = if body.success then .completed else .failed
  success : tracked.success = some body.success
  result : tracked.result = body.callbackResult
  error : tracked.error = body.error
  actualCarbonCost : tracked.actualCarbonCost = body.actualCarbonCost
  actualBaselineCarbonCost :
    tracked.actualBaselineCarbonCost = body.actualBaselineCarbonCost
  actualErrorPct : tracked.actualErrorPct = body.actualErrorPct

theorem TrackedRequest.carries_applyCallback (tracked : TrackedRequest)
    (body : CallerCallbackPayload) (now : ℤ) :
    (tracked.applyCallback body now).Carries body :=
  ⟨rfl, rfl, rfl, rfl, rfl, rfl, rfl, rfl⟩

theorem TrackedRequest.Carries.not_submitted {tracked : TrackedRequest}
    {body : CallerCallbackPayload} (carries : tracked.Carries body) :
    tracked.status ≠ .submitted := by
  rw [carries.status]
  split <;> simp

namespace TrackerState

/-- A callback finds its request, and finds it open when it writes. -/
def Undisturbed (state : TrackerState) : TrackerAction → Prop
  | .proceed thread _ =>
      match state.threads.lookup thread with
      | some (.delivery ⟨body, .looking⟩) =>
          (state.tracker.byId.lookup body.requestId).isSome = true
      | some (.delivery ⟨body, .refreshing⟩)
      | some (.delivery ⟨body, .applying⟩) =>
          ((state.tracker.byId.lookup body.requestId).any fun tracked =>
            tracked.status == .submitted) = true
      | _ => True
  | _ => True

instance (state : TrackerState) : DecidablePred state.Undisturbed := by
  intro action
  unfold Undisturbed
  split
  · split <;> infer_instance
  · infer_instance

/-! ## Deeds -/

variable {state next : TrackerState} {thread : ℕ} {event : Event}

/-- What the step of a thread does, apart from the thread itself. -/
inductive Deed (state : TrackerState) :
    Thread → Option Thread → TrackerState → Prop
  | silent {old : Thread} {new : Option Thread}
      (before : old.Idle) (after : ∀ work ∈ new, work.Idle) :
      Deed state old new state
  /-- CarbonShift accepts a request; its answer arrives, or is lost. -/
  | accepted {old work : Thread} {requestId : ℕ}
      (fresh : requestId ∉ state.accepted)
      (before : old.Idle) (record : work.record = none)
      (adding : ∀ other ∈ work.adding, other = requestId)
      (applied : work.applied = none) :
      Deed state old (some work)
        { state with accepted := state.accepted ++ [requestId] }
  /-- An accepted request is tracked. -/
  | added {old work : Thread} {tracked : TrackedRequest}
      (adding : old.adding = some tracked.requestId)
      (record : old.record = none) (applied : old.applied = none)
      (after : work.Idle) (opened : tracked.status = .submitted) :
      Deed state old (some work)
        (state.withTracker (state.tracker.add tracked))
  /-- An open request is changed, perhaps settled. -/
  | changed {old work : Thread} {requestId : ℕ}
      {tracked changed : TrackedRequest}
      (found : state.tracker.byId.lookup requestId = some tracked)
      (opened : tracked.status = .submitted)
      (same : changed.requestId = tracked.requestId)
      (before : old.Idle) (adding : work.adding = none)
      (record : work.record =
        if changed.status = .submitted then none else some changed.toDict)
      (applied : ∀ body ∈ work.applied,
        body.requestId = requestId ∧ changed.Carries body) :
      Deed state old (some work)
        (state.withTracker (state.tracker.update requestId fun _ => changed))
  /-- A sweep writes a line. -/
  | persisted {old work : Thread} {record : MetricsRecord}
      (writing : old.record = some record) (adding : old.adding = none)
      (applied : old.applied = none) (after : work.Idle) :
      Deed state old (some work)
        (state.withTracker (state.tracker.persist record))
  /-- A callback writes its line. -/
  | delivered {body : CallerCallbackPayload} {record : MetricsRecord} :
      Deed state (.delivery ⟨body, .persisting record⟩) none
        ((state.withTracker (state.tracker.persist record)).answer body true)

/-- What an undisturbed action does. -/
inductive Move (state : TrackerState) : TrackerState → Prop
  | started {thread : ℕ} {work : Thread}
      (fresh : thread ∉ state.threads) (idle : work.Idle) :
      Move state { state with threads := state.threads.insert thread work }
  | proceeded {thread : ℕ} {old : Thread} {new : Option Thread}
      {after : TrackerState}
      (found : state.threads.lookup thread = some old)
      (deed : Deed state old new after) :
      Move state (after.goOn thread new)

theorem accept_eq_some {requestId : ℕ}
    (taken : state.accept requestId = some next) :
    requestId ∉ state.accepted ∧
      next = { state with accepted := state.accepted ++ [requestId] } := by
  unfold accept at taken
  split at taken
  · cases taken
  · rename_i fresh
    exact ⟨fresh, (Option.some.inj taken).symm⟩

theorem start_eq_some {work : Thread}
    (taken : state.start thread work = some next) :
    thread ∉ state.threads ∧
      next = { state with threads := state.threads.insert thread work } := by
  unfold start at taken
  split at taken
  · cases taken
  · rename_i fresh
    exact ⟨fresh, (Option.some.inj taken).symm⟩

theorem idle_submitting {batch : SlotBatch} {remaining : List PlanRequest}
    {submitted : ℕ} :
    (Thread.sender ⟨batch, remaining, submitted, .submitting⟩).Idle :=
  ⟨rfl, rfl, rfl⟩

/-- A submission of a sender. -/
theorem submit_deed {batch : SlotBatch} {request : PlanRequest}
    {rest : List PlanRequest} {submitted : ℕ} {submittedAt : ℤ}
    {outcome : SubmitOutcome}
    (taken : state.senderStep thread
      ⟨batch, request :: rest, submitted, .submitting⟩
      (.submitted submittedAt outcome) = some next) :
    ∃ new after,
      Deed state (.sender ⟨batch, request :: rest, submitted, .submitting⟩)
          new after ∧
        next = after.goOn thread new := by
  cases outcome with
  | refused =>
      cases taken
      refine ⟨_, state, .silent idle_submitting ?_, rfl⟩
      rintro _ ⟨⟩
      exact idle_submitting
  | lost requestId =>
      obtain ⟨accepted, granted, rfl⟩ := Option.map_eq_some_iff.mp taken
      obtain ⟨fresh, rfl⟩ := accept_eq_some granted
      refine ⟨_, _, .accepted fresh idle_submitting rfl ?_ rfl, rfl⟩
      rintro other ⟨⟩
  | answered ack =>
      obtain ⟨accepted, granted, rfl⟩ := Option.map_eq_some_iff.mp taken
      obtain ⟨fresh, rfl⟩ := accept_eq_some granted
      refine ⟨_, _, .accepted fresh idle_submitting rfl ?_ rfl, rfl⟩
      rintro other ⟨⟩
      rfl

theorem senderStep_deed {sending : Sender}
    (taken : state.senderStep thread sending event = some next) :
    ∃ new after,
      Deed state (.sender sending) new after ∧
        next = after.goOn thread new := by
  obtain ⟨batch, remaining, submitted, phase⟩ := sending
  cases phase with
  | submitting =>
      cases remaining with
      | nil =>
          cases event <;> cases taken
          exact ⟨none, state, .silent idle_submitting (by simp), rfl⟩
      | cons request rest =>
          cases event with
          | submitted submittedAt outcome => exact submit_deed taken
          | resumed => cases taken
          | clock now => cases taken
          | status reply => cases taken
  | adding request submittedAt ack =>
      cases event <;> cases taken
      rename_i now
      have tracks : Deed state
          (.sender ⟨batch, remaining, submitted,
            .adding request submittedAt ack⟩)
          (some (.sender ⟨batch, remaining, submitted + 1, .submitting⟩))
          (state.withTracker (state.tracker.add
            (batch.track request submittedAt ack now))) :=
        .added rfl rfl rfl idle_submitting rfl
      exact ⟨_, _, tracks, rfl⟩

/-- An undisturbed callback that writes finds its request open. -/
theorem exists_open_of_any {requestId : ℕ}
    (undisturbed : ((state.tracker.byId.lookup requestId).any fun tracked =>
      tracked.status == .submitted) = true) :
    ∃ tracked, state.tracker.byId.lookup requestId = some tracked ∧
      tracked.status = .submitted := by
  cases found : state.tracker.byId.lookup requestId with
  | none =>
      rw [found] at undisturbed
      cases undisturbed
  | some tracked =>
      rw [found] at undisturbed
      exact ⟨tracked, rfl, eq_of_beq undisturbed⟩

theorem deliveryStep_deed {delivering : Delivery}
    (found : state.threads.lookup thread = some (.delivery delivering))
    (undisturbed : state.Undisturbed (.proceed thread event))
    (taken : state.deliveryStep thread delivering event = some next) :
    ∃ new after,
      Deed state (.delivery delivering) new after ∧
        next = after.goOn thread new := by
  obtain ⟨body, phase⟩ := delivering
  simp only [Undisturbed, found] at undisturbed
  cases phase with
  | looking =>
      obtain ⟨tracked, known⟩ := Option.isSome_iff_exists.mp undisturbed
      cases event <;> simp only [deliveryStep, known, reduceCtorEq] at taken
      cases taken
      refine ⟨_, state, .silent ⟨rfl, rfl, rfl⟩ ?_, rfl⟩
      rintro _ ⟨⟩
      split <;> exact ⟨rfl, rfl, rfl⟩
  | refreshing =>
      obtain ⟨tracked, known, opened⟩ := exists_open_of_any undisturbed
      cases event with
      | status reply =>
          cases reply with
          | none =>
              cases taken
              refine ⟨_, state, .silent ⟨rfl, rfl, rfl⟩ ?_, rfl⟩
              rintro _ ⟨⟩
              exact ⟨rfl, rfl, rfl⟩
          | some freshAck =>
              cases taken
              have still : (tracked.refreshAck freshAck).status =
                  .submitted := opened
              have deed : Deed state (.delivery ⟨body, .refreshing⟩)
                  (some (.delivery ⟨body, .applying⟩))
                  (state.withTracker (state.tracker.update body.requestId
                    fun _ => tracked.refreshAck freshAck)) :=
                .changed known opened rfl ⟨rfl, rfl, rfl⟩ rfl
                  (if_pos still).symm (by rintro _ ⟨⟩)
              refine ⟨_, _, deed, ?_⟩
              unfold RequestTracker.update
              rw [OrderedDictionary.adjust_eq_of_lookup known]
      | resumed => cases taken
      | clock now => cases taken
      | submitted submittedAt outcome => cases taken
  | applying =>
      obtain ⟨tracked, known, opened⟩ := exists_open_of_any undisturbed
      cases event <;>
        simp only [deliveryStep, known, Option.map_some, reduceCtorEq]
          at taken
      cases taken
      rename_i now
      have carries := tracked.carries_applyCallback body now
      have deed : Deed state (.delivery ⟨body, .applying⟩)
          (some (.delivery ⟨body,
            .persisting (tracked.applyCallback body now).toDict⟩))
          (state.withTracker (state.tracker.update body.requestId
            fun _ => tracked.applyCallback body now)) := by
        refine .changed known opened rfl ⟨rfl, rfl, rfl⟩ rfl
          (if_neg carries.not_submitted).symm ?_
        rintro _ ⟨⟩
        exact ⟨rfl, carries⟩
      exact ⟨_, _, deed, rfl⟩
  | persisting record =>
      cases event <;> cases taken
      exact ⟨_, _, .delivered, rfl⟩

theorem status_claimStatusCheck {tracked claimed : TrackedRequest} {now : ℤ}
    (granted : tracked.claimStatusCheck now = some claimed) :
    tracked.status = .submitted ∧ claimed.status = .submitted ∧
      claimed.requestId = tracked.requestId := by
  unfold TrackedRequest.claimStatusCheck at granted
  split at granted
  · cases granted
  · rename_i opened
    split at granted
    · cases granted
    · cases granted
      exact ⟨not_not.mp opened, not_not.mp opened, rfl⟩

theorem requestId_mergeStatus (tracked : TrackedRequest)
    (reply : Option Ack) :
    (tracked.mergeStatus reply).requestId = tracked.requestId := by
  unfold TrackedRequest.mergeStatus
  cases reply with
  | none => rfl
  | some fresh =>
      dsimp only
      split
      · rfl
      · split <;> rfl

theorem requestId_reconcile (tracker : RequestTracker) (now : ℤ)
    (reply : Option Ack) (tracked : TrackedRequest) :
    (tracker.reconcile now reply tracked).requestId = tracked.requestId := by
  unfold RequestTracker.reconcile
  dsimp only
  split <;> exact requestId_mergeStatus tracked reply

theorem idle_visiting {now : ℤ} {remaining : List ℕ} :
    (Thread.sweep ⟨now, remaining, .visiting⟩).Idle :=
  ⟨rfl, rfl, rfl⟩

/-- A sweep looks at its next request. -/
theorem visit_deed {now : ℤ} {requestId : ℕ} {rest : List ℕ}
    (taken : state.sweepStep thread ⟨now, requestId :: rest, .visiting⟩
      .resumed = some next) :
    ∃ new after,
      Deed state (.sweep ⟨now, requestId :: rest, .visiting⟩) new after ∧
        next = after.goOn thread new := by
  obtain ⟨tracked, known, after⟩ := Option.map_eq_some_iff.mp taken
  have passed : Deed state (.sweep ⟨now, requestId :: rest, .visiting⟩)
      (some (.sweep ⟨now, rest, .visiting⟩)) state := by
    refine .silent idle_visiting ?_
    rintro _ ⟨⟩
    exact idle_visiting
  split at after
  · exact ⟨_, state, passed, after.symm⟩
  · split at after
    · exact ⟨_, state, passed, after.symm⟩
    · rename_i claimed granted
      obtain ⟨opened, still, same⟩ := status_claimStatusCheck granted
      exact ⟨_, _, .changed known opened same idle_visiting rfl
        (if_pos still).symm (by rintro _ ⟨⟩), after.symm⟩

/-- A sweep has asked for the status of a request. -/
theorem check_deed {now : ℤ} {requestId : ℕ} {rest : List ℕ}
    {reply : Option Ack}
    (taken : state.sweepStep thread ⟨now, rest, .checking requestId⟩
      (.status reply) = some next) :
    ∃ new after,
      Deed state (.sweep ⟨now, rest, .checking requestId⟩) new after ∧
        next = after.goOn thread new := by
  have idle : (Thread.sweep ⟨now, rest, .checking requestId⟩).Idle :=
    ⟨rfl, rfl, rfl⟩
  cases rest <;>
    obtain ⟨tracked, known, after⟩ := Option.map_eq_some_iff.mp taken
  all_goals
    split at after
    · refine ⟨_, state, .silent idle ?_, after.symm⟩
      rintro _ ⟨⟩
      exact idle_visiting
    · rename_i opened
      refine ⟨_, _, .changed known (not_not.mp opened)
        (requestId_reconcile state.tracker now reply tracked) idle ?_ ?_ ?_,
        after.symm⟩
      · split <;> rfl
      · split <;> rfl
      · intro body
        split <;> rintro ⟨⟩

theorem sweepStep_deed {sweeping : Sweep}
    (taken : state.sweepStep thread sweeping event = some next) :
    ∃ new after,
      Deed state (.sweep sweeping) new after ∧
        next = after.goOn thread new := by
  obtain ⟨now, remaining, phase⟩ := sweeping
  cases phase with
  | visiting =>
      cases remaining with
      | nil =>
          cases event <;> cases taken
          exact ⟨none, state, .silent idle_visiting (by simp), rfl⟩
      | cons requestId rest =>
          cases event with
          | resumed => exact visit_deed taken
          | clock now => cases taken
          | submitted submittedAt outcome => cases taken
          | status reply => cases taken
  | checking requestId =>
      cases event with
      | status reply => exact check_deed taken
      | resumed => cases remaining <;> cases taken
      | clock now => cases remaining <;> cases taken
      | submitted submittedAt outcome => cases remaining <;> cases taken
  | persisting record =>
      cases remaining <;> cases event <;> cases taken <;>
        exact ⟨_, _, .persisted rfl rfl rfl idle_visiting, rfl⟩

/-- Every undisturbed step is one of the moves. -/
theorem step_move {action : TrackerAction}
    (undisturbed : state.Undisturbed action)
    (taken : state.step action = some next) : Move state next := by
  cases action with
  | sendSlotBatch thread batch requests =>
      obtain ⟨fresh, rfl⟩ := start_eq_some taken
      exact .started fresh idle_submitting
  | onCallback thread body =>
      by_cases accepted : body.requestId ∈ state.accepted
      · rw [step, if_pos accepted] at taken
        obtain ⟨fresh, rfl⟩ := start_eq_some taken
        exact .started fresh ⟨rfl, rfl, rfl⟩
      · rw [step, if_neg accepted] at taken
        cases taken
  | sweepTimeouts thread now =>
      obtain ⟨fresh, rfl⟩ := start_eq_some taken
      exact .started fresh idle_visiting
  | proceed thread event =>
      cases found : state.threads.lookup thread with
      | none =>
          simp only [step, found, reduceCtorEq] at taken
      | some work =>
          simp only [step, found] at taken
          have deed : ∃ new after,
              Deed state work new after ∧ next = after.goOn thread new := by
            cases work with
            | sender sending => exact senderStep_deed taken
            | delivery delivering =>
                exact deliveryStep_deed found undisturbed taken
            | sweep sweeping => exact sweepStep_deed taken
          obtain ⟨new, after, done, rfl⟩ := deed
          exact .proceeded found done

end TrackerState

end Client

end Carbonshift
