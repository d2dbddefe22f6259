import Carbonshift.Provider.LatchRuns
import Carbonshift.Provider.RolloverRuns

/-!
# Rollovers under retries

The close moves the provider only when CarbonShift is in its slot, so a
rollover starts with all clocks in step.  As long as no clock is told twice,
they are in step again when everybody has confirmed.
-/

namespace Carbonshift

namespace Provider

namespace Deployment

variable {σ : Type} {setup : Setup}

namespace Coupled

variable {deployment : Deployment setup σ} {id : ℕ} {advance : Advance}
variable {peer : Peer} {rest : List Peer} {fate : Fate}

/-- CarbonShift is asked to close the slot. -/
theorem post_close (coupled : Coupled deployment)
    (pending : advance.fanout.pending = peer :: rest)
    (synced : deployment.provider.globals.desynced = none)
    (notifies : advance.request.notifyPeers = true)
    (stage : Preparing setup.provider setup.source setup.iso
      deployment.provider.globals.clock advance)
    {results : List DeliveryResult} (named : advance.stage = .close results)
    (follows : deployment.carbonshift.AtSlot deployment.slot →
      ExecutorAt setup.provider deployment.slot deployment.executor) :
    Coupled (posted setup deployment id advance peer fate) := by
  have addressed : peer = closePeer (carbonshiftPeer setup.provider) ∧
      advance.message = .close
        ⟨deployment.provider.globals.clock.currentSlot,
          setup.provider.grid.slotMinutes⟩ := by
    cases stage with
    | consumers open_ => cases named
    | producers results open_ => cases named
    | close results counted =>
        exact ⟨(List.cons.inj pending).1.symm, rfl⟩
  obtain ⟨rfl, message⟩ := addressed
  have sent := @transmit_close σ setup deployment
    ⟨deployment.provider.globals.clock.currentSlot,
      setup.provider.grid.slotMinutes⟩ fate coupled.behind.clocked.ticking
  rw [← message] at sent
  obtain ⟨same, closes⟩ := sent
  unfold posted
  dsimp only
  rw [same]
  rcases @resume_preparing setup.provider setup.source setup.iso
      deployment.provider.globals advance
      (transmit setup (closePeer (carbonshiftPeer setup.provider))
        advance.message fate deployment).1 stage notifies with
    quiet | ⟨⟨payload, _, _, _, confirms⟩, moves⟩
  · refine .of_quiet quiet coupled.behind coupled.reported
      coupled.consistent_answered (fun _ _ => follows) ?_
    intro next posts
    obtain ⟨request_eq, preparing⟩ := quiet.posting next posts
    refine ⟨synced, by rw [request_eq]; exact notifies, ?_⟩
    rcases resume_close stage named notifies posts with stays | rolling
    · exact .close results preparing (stays.trans named) follows
    · cases rolling
      cases preparing
  · have here := closes confirms
    obtain ⟨next, posts, request_eq, rolling, order, once⟩ := moves.rolls
    have before : ∀ other response,
        (other, .advanced response) ∈ deployment.provider.answered →
          response.currentSlot <
            deployment.provider.globals.clock.currentSlot + 1 :=
      fun other response member =>
        Int.lt_add_one_of_le (coupled.reported other response member)
    have fresh : retrying (Service.proceed setup.provider id
        (resume setup.provider setup.source setup.iso advance
          (transmit setup (closePeer (carbonshiftPeer setup.provider))
            advance.message fate deployment).1 deployment.provider.globals)
        deployment.provider) = false := by
      rw [Service.proceed, posts, retrying]
      dsimp only
      rw [Option.any_some, once]
      rfl
    rw [fresh, Bool.false_and]
    refine .of_proceed ?_ ?_ ?_ ?_ ?_
    · rw [moves.clock_eq, ProviderClock.currentSlot_advance]
      exact coupled.behind.succ
    · rw [moves.clock_eq, ProviderClock.currentSlot_advance]
      exact fun other response member => (before other response member).le
    · rw [moves.clock_eq, ProviderClock.currentSlot_advance]
      intro other response member _ reached
      exact absurd reached (before other response member).ne
    · intro answer ended
      rw [posts] at ended
      cases ended
    · intro other started
      rw [posts] at started
      cases started
      rw [moves.desynced_eq, moves.clock_eq]
      refine ⟨synced, by rw [request_eq]; exact notifies, ?_⟩
      refine .rolling rolling ?_ ?_ ?_ ?_
      · rw [order]
        exact fun peer => (List.perm_insertionSort _ _).mem_iff.mp
      · rw [order]
        exact nodup_notifyOrder setup.provider
      · rw [order, ProviderClock.currentSlot_advance]
        exact .first here (follows here) fun peer =>
          (List.perm_insertionSort _ _).mem_iff.mpr
      · rw [ProviderClock.currentSlot_advance]
        exact before

/-- A peer is told of the slot that was entered. -/
theorem post_rolling (coupled : Coupled deployment)
    (holding : deployment.provider.holder = some (id, advance))
    (pending : advance.fanout.pending = peer :: rest)
    (slots : WholeSlots setup.carbonshift)
    (synced : deployment.provider.globals.desynced = none)
    (notifies : advance.request.notifyPeers = true)
    (stage : Rolling setup.provider setup.source setup.iso
      deployment.provider.globals.clock advance)
    (listed : ∀ peer ∈ advance.fanout.pending,
      peer ∈ peersFromSettings setup.provider)
    (distinct : advance.fanout.pending.Nodup)
    (entering : Entering setup deployment.slot advance.fanout.pending
      deployment.confirmedUnheard deployment.carbonshift deployment.executor)
    (unreported : ∀ other response,
      (other, .advanced response) ∈ deployment.provider.answered →
        response.currentSlot < deployment.slot)
    (permitted : permits deployment (.post fate) = true) :
    Coupled (posted setup deployment id advance peer fate) := by
  have message : ∃ body, advance.message = .tick body ∧
      body.currentSlot = some deployment.slot ∧ body.kind ≠ "announce" := by
    cases stage
    exact ⟨_, rfl, rfl, by change "rollover" ≠ "announce"; decide⟩
  obtain ⟨body, message, named, rolls⟩ := message
  have next := nextPost_of_held holding pending
  rw [message] at next
  rw [pending] at distinct entering listed
  have sent := entering.transmit coupled.behind.clocked slots
    (listed peer List.mem_cons_self) named rolls next permitted
  rw [← message] at sent
  obtain ⟨clocked, enters, heard⟩ := sent
  have behind := Behind.of_entering enters clocked coupled.behind.low
  have others : ∀ other response,
      (other, .advanced response) ∈ deployment.provider.answered →
        response.allOk = true → response.currentSlot = deployment.slot →
          InStep setup deployment.slot
            (transmit setup peer advance.message fate
              deployment).2.1.carbonshift
            (transmit setup peer advance.message fate
              deployment).2.1.executor :=
    fun other response member _ here =>
      absurd here (unreported other response member).ne
  have effect : RollingEffect setup.source setup.iso advance
      (transmit setup peer advance.message fate deployment).1
      deployment.provider.globals
      (resume setup.provider setup.source setup.iso advance
        (transmit setup peer advance.message fate deployment).1
        deployment.provider.globals) := resume_rolling stage notifies
  unfold posted
  dsimp only
  generalize resume setup.provider setup.source setup.iso advance
    (transmit setup peer advance.message fate deployment).1
    deployment.provider.globals = handled at effect ⊢
  cases effect with
  | @retried silent after request_eq rolling pending_eq again =>
      have retries : retrying (Service.proceed setup.provider id
          (deployment.provider.globals, .posting after)
          deployment.provider) = true := by
        rw [Service.proceed, retrying]
        exact decide_eq_true again
      rw [retries, Bool.true_and]
      refine .of_proceed behind coupled.reported others
        (fun answer same => by cases same) ?_
      intro other same
      cases same
      refine ⟨synced, by rw [request_eq]; exact notifies, ?_⟩
      refine .rolling rolling ?_ ?_ ?_ unreported
      · rw [pending_eq, pending]
        exact listed
      · rw [pending_eq, pending]
        exact distinct
      · rw [pending_eq, pending]
        exact enters
  | failed silent report =>
      refine .of_proceed behind coupled.reported others ?_
        (fun after same => by cases same)
      intro answer same
      cases same
      refine ⟨fun none_ => ?_, fun response same => ?_⟩
      · rw [markDesynced] at none_
        cases none_
      · cases same
  | @confirmed first remaining split confirms after request_eq rolling
      pending_eq once =>
      rw [pending] at split
      obtain ⟨rfl, rfl⟩ := List.cons.inj split
      rw [heard confirms, Bool.or_true] at enters
      have moved := enters.heard distinct
      have fresh : retrying (Service.proceed setup.provider id
          (deployment.provider.globals, .posting after)
          deployment.provider) = false := by
        rw [Service.proceed, retrying]
        dsimp only
        rw [Option.any_some, once]
        rfl
      rw [fresh, Bool.false_and]
      refine .of_proceed behind coupled.reported others
        (fun answer same => by cases same) ?_
      intro other same
      cases same
      refine ⟨synced, by rw [request_eq]; exact notifies, ?_⟩
      refine .rolling rolling ?_ ?_ ?_ unreported
      · rw [pending_eq]
        exact fun other member => listed other (List.mem_cons_of_mem _ member)
      · rw [pending_eq]
        exact (List.nodup_cons.mp distinct).2
      · rw [pending_eq]
        exact moved
  | @completed first split confirms response entered =>
      rw [pending] at split
      obtain ⟨rfl, rfl⟩ := List.cons.inj split
      rw [heard confirms, Bool.or_true] at enters
      have moved := enters.heard distinct
      have inStep : InStep setup deployment.slot
          (transmit setup peer advance.message fate deployment).2.1.carbonshift
          (transmit setup peer advance.message fate
            deployment).2.1.executor := by
        refine ⟨?_, ?_⟩
        · have here := moved.carbonshift
          rwa [shownSlot_of_absent List.not_mem_nil] at here
        · have there := moved.executor
          rwa [shownSlot_of_absent List.not_mem_nil] at there
      refine .of_proceed behind coupled.reported others ?_
        (fun after same => by cases same)
      intro answer same
      cases same
      refine ⟨fun _ _ _ => inStep.executor, fun given same => ?_⟩
      cases same
      exact ⟨entered, fun _ => inStep⟩

/-- The next post of the request that holds the lock. -/
theorem post (coupled : Coupled deployment)
    (slots : WholeSlots setup.carbonshift)
    (permitted : permits deployment (.post fate) = true)
    {next : Deployment setup σ}
    (taken : Deployment.step setup deployment (.post fate) = some next) :
    Coupled next := by
  obtain ⟨id, advance, peer, rest, holding, pending, rfl⟩ := post_cases taken
  obtain ⟨synced, notifies, doing⟩ := coupled.held id advance holding
  cases doing with
  | consumers stage named first asks =>
      exact coupled.post_consumers pending synced notifies stage named first
        asks
  | producers results stage named first there =>
      exact coupled.post_producers synced notifies stage named first there
  | close results stage named follows =>
      exact coupled.post_close pending synced notifies stage named follows
  | rolling stage listed distinct entering unreported =>
      exact coupled.post_rolling holding pending slots synced notifies stage
        listed distinct entering unreported permitted

/-- What CarbonShift does on its own leaves its clock alone. -/
theorem of_sameTime (coupled : Coupled deployment) {state : AppState σ}
    (same : deployment.carbonshift.SameTime state) :
    Coupled { deployment with carbonshift := state } := by
  obtain ⟨slot_eq, elapsed_eq, offset_eq⟩ := same
  have atSlot : ∀ slot, state.AtSlot slot ↔
      deployment.carbonshift.AtSlot slot := by
    intro slot
    rw [AppState.AtSlot, AppState.AtSlot, slot_eq, offset_eq]
  have inStep : ∀ slot,
      InStep setup slot deployment.carbonshift deployment.executor →
        InStep setup slot state deployment.executor :=
    fun slot inStep => ⟨(atSlot slot).mpr inStep.carbonshift, inStep.executor⟩
  have ticking := coupled.behind.clocked.ticking
  refine
    { behind :=
        { clocked := ⟨⟨?_, ?_, ?_, ?_⟩, coupled.behind.clocked.sameLength⟩
          low := coupled.behind.low
          unknown := ?_
          notAhead := ?_ }
      reported := coupled.reported
      consistent := fun reported => inStep _ (coupled.consistent reported)
      follows := fun free synced later here =>
        coupled.follows free synced later ((atSlot _).mp here)
      held := fun id advance holding => ?_ }
  · rw [slot_eq]
    exact ticking.nonneg
  · rw [slot_eq]
    exact ticking.inside
  · rw [elapsed_eq, slot_eq]
    exact ticking.elapsed
  · rw [offset_eq]
    exact ticking.offset
  · rw [offset_eq, slot_eq]
    exact coupled.behind.unknown
  · rw [offset_eq, slot_eq]
    exact coupled.behind.notAhead
  · obtain ⟨synced, notifies, doing⟩ := coupled.held id advance holding
    refine ⟨synced, notifies, ?_⟩
    cases doing with
    | consumers stage named first asks =>
        exact .consumers stage named first asks
    | producers results stage named first there =>
        exact .producers results stage named first there
    | close results stage named follows =>
        exact .close results stage named fun here =>
          follows ((atSlot _).mp here)
    | rolling stage listed distinct entering unreported =>
        exact .rolling stage listed distinct
          ⟨(atSlot _).mpr entering.carbonshift, entering.executor⟩ unreported

/-- What the main loop has read does not matter. -/
theorem of_reading (coupled : Coupled deployment) (reading : Option ℕ) :
    Coupled { deployment with loopReading := reading } where
  behind := coupled.behind
  reported := coupled.reported
  consistent := coupled.consistent
  follows := coupled.follows
  held := coupled.held

/-- Every permitted step keeps the clocks coupled. -/
theorem step (coupled : Coupled deployment)
    (slots : WholeSlots setup.carbonshift) {action : Action σ}
    (permitted : permits deployment action = true)
    {next : Deployment setup σ}
    (taken : Deployment.step setup deployment action = some next) :
    Coupled next := by
  cases action with
  | receive id request =>
      obtain ⟨provider, received, rfl⟩ := Option.map_eq_some_iff.mp taken
      rw [Service.step] at received
      split at received
      · cases received
      · cases received
        exact coupled.receive id request
  | enter index =>
      obtain ⟨provider, entered, rfl⟩ := Option.map_eq_some_iff.mp taken
      rw [Service.step] at entered
      split at entered
      · rename_i id request free entering
        cases entered
        cases notifies : request.notifyPeers with
        | true => exact coupled.enter_notified free notifies _ false
        | false => exact coupled.enter_unnotified free notifies _ false
      · cases entered
  | post fate => exact coupled.post slots permitted taken
  | readClock =>
      rw [Deployment.step] at taken
      split at taken
      · cases taken
        exact coupled.of_reading _
      · cases taken
  | storeSlot =>
      obtain ⟨elapsedMs, read, rfl⟩ := Option.map_eq_some_iff.mp taken
      have fresh : slotOfClock setup.carbonshift elapsedMs =
          slotOfClock setup.carbonshift
            deployment.carbonshift.virtualElapsedMs := by
        simpa [permits, storesStale, read] using permitted
      have current := coupled.behind.clocked.ticking.slotOfClock_eq slots
      have same : deployment.carbonshift.SameTime
          (deployment.carbonshift.withShared
            (deployment.carbonshift.engine.shared.setCurrentSlot
              (slotOfClock setup.carbonshift elapsedMs))) :=
        ⟨fresh.trans current, rfl, rfl⟩
      exact (coupled.of_sameTime same).of_reading none
  | work state =>
      rw [Deployment.step] at taken
      split at taken
      · rename_i same
        cases taken
        exact coupled.of_sameTime same
      · cases taken

end Coupled

/-- All services have just started. -/
theorem coupled_start (slots : WholeSlots setup.carbonshift) {instant : ℤ}
    (low : -2 ^ 31 ≤
      (ProviderClock.startAt setup.provider.grid instant).currentSlot)
    (carbonForecast : List ℚ) (startedAt : ℤ)
    {executor : Executor.VirtualClock}
    (sameLength : HasExecutor setup.provider →
      timedelta executor.slotMinutes = setup.provider.grid.delta) :
    Coupled (start setup instant carbonForecast startedAt executor :
      Deployment setup σ) where
  behind :=
    { clocked :=
        ⟨AppState.ticking_new slots carbonForecast startedAt, sameLength⟩
      low := low
      unknown := fun _ => rfl
      notAhead := fun _ known => by cases known }
  reported _ _ member := absurd member List.not_mem_nil
  consistent := by
    rintro ⟨_, _, member, _⟩
    exact absurd member List.not_mem_nil
  follows _ _ later := absurd rfl later
  held _ _ holding := by cases holding

/-- In every run that tells no clock twice and stores no stale slot, a rollover
that was reported all ok leaves the clocks in step. -/
theorem rollover_consistent_of_run {instant : ℤ} {carbonForecast : List ℚ}
    {startedAt : ℤ} {executor : Executor.VirtualClock}
    {actions : List (Action σ)} {deployment : Deployment setup σ}
    (slots : WholeSlots setup.carbonshift)
    (low : -2 ^ 31 ≤
      (ProviderClock.startAt setup.provider.grid instant).currentSlot)
    (sameLength : HasExecutor setup.provider →
      timedelta executor.slotMinutes = setup.provider.grid.delta)
    (guarded : Transition.Guarded (step setup)
      (fun deployment action => permits deployment action = true)
      (start setup instant carbonForecast startedAt executor) actions)
    (reached : Transition.run (step setup)
      (start setup instant carbonForecast startedAt executor) actions =
        some deployment) :
    deployment.Consistent := by
  have coupled := Transition.guarded_induction
    (fun _ (deployment : Deployment setup σ) => Coupled deployment)
    (coupled_start slots low carbonForecast startedAt sameLength)
    (fun _ _ _ _ before permitted taken => before.step slots permitted taken)
    guarded reached
  exact coupled.consistent

/-! ## A lost response -/

/-- Half-hour slots for the provider, CarbonShift and the executor. -/
def halfHourSetup : Setup where
  provider := { oneClient with executorUrl := "http://executor:8001" }
  source := steadySource
  iso := halfHourForms
  carbonshift :=
    { AppState.manualSettings with effectiveSlotDurationSecs := 1800 }
  runtime :=
    { AppState.epochOnly with
      parseRfc3339 := fun text =>
        (halfHourForms.fromisoformat text).map fun instant => instant * 1000 }
  showFloat value := toString value.floor

def halfHourExecutor : Executor.VirtualClock where
  manual := true
  slotMinutes := 30
  virtualNow := 0

def halfHourRun (actions : List (Action Unit)) :
    Option (Deployment halfHourSetup Unit) :=
  Transition.run (step halfHourSetup)
    (start halfHourSetup 1577836800000000 [100, 100] 0 halfHourExecutor) actions

/-- What a run ends with: the slots that were reported all ok, the slot of the
provider, and the clocks. -/
def outcome (deployment : Deployment halfHourSetup Unit) :
    List ℤ × ℤ × Option ℤ × ℤ × ℤ :=
  (deployment.provider.answered.filterMap fun answer =>
      match answer.2 with
      | .advanced response =>
          if response.allOk then some response.currentSlot else none
      | _ => none,
    deployment.slot, deployment.carbonshift.slotEpochOffset,
    deployment.carbonshift.currentSlot, deployment.executor.virtualNow)

/-- The announcement and the close of the first slot; an answer of CarbonShift
is lost, and so is a post to the executor. -/
def firstSlotActions : List (Action Unit) :=
  [.receive 1 { expectSlot := some 0, notifyPeers := true },
    .enter 0,
    .post (.responseLost "timed out"),
    .post (.answered (confirming "current_slot" 0)),
    .post (.requestLost "connection refused"),
    .post (.answered (confirming "current_time" 0)),
    .post (.answered (confirming "slot" 0)),
    .readClock,
    .storeSlot,
    .post (.answered (confirming "current_slot" 0))]

/-- A rollover with a lost request and a lost answer of the client. -/
def retriedRollover : List (Action Unit) :=
  firstSlotActions ++
    [.post (.requestLost "connection refused"),
      .post (.answered (confirming "current_slot" 1)),
      .readClock,
      .storeSlot,
      .post (.answered (confirming "current_time" 1)),
      .post (.responseLost "timed out"),
      .post (.answered (confirming "slot" 1))]

/-- A rollover that CarbonShift has entered when its answer is lost. -/
def repeatedRollover : List (Action Unit) :=
  firstSlotActions ++
    [.post (.responseLost "timed out"),
      .post (.answered (confirming "current_slot" 1)),
      .post (.answered (confirming "current_time" 1)),
      .post (.answered (confirming "slot" 1))]

theorem reportedOk_of_outcome {deployment : Deployment halfHourSetup Unit}
    (reported : deployment.slot ∈ (outcome deployment).1) :
    deployment.ReportedOk := by
  obtain ⟨⟨id, answer⟩, member, found⟩ := List.mem_filterMap.mp reported
  cases answer with
  | advanced response =>
      dsimp only at found
      split at found
      · rename_i ok
        exact ⟨id, response, member, ok, Option.some.inj found⟩
      · cases found
  | conflict detail => cases found
  | refusedDesynced report => cases found
  | announcementFailed deliveries => cases found
  | slotCloseFailed slot deliveries => cases found
  | desynced report => cases found
  | noCarbonshiftPeer => cases found

/-- The retry moves CarbonShift again, and all peers are reported ok. -/
theorem repeated_rollover_advances_twice :
    ∃ deployment, halfHourRun repeatedRollover = some deployment ∧
      deployment.ReportedOk ∧ deployment.slot = 1 ∧
        deployment.carbonshift.slotEpochOffset = some 0 ∧
          deployment.carbonshift.currentSlot = 2 ∧ ¬ deployment.Consistent := by
  have ends : (halfHourRun repeatedRollover).map outcome =
      some ([1], 1, some 0, 2, 1577838600000000) := by
    decide +kernel
  obtain ⟨deployment, ran, same⟩ := Option.map_eq_some_iff.mp ends
  simp only [outcome, Prod.mk.injEq] at same
  obtain ⟨reported, slot_eq, offset_eq, current_eq, _⟩ := same
  have ok : deployment.ReportedOk := by
    refine reportedOk_of_outcome ?_
    rw [outcome, reported, slot_eq]
    exact List.mem_cons_self
  refine ⟨deployment, ran, ok, slot_eq, offset_eq, current_eq, ?_⟩
  intro consistent
  obtain ⟨offset, known, here⟩ := (consistent ok).carbonshift
  rw [offset_eq] at known
  cases known
  rw [current_eq, slot_eq] at here
  omega

theorem wholeSlots_halfHour : WholeSlots halfHourSetup.carbonshift where
  eighths := ⟨14400, by decide +kernel⟩
  horizon := by decide +kernel
  narrow := by decide +kernel

/-- Requests may be lost, and answers to announcements and of clients. -/
theorem rollover_consistent_of_run_retried :
    ∃ deployment, halfHourRun retriedRollover = some deployment ∧
      deployment.ReportedOk ∧ deployment.Consistent ∧
        deployment.carbonshift.currentSlot = 1 ∧
          deployment.executor.virtualNow = 1577838600000000 := by
  have ends : (halfHourRun retriedRollover).map outcome =
      some ([1], 1, some 0, 1, 1577838600000000) := by
    decide +kernel
  obtain ⟨deployment, ran, same⟩ := Option.map_eq_some_iff.mp ends
  have guarded : Transition.Guarded (step halfHourSetup)
      (fun deployment action => permits deployment action = true)
      (start halfHourSetup 1577836800000000 [100, 100] 0 halfHourExecutor)
      retriedRollover := by
    decide +kernel
  have consistent := rollover_consistent_of_run wholeSlots_halfHour
    (by decide +kernel) (fun _ => by decide +kernel) guarded ran
  simp only [outcome, Prod.mk.injEq] at same
  obtain ⟨reported, slot_eq, _, current_eq, now_eq⟩ := same
  refine ⟨deployment, ran, ?_, consistent, current_eq, now_eq⟩
  refine reportedOk_of_outcome ?_
  rw [outcome, reported, slot_eq]
  exact List.mem_cons_self

end Deployment

end Provider

end Carbonshift
