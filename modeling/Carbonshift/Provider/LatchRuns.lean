import Carbonshift.Provider.LatchInvariant

/-!
# Posts and runs

Every post of the request that holds the lock keeps the latch, so it holds
after every run.
-/

namespace Carbonshift

namespace Provider

section Reports

variable {events other : List Event} {event : Event} {move : Move} {id : ℕ}
variable {response : AdvanceResponse}

theorem Reports.of_movesOf_eq (reports : Reports events id response)
    (same : movesOf other = movesOf events) : Reports other id response := by
  rw [Reports, same]
  exact reports

theorem Reports.concat_moved (reports : Reports events id response)
    (another : move.id ≠ id) :
    Reports (events ++ [.moved move]) id response := by
  obtain ⟨only, filtered, slot⟩ := reports
  refine ⟨only, ?_, slot⟩
  rw [movesOf_concat_moved, List.filter_append, filtered,
    List.filter_cons_of_neg (by simpa using another), List.filter_nil,
    List.append_nil]

/-- A request under which only the last move happened. -/
theorem Reports.of_last {earlier later : List Event}
    (mover : move.id = id) (last : movesOf later = [])
    (unmoved : ∀ other ∈ movesOf earlier, other.id ≠ id)
    (slot : response.currentSlot = move.after) :
    Reports (earlier ++ .moved move :: later) id response := by
  refine ⟨move, ?_, slot⟩
  have none_ : (movesOf earlier).filter (fun move => move.id = id) = [] := by
    rw [List.filter_eq_nil_iff]
    intro other member
    simpa using unmoved other member
  have split : movesOf (.moved move :: later) = move :: movesOf later := rfl
  rw [movesOf_append, List.filter_append, none_, List.nil_append, split, last,
    List.filter_cons_of_pos (by simpa using mover), List.filter_nil]

end Reports

namespace LatchInvariant

section Posts

variable {settings : Settings} {source : CarbonSource} {iso : IsoFormat}
variable {events : List Event} {service : Service settings.grid} {id : ℕ}
variable {advance : Advance} {outcome : PostOutcome}

theorem taken_of_held {grid : SlotGrid} {service : Service grid}
    (holding : service.holder = some (id, advance)) :
    service.taken = id :: service.answered.map Prod.fst := by
  rw [Service.taken, holding]
  rfl

theorem distinct_of_held
    (invariant : LatchInvariant settings source iso events service)
    (holding : service.holder = some (id, advance)) :
    (service.waiting.map Prod.fst ++
      id :: service.answered.map Prod.fst).Nodup := by
  rw [← taken_of_held holding, ← Service.known_eq]
  exact invariant.distinct

/-- The request that holds the lock has not been answered. -/
theorem unanswered_of_held
    (invariant : LatchInvariant settings source iso events service)
    (holding : service.holder = some (id, advance))
    {other : ℕ} {answer : AdvanceAnswer}
    (member : (other, answer) ∈ service.answered) : other ≠ id := by
  rintro rfl
  have distinct := invariant.distinct_of_held holding
  exact (List.nodup_cons.mp (List.nodup_append.mp distinct).2.1).1
    (List.mem_map.mpr ⟨_, member, rfl⟩)

/-- A post that leaves the clock alone, before it moves. -/
theorem post_quiet
    (invariant : LatchInvariant settings source iso events service)
    (holding : service.holder = some (id, advance))
    (synced : service.globals.desynced = none)
    (notifies : advance.request.notifyPeers = true)
    (settled : Settled settings events)
    (expects : ∀ named, advance.request.expectSlot = some named →
      named = service.globals.clock.currentSlot)
    (unmoved : ∀ move ∈ movesOf events, move.id ≠ id)
    (quiet : Quiet source iso advance.request service.globals
      (resume settings source iso advance outcome service.globals)) :
    LatchInvariant settings source iso
      (Service.record settings source iso service (.post outcome) events)
      (Service.proceed settings id
        (resume settings source iso advance outcome service.globals)
        service) := by
  have clock_eq := quiet.clock_eq
  have same : (Service.proceed settings id
      (resume settings source iso advance outcome service.globals)
      service).globals.clock = service.globals.clock := by
    rw [Service.globals_proceed]
    exact clock_eq
  rw [Service.record, Service.happened_post outcome holding,
    Service.movement_of_clock_eq _ same, List.append_nil]
  obtain ⟨recorded, settled', moves_eq⟩ :
      Recorded settings (events ++ service.acknowledgement (.post outcome))
          service.globals.clock.currentSlot ∧
        Settled settings (events ++ service.acknowledgement (.post outcome)) ∧
        movesOf (events ++ service.acknowledgement (.post outcome)) =
          movesOf events := by
    rcases Service.acknowledgement_quiet outcome holding with
      nothing | ⟨event, one, silent⟩
    · rw [nothing, List.append_nil]
      exact ⟨invariant.recorded, settled, rfl⟩
    · rw [one]
      exact ⟨invariant.recorded.concat silent, settled.concat silent,
        movesOf_concat silent⟩
  refine .proceed ?_ invariant.notifies (invariant.distinct_of_held holding)
    ?_ ?_ ?_ ?_
  · rw [clock_eq]
    exact recorded
  · intro move member
    rw [moves_eq] at member
    rw [← taken_of_held holding]
    exact invariant.movers move member
  · intro other response member
    exact (invariant.answered other response member).of_movesOf_eq moves_eq
  · intro answer same
    refine ⟨fun _ => settled', ?_⟩
    rintro response rfl
    cases quiet.answered _ same
  · intro next same
    obtain ⟨request_eq, preparing⟩ := quiet.posting next same
    rw [quiet.desynced_eq, clock_eq, request_eq]
    refine ⟨synced, notifies, .preparing preparing settled' ?_ ?_⟩
    · rw [request_eq]
      exact expects
    · rw [moves_eq]
      exact unmoved

/-- CarbonShift confirms the close, and the clock moves. -/
theorem post_moves
    (invariant : LatchInvariant settings source iso events service)
    (holding : service.holder = some (id, advance))
    (synced : service.globals.desynced = none)
    (notifies : advance.request.notifyPeers = true)
    (settled : Settled settings events)
    (expects : ∀ named, advance.request.expectSlot = some named →
      named = service.globals.clock.currentSlot)
    (unmoved : ∀ move ∈ movesOf events, move.id ≠ id)
    (closes : ClosesBy settings service.globals.clock.currentSlot advance
      outcome)
    (moves : Moves source iso advance.request service.globals
      (resume settings source iso advance outcome service.globals)) :
    LatchInvariant settings source iso
      (Service.record settings source iso service (.post outcome) events)
      (Service.proceed settings id
        (resume settings source iso advance outcome service.globals)
        service) := by
  obtain ⟨next, posts, request_eq, rolling, pending, _⟩ := moves.rolls
  have moved : (Service.proceed settings id
      (resume settings source iso advance outcome service.globals)
      service).globals.clock = service.globals.clock.advance.2 := by
    rw [Service.globals_proceed]
    exact moves.clock_eq
  rw [Service.record, Service.happened_post outcome holding,
    Service.movement_of_advance _ moved,
    Service.acknowledgement_of_closes holding closes, ← List.append_assoc]
  refine .proceed ?_ invariant.notifies (invariant.distinct_of_held holding)
    ?_ ?_ ?_ ?_
  · rw [moves.clock_eq, ProviderClock.currentSlot_advance]
    exact (invariant.recorded.concat rfl).concat_moved (settled.concat rfl)
      (List.mem_append_right _ List.mem_cons_self) rfl rfl expects
  · intro move member
    rw [movesOf_concat_moved, movesOf_concat rfl] at member
    rcases List.mem_append.mp member with earlier | last
    · rw [← taken_of_held holding]
      exact invariant.movers move earlier
    · rw [List.mem_singleton.mp last]
      exact List.mem_cons_self
  · intro other response member
    refine Reports.concat_moved ?_
      (Ne.symm (invariant.unanswered_of_held holding member))
    exact (invariant.answered other response member).of_movesOf_eq
      (movesOf_concat rfl)
  · intro answer same
    rw [posts] at same
    cases same
  · intro other same
    rw [posts] at same
    cases same
    rw [moves.desynced_eq, moves.clock_eq, request_eq]
    refine ⟨synced, notifies, .rolling rolling _ [] _ rfl rfl ?_ rfl ?_
      (settled.concat rfl) ?_⟩
    · exact service.globals.clock.currentSlot_advance.symm
    · rw [movesOf_concat rfl]
      exact unmoved
    · intro peer member
      rw [pending]
      exact Or.inl ((List.perm_insertionSort _ _).mem_iff.mpr member)

/-- A post that leaves the clock alone, after it has moved. -/
theorem post_rolling
    (invariant : LatchInvariant settings source iso events service)
    (holding : service.holder = some (id, advance))
    (synced : service.globals.desynced = none)
    (notifies : advance.request.notifyPeers = true)
    (stage : Rolling settings source iso service.globals.clock advance)
    {earlier later : List Event} {move : Move}
    (split : events = earlier ++ .moved move :: later)
    (mover : move.id = id)
    (entered : move.after = service.globals.clock.currentSlot)
    (last : movesOf later = [])
    (unmoved : ∀ other ∈ movesOf earlier, other.id ≠ id)
    (settled : Settled settings earlier)
    (reached : ∀ peer ∈ peersFromSettings settings,
      peer ∈ advance.fanout.pending ∨ .notified id peer ∈ later) :
    LatchInvariant settings source iso
      (Service.record settings source iso service (.post outcome) events)
      (Service.proceed settings id
        (resume settings source iso advance outcome service.globals)
        service) := by
  have distinct := invariant.distinct_of_held holding
  have movers : ∀ move ∈ movesOf events,
      move.id ∈ id :: service.answered.map Prod.fst := by
    rw [← taken_of_held holding]
    exact invariant.movers
  have effect : RollingEffect source iso advance outcome service.globals
      (resume settings source iso advance outcome service.globals) :=
    resume_rolling stage notifies
  have record_eq : Service.record settings source iso service (.post outcome)
      events = events ++ service.acknowledgement (.post outcome) := by
    rw [Service.record, Service.happened_post outcome holding,
      Service.movement_of_clock_eq _ ?_, List.append_nil]
    rw [Service.globals_proceed]
    exact effect.clock_eq
  rw [record_eq]
  generalize resume settings source iso advance outcome service.globals =
    handled at effect ⊢
  cases effect with
  | retried silent request_eq rolling pending_eq _ =>
      rw [Service.acknowledgement_of_silent holding silent, List.append_nil]
      refine .proceed invariant.recorded invariant.notifies distinct movers
        invariant.answered (fun answer same => by cases same) ?_
      intro next same
      cases same
      rw [request_eq]
      refine ⟨synced, notifies, .rolling rolling earlier later move split mover
        entered last unmoved settled ?_⟩
      rw [pending_eq]
      exact reached
  | failed silent report =>
      rw [Service.acknowledgement_of_silent holding silent, List.append_nil]
      refine .proceed invariant.recorded invariant.notifies distinct movers
        invariant.answered ?_ (fun next same => by cases same)
      intro answer same
      cases same
      refine ⟨fun none_ => ?_, fun response same => ?_⟩
      · rw [markDesynced] at none_
        cases none_
      · cases same
  | @confirmed peer rest pending confirms next request_eq rolling pending_eq
      _ =>
      rw [Service.acknowledgement_of_rolling holding stage pending confirms]
      refine .proceed (invariant.recorded.concat rfl) invariant.notifies
        distinct ?_ ?_ (fun answer same => by cases same) ?_
      · rw [movesOf_concat rfl]
        exact movers
      · intro other response member
        exact (invariant.answered other response member).of_movesOf_eq
          (movesOf_concat rfl)
      · intro other same
        cases same
        rw [request_eq]
        refine ⟨synced, notifies, .rolling rolling earlier
          (later ++ [.notified id peer]) move ?_ mover entered ?_ unmoved
          settled ?_⟩
        · rw [split, List.append_assoc, List.cons_append]
        · rw [movesOf_concat rfl]
          exact last
        · intro other member
          rw [pending_eq]
          rcases reached other member with waits | before
          · rw [pending] at waits
            rcases List.mem_cons.mp waits with rfl | waits
            · exact Or.inr (List.mem_append_right _ List.mem_cons_self)
            · exact Or.inl waits
          · exact Or.inr (List.mem_append_left _ before)
  | @completed peer pending confirms response slot =>
      rw [Service.acknowledgement_of_rolling holding stage pending confirms]
      refine .proceed (invariant.recorded.concat rfl) invariant.notifies
        distinct ?_ ?_ ?_ (fun next same => by cases same)
      · rw [movesOf_concat rfl]
        exact movers
      · intro other response member
        exact (invariant.answered other response member).of_movesOf_eq
          (movesOf_concat rfl)
      · intro answer same
        cases same
        have split' : events ++ [.notified id peer] =
            earlier ++ .moved move :: (later ++ [.notified id peer]) := by
          rw [split, List.append_assoc, List.cons_append]
        have last' : movesOf (later ++ [.notified id peer]) = [] := by
          rw [movesOf_concat rfl]
          exact last
        refine ⟨fun _ => ?_, ?_⟩
        · rw [split']
          refine settled.append_move last' ?_
          intro other member
          rw [mover]
          rcases reached other member with waits | before
          · rw [pending] at waits
            rw [List.mem_singleton.mp waits]
            exact List.mem_append_right _ List.mem_cons_self
          · exact List.mem_append_left _ before
        · rintro answered same
          cases same
          rw [split']
          exact .of_last mover last' unmoved (slot.trans entered.symm)

/-- The next post of the request that holds the lock. -/
theorem post (invariant : LatchInvariant settings source iso events service)
    (holding : service.holder = some (id, advance)) :
    LatchInvariant settings source iso
      (Service.record settings source iso service (.post outcome) events)
      (Service.proceed settings id
        (resume settings source iso advance outcome service.globals)
        service) := by
  obtain ⟨synced, notifies, held⟩ := invariant.held id advance holding
  cases held with
  | preparing stage settled expects unmoved =>
      rcases resume_preparing stage notifies with quiet | ⟨closes, moves⟩
      · exact invariant.post_quiet holding synced notifies settled expects
          unmoved quiet
      · exact invariant.post_moves holding synced notifies settled expects
          unmoved closes moves
  | rolling stage earlier later move split mover entered last unmoved settled
      reached =>
      exact invariant.post_rolling holding synced notifies stage split mover
        entered last unmoved settled reached

/-- Every step keeps the latch. -/
theorem step (invariant : LatchInvariant settings source iso events service)
    {action : Service.Action}
    (notifies : ∀ id request, action = .receive id request →
      request.notifyPeers = true)
    {next : Service settings.grid}
    (taken : Service.step settings source iso service action = some next) :
    LatchInvariant settings source iso
      (Service.record settings source iso service action events) next := by
  cases action with
  | receive id request =>
      have added := taken
      rw [Service.step] at added
      split at added
      · cases added
      · rename_i fresh
        cases added
        have nothing : Service.happened settings source iso service
            (.receive id request) = [] := by
          rw [Service.happened, taken]
          exact Service.movement_of_clock_eq _ rfl
        rw [Service.record, nothing, List.append_nil]
        exact invariant.receive (notifies id request rfl) fresh
  | enter index =>
      have entered := taken
      rw [Service.step] at entered
      split at entered
      · rename_i id request free entering
        cases entered
        have notifying :=
          invariant.notifies _ (List.mem_of_getElem? entering)
        have nothing : Service.happened settings source iso service
            (.enter index) = [] := by
          rw [Service.happened, taken, Service.actor, entering]
          refine Service.movement_of_clock_eq _ ?_
          rw [Service.globals_proceed]
          exact (begin_spec notifying).1.clock_eq
        rw [Service.record, nothing, List.append_nil]
        exact invariant.enter free entering
      · cases entered
  | post outcome =>
      obtain ⟨held, holding, rfl⟩ := Option.map_eq_some_iff.mp taken
      exact invariant.post holding

end Posts

end LatchInvariant

/-- While every request notifies the peers, the latch holds after every
run. -/
theorem desync_latch_of_run {settings : Settings} {source : CarbonSource}
    {iso : IsoFormat} {instant : ℤ} {actions : List Service.Action}
    {service : Service settings.grid} {events : List Event}
    (notifies : ∀ id request, .receive id request ∈ actions →
      request.notifyPeers = true)
    (reached : Transition.run
      (Transition.observed (Service.step settings source iso)
        (Service.record settings source iso))
      (Service.start settings.grid instant, []) actions =
        some (service, events)) :
    DesyncLatch settings events service := by
  have invariant := Transition.run_induction
    (fun history (state : Service settings.grid × List Event) =>
      (∀ id request, .receive id request ∈ history →
        request.notifyPeers = true) →
      LatchInvariant settings source iso state.2 state.1)
    (fun _ => .start instant)
    (fun history state action next before taken notifying => by
      obtain ⟨steps, records⟩ := Transition.observed_eq_some_iff.mp taken
      rw [records]
      refine (before fun id request member => ?_).step ?_ steps
      · exact notifying id request (List.mem_append_left _ member)
      · rintro id request rfl
        exact notifying id request
          (List.mem_append_right _ List.mem_cons_self))
    reached notifies
  exact
    { latched := invariant.recorded.latched
      closed := invariant.recorded.closed
      oneSlot := invariant.recorded.oneSlot
      answered := invariant.answered
      onlyOnce := invariant.recorded.onlyOnce }

/-! ## Two requests at once -/

/-- Half-hour slots from the epoch on. -/
def halfHours : SlotGrid where
  slotMinutes := 30
  epoch := 1577836800000000
  positive := by decide +kernel

/-- The starts of the first slots. -/
def halfHourForms : IsoFormat :=
  .ofTable
    [(1577836800000000, "2020-01-01T00:00:00+00:00"),
      (1577838600000000, "2020-01-01T00:30:00+00:00"),
      (1577840400000000, "2020-01-01T01:00:00+00:00")]
    (by decide +kernel) (by decide +kernel)

/-- CarbonShift and one client. -/
def oneClient : Settings where
  grid := halfHours
  manualClock := true
  forecastHorizonSlots := 2
  notifyMaxAttempts := 3
  carbonshiftUrl := "http://carbonshift:8080"
  executorUrl := ""
  clientUrls := ["http://client:8000"]

def steadySource : CarbonSource where
  name := "mock"
  observe slot :=
    some { slot := slot, observedAtSlot := slot, actual := 100 }
  forecast first count :=
    (List.range count).map fun offset : ℕ =>
      { slot := first + offset, forecast := 100 }

/-- A confirmed field of an answer. -/
def confirming (field : String) (slot : ℚ) : PostOutcome :=
  .response 200 (.ok (.object [(field, .number slot)]))

/-- Two requests for the same slot; one post to the client is lost. -/
def twoRequests : List Service.Action :=
  [.receive 1 { expectSlot := some 0, notifyPeers := true },
    .receive 2 { expectSlot := some 0, notifyPeers := true },
    .enter 0,
    .post (confirming "current_slot" 0),
    .post (.requestException "timed out"),
    .post (confirming "slot" 0),
    .post (confirming "current_slot" 0),
    .post (confirming "current_slot" 1),
    .post (confirming "slot" 1),
    .enter 0]

def twoRequestsRun : Option (Service halfHours × List Event) :=
  Transition.run
    (Transition.observed (Service.step oneClient steadySource halfHourForms)
      (Service.record oneClient steadySource halfHourForms))
    (Service.start halfHours 1577836800000000, []) twoRequests

/-- One of the two requests moves the clock, and the other is refused. -/
theorem desync_latch_of_run_twoRequests :
    ∃ service events, twoRequestsRun = some (service, events) ∧
      (movesOf events).map (fun move => (move.id, move.before, move.after)) =
        [(1, 0, 1)] ∧
      service.answered.map Prod.fst = [1, 2] ∧
      DesyncLatch oneClient events service := by
  have ends : twoRequestsRun.map (fun final =>
      ((movesOf final.2).map (fun move => (move.id, move.before, move.after)),
        final.1.answered.map Prod.fst)) = some ([(1, 0, 1)], [1, 2]) := by
    decide +kernel
  obtain ⟨⟨service, events⟩, ran, same⟩ := Option.map_eq_some_iff.mp ends
  obtain ⟨moves, answers⟩ := Prod.mk.inj same
  refine ⟨service, events, ran, moves, answers, desync_latch_of_run ?_ ran⟩
  intro id request member
  simp only [twoRequests, List.mem_cons, Service.Action.receive.injEq,
    reduceCtorEq, List.not_mem_nil, or_false] at member
  rcases member with ⟨_, rfl⟩ | ⟨_, rfl⟩
  · rfl
  · rfl

end Provider

end Carbonshift
