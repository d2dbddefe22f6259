import Carbonshift.Engine.CommitLog
import Carbonshift.Nshift.LatePricing
import Carbonshift.Sim.Scenario

/-!
# Complete outputs

A simulation replays a scenario, reads the committed requests back from the
log of the solver and schedules late what is still in the queue.  So the output
has one row for every request of the scenario, except for those in a batch
that is still being solved.
-/

namespace Carbonshift

namespace Nshift

/-! ## Rows of a committed batch -/

/-- By slot and identifier. -/
def rowOrder (left right : Assignment) : Prop :=
  left.scheduledSlot < right.scheduledSlot ∨
    (left.scheduledSlot = right.scheduledSlot ∧
      left.requestId ≤ right.requestId)

instance : DecidableRel rowOrder := fun _ _ =>
  inferInstanceAs (Decidable (_ ∨ _))

/-- An identifier is logged as an unsigned and read as a signed 64-bit number;
one that does not fit is read as zero. -/
def readRequestId (requestId : ℕ) : ℕ :=
  if requestId < 2 ^ 63 then requestId else 0

/-- A missing slot is logged as an empty text and read as zero. -/
def readSlot (slot : Option ℤ) : ℤ :=
  slot.getD 0

/-- The rows of a batch, as they are read back from the log. -/
def buildAssignmentRows (runId : String) (newIds : List ℕ)
    (currentSlot : ℤ) (assignments : List Assignment) : List AssignmentRow :=
  (assignments.insertionSort rowOrder).map fun assignment =>
    { runId := runId
      requestId := readRequestId assignment.requestId
      currentSlot := currentSlot
      isNewAssignmentInRun := newIds.contains assignment.requestId
      scheduledSlot := assignment.scheduledSlot
      flavourName := assignment.flavourName
      error := assignment.error
      carbonCost := assignment.carbonCost
      arrivalSlot := readSlot assignment.arrivalSlot
      deadlineSlot := readSlot assignment.deadlineSlot }

end Nshift

/-- The rows logged for a committed batch. -/
def CommittedBatch.rows (runId : String) (batch : CommittedBatch) :
    List Nshift.AssignmentRow :=
  Nshift.buildAssignmentRows runId (requestIds batch.pending) batch.slot
    batch.assignments

namespace Nshift

/-! ## What a run leaves -/

/-- The record of a run whose commits have been logged, each under the
identifier of its solver run. -/
def runRecord {σ : Type} (engine : Engine σ)
    (entries : List (String × CommittedBatch)) (runs : List SolverRunRow) :
    RunRecord where
  assignmentRows := entries.flatMap fun entry => entry.2.rows entry.1
  runs := runs
  rolledBackIds := engine.shared.rolledBackRequestIds
  remaining := engine.shared.pending
  finalAssignments := engine.shared.assignments

section Rows

variable {runId : String} {batch : CommittedBatch} {row : AssignmentRow}

theorem mem_rows_iff :
    row ∈ batch.rows runId ↔
      ∃ assignment ∈ batch.assignments,
        row =
          { runId := runId
            requestId := readRequestId assignment.requestId
            currentSlot := batch.slot
            isNewAssignmentInRun :=
              (requestIds batch.pending).contains assignment.requestId
            scheduledSlot := assignment.scheduledSlot
            flavourName := assignment.flavourName
            error := assignment.error
            carbonCost := assignment.carbonCost
            arrivalSlot := readSlot assignment.arrivalSlot
            deadlineSlot := readSlot assignment.deadlineSlot } := by
  rw [CommittedBatch.rows, buildAssignmentRows, List.mem_map]
  constructor
  · rintro ⟨assignment, member, rfl⟩
    exact ⟨assignment, (List.mem_insertionSort rowOrder).mp member, rfl⟩
  · rintro ⟨assignment, member, rfl⟩
    exact ⟨assignment, (List.mem_insertionSort rowOrder).mpr member, rfl⟩

end Rows

section Records

variable {σ : Type} {cfg : Config} {runtime : NumericRuntime σ}
variable {engine : Engine σ} {logged : List CommittedBatch}
variable {entries : List (String × CommittedBatch)}
variable {runs : List SolverRunRow}

/-- The log has the rows of the committed batches and no others. -/
theorem mem_assignmentRows_iff
    (complete : (entries.map Prod.snd).Perm logged) {row : AssignmentRow} :
    row ∈ (runRecord engine entries runs).assignmentRows ↔
      ∃ runId batch, (runId, batch) ∈ entries ∧ batch ∈ logged ∧
        row ∈ batch.rows runId := by
  rw [runRecord, List.mem_flatMap]
  constructor
  · rintro ⟨⟨runId, batch⟩, inside, own⟩
    have member := complete.mem_iff.mp (List.mem_map_of_mem inside)
    exact ⟨runId, batch, inside, member, own⟩
  · rintro ⟨runId, batch, inside, _, own⟩
    exact ⟨(runId, batch), inside, own⟩

/-- The new rows are those of the committed requests. -/
theorem exists_new_row_iff
    (complete : (entries.map Prod.snd).Perm logged)
    (log : Engine.Logged engine logged)
    (fits : ∀ requestId ∈ engine.shared.assignments, requestId < 2 ^ 63)
    (requestId : ℕ) :
    (∃ row ∈ (runRecord engine entries runs).assignmentRows,
        row.isNewAssignmentInRun = true ∧ row.requestId = requestId) ↔
      requestId ∈ engine.shared.assignments := by
  have reads : ∀ batch ∈ logged, ∀ assignment ∈ batch.assignments,
      assignment.requestId ∈ requestIds batch.pending →
        readRequestId assignment.requestId = assignment.requestId := by
    intro batch inside assignment _ pending
    exact if_pos (fits _ ((log.committed _).mpr ⟨batch, inside, pending⟩))
  rw [log.committed]
  constructor
  · rintro ⟨row, member, isNew, rfl⟩
    obtain ⟨runId, batch, _, inside, own⟩ :=
      (mem_assignmentRows_iff complete).mp member
    obtain ⟨assignment, assigned, rfl⟩ := mem_rows_iff.mp own
    have pending : assignment.requestId ∈ requestIds batch.pending :=
      List.contains_iff_mem.mp isNew
    refine ⟨batch, inside, ?_⟩
    dsimp only
    rw [reads batch inside assignment assigned pending]
    exact pending
  · rintro ⟨batch, inside, pending⟩
    obtain ⟨assignment, assigned, rfl⟩ :=
      List.mem_map.mp (log.assigned batch inside pending)
    obtain ⟨⟨runId, _⟩, entered, rfl⟩ :=
      List.mem_map.mp (complete.mem_iff.mpr inside)
    exact ⟨_, (mem_assignmentRows_iff complete).mpr
      ⟨runId, _, entered, inside,
        mem_rows_iff.mpr ⟨assignment, assigned, rfl⟩⟩,
      List.contains_iff_mem.mpr pending,
      reads _ inside assignment assigned pending⟩

end Records

/-! ## Output rows -/

section Output

variable {policy : AssignmentPolicy} {carbonForecast : List ℚ} {slotDur : ℚ}

theorem requestIds_lateRows (fallback : Flavour)
    (slotCount : Dictionary ℤ ℤ) (requests : List Request) :
    (lateRows policy carbonForecast slotDur fallback slotCount requests).map
        (fun row => row.requestId) =
      requestIds requests := by
  induction requests generalizing slotCount with
  | nil => rfl
  | cons request rest inductionHypothesis =>
      rw [lateRows, List.map_cons, inductionHypothesis]
      rfl

/-- Every drained request has a late row. -/
theorem requestIds_late_perm {remaining : List Request}
    {late : List PricedRequest}
    (scheduled : scheduleLateRequests policy carbonForecast slotDur
      remaining = some late) :
    (late.map fun row => row.requestId).Perm (requestIds remaining) := by
  unfold scheduleLateRequests at scheduled
  split at scheduled
  · rename_i nothing
    cases scheduled
    rw [nothing]
    rfl
  · obtain ⟨fallback, _, rfl⟩ := Option.map_eq_some_iff.mp scheduled
    rw [requestIds_lateRows]
    exact (List.perm_insertionSort lateOrder remaining).map Request.id

/-- Pricing the rows again keeps their requests. -/
theorem requestIds_recompute (finalAssignments : Dictionary ℕ Assignment)
    (rows : List PricedRequest) :
    (recomputeCarbonCosts policy carbonForecast finalAssignments rows).map
        (fun row => row.requestId) =
      rows.map fun row => row.requestId := by
  rw [recomputeCarbonCosts, List.map_map]
  refine List.map_congr_left fun row _ => ?_
  rw [Function.comp_apply, PricedRequest.reprice]
  split <;> rfl

/-- The committed rows are those of the new rows of the log. -/
theorem committedRows_perm (record : RunRecord) (slotDur : ℚ)
    {committed : Dictionary ℕ Assignment}
    (new_rows : ∀ requestId,
      (∃ row ∈ record.assignmentRows,
        row.isNewAssignmentInRun = true ∧ row.requestId = requestId) ↔
          requestId ∈ committed) :
    ((record.committedRows slotDur).map PerRequest.requestId).Perm
      committed.keys := by
  have seen : Seen (runsById record.runs) slotDur record.rolledBackIds
      (record.assignmentRows.filter AssignmentRow.isNewAssignmentInRun)
      (seenRows (runsById record.runs) slotDur record.rolledBackIds
        record.assignmentRows) := seen_seenRows _
  refine (List.perm_ext_iff_of_nodup
    (computePerRequest_nodup record.assignmentRows)
    committed.keys_nodup).mpr fun requestId => ?_
  rw [← AList.mem_keys, ← new_rows]
  constructor
  · intro member
    obtain ⟨perRequest, inside, rfl⟩ := List.mem_map.mp member
    obtain ⟨key, found⟩ := mem_computePerRequest.mp inside
    obtain ⟨row, read, _, rfl⟩ := seen.stored found
    obtain ⟨present, isNew⟩ := List.mem_filter.mp read
    exact ⟨row, present, isNew, rfl⟩
  · rintro ⟨row, present, isNew, rfl⟩
    have read := List.mem_filter.mpr ⟨present, isNew⟩
    obtain ⟨perRequest, found⟩ :=
      Dictionary.exists_lookup_of_mem (seen.complete row read)
    obtain ⟨source, _, same, made⟩ := seen.stored found
    refine List.mem_map.mpr
      ⟨perRequest, mem_computePerRequest.mpr ⟨_, found⟩, ?_⟩
    rw [made]
    exact same

/-- The output has a row for every committed and every drained request. -/
theorem outputRows_perm {record : RunRecord} {rows : List PricedRequest}
    {committed : Dictionary ℕ Assignment}
    (new_rows : ∀ requestId,
      (∃ row ∈ record.assignmentRows,
        row.isNewAssignmentInRun = true ∧ row.requestId = requestId) ↔
          requestId ∈ committed)
    (finished : outputRows policy carbonForecast slotDur record = some rows) :
    (rows.map fun row => row.requestId).Perm
      (committed.keys ++ requestIds record.remaining) := by
  obtain ⟨late, scheduled, rfl⟩ := Option.map_eq_some_iff.mp finished
  rw [requestIds_recompute, List.map_append, List.map_map]
  exact (committedRows_perm record slotDur new_rows).append
    (requestIds_late_perm scheduled)

/-- Only a policy without flavours leaves drained requests without rows. -/
theorem exists_outputRows (flavours : policy.flavours ≠ [])
    (carbonForecast : List ℚ) (slotDur : ℚ) (record : RunRecord) :
    ∃ rows, outputRows policy carbonForecast slotDur record = some rows := by
  rw [← Option.isSome_iff_exists, outputRows, Option.isSome_map,
    scheduleLateRequests]
  split
  · rfl
  · rw [Option.isSome_map, Option.isSome_iff_ne_none, Ne,
      List.argmin_eq_none]
    exact flavours

end Output

/-! ## Complete outputs -/

section Runs

variable {σ : Type}

/-- Every received request is in the output or in a batch in flight. -/
theorem outputRows_of_run {cfg : Config} {runtime : NumericRuntime σ}
    {actions : List Engine.Action} {engine : Engine σ}
    {logged : List CommittedBatch} {entries : List (String × CommittedBatch)}
    {runs : List SolverRunRow} {policy : AssignmentPolicy}
    {carbonForecast : List ℚ} {slotDur : ℚ} {rows : List PricedRequest}
    (unique : (requestIds (Engine.receivedBy actions)).Nodup)
    (fits : ∀ requestId ∈ requestIds (Engine.receivedBy actions),
      requestId < 2 ^ 63)
    (reached : Engine.loggedRun cfg runtime actions = some (engine, logged))
    (complete : (entries.map Prod.snd).Perm logged)
    (finished : outputRows policy carbonForecast slotDur
      (runRecord engine entries runs) = some rows) :
    ((rows.map fun row => row.requestId) ++
        requestIds engine.inFlight).Perm
      (requestIds (Engine.receivedBy actions)) := by
  obtain ⟨conserved, log⟩ := Engine.Logged.of_run unique reached
  have received : ∀ requestId ∈ engine.shared.assignments,
      requestId < 2 ^ 63 := by
    intro requestId committed
    refine fits requestId (conserved.held.mem_iff.mp ?_)
    exact List.mem_append_right _ (AList.mem_keys.mp committed)
  have output := outputRows_perm
    (exists_new_row_iff complete log received) finished
  refine (output.append_right _).trans (List.Perm.trans ?_ conserved.held)
  refine List.perm_iff_count.mpr fun requestId => ?_
  simp only [Engine.heldIds, runRecord, List.count_append]
  omega

/-- Replaying a scenario puts every request into the output, once, unless its
batch is still being solved. -/
theorem replayed_scenario_is_output
    (cfg : Config) (runtime : NumericRuntime σ)
    (generatorCfg : Generator.RequestGeneratorConfig)
    (generatorRuntime : Generator.GeneratorRuntime) (scenario : Scenario)
    (bySlot : List (List Request)) (running : Generator.Running)
    (readings unread : List ℕ) (actions : List Engine.Action)
    (engine : Engine σ) (logged : List CommittedBatch)
    (entries : List (String × CommittedBatch)) (runs : List SolverRunRow)
    (policy : AssignmentPolicy) (slotDur : ℚ)
    (grouped : scenario.requestsBySlot generatorRuntime.now = some bySlot)
    (horizon_eq : generatorCfg.totalSlots = scenario.totalSlots)
    (unique : (scenario.requests.map Carbonshift.ScenarioRequest.requestId).Nodup)
    (fits : ∀ request ∈ scenario.requests, request.requestId < 2 ^ 63)
    (unstopped : ∀ look, running look = true)
    (ended : (Generator.generatorLoop generatorCfg generatorRuntime
      (some bySlot) running readings .new).2 = .finished unread)
    (reached : Engine.loggedRun cfg runtime actions = some (engine, logged))
    (received : Engine.receivedBy actions =
      (Generator.generatorLoop generatorCfg generatorRuntime (some bySlot)
        running readings .new).1.added)
    (complete : (entries.map Prod.snd).Perm logged)
    (flavours : policy.flavours ≠ []) :
    ∃ rows,
      outputRows policy scenario.carbonForecast slotDur
          (runRecord engine entries runs) = some rows ∧
        ((rows.map fun row => row.requestId) ++
            requestIds engine.inFlight).Perm
          (scenario.requests.map Carbonshift.ScenarioRequest.requestId) := by
  have replayed := (Generator.added_perm_of_replay grouped horizon_eq unstopped
    ended).map Request.id
  rw [← received, List.map_map] at replayed
  have emitted : (requestIds (Engine.receivedBy actions)).Perm
      (scenario.requests.map Carbonshift.ScenarioRequest.requestId) := replayed
  obtain ⟨rows, finished⟩ := exists_outputRows flavours
    scenario.carbonForecast slotDur (runRecord engine entries runs)
  refine ⟨rows, finished, ?_⟩
  refine (outputRows_of_run (emitted.symm.nodup unique) ?_ reached complete
    finished).trans emitted
  intro requestId member
  obtain ⟨request, inside, rfl⟩ := List.mem_map.mp (emitted.mem_iff.mp member)
  exact fits request inside

/-- Without replanning, the log agrees with the committed assignments. -/
theorem locked_run_record_consistent
    (cfg : Config) (runtime : NumericRuntime σ)
    (actions : List Engine.Action) (engine : Engine σ)
    (logged : List CommittedBatch)
    (entries : List (String × CommittedBatch)) (runs : List SolverRunRow)
    (own : Engine.ProposesOwnBatches cfg)
    (unique : (requestIds (Engine.receivedBy actions)).Nodup)
    (fits : ∀ requestId ∈ requestIds (Engine.receivedBy actions),
      requestId < 2 ^ 63)
    (reached : Engine.loggedRun cfg runtime actions = some (engine, logged))
    (complete : (entries.map Prod.snd).Perm logged) :
    (runRecord engine entries runs).Consistent := by
  obtain ⟨conserved, log⟩ := Engine.Logged.of_run unique reached
  have inPlace := Engine.LoggedInPlace.of_run own unique reached
  have received : ∀ requestId ∈ engine.shared.assignments,
      requestId < 2 ^ 63 := by
    intro requestId committed
    refine fits requestId (conserved.held.mem_iff.mp ?_)
    exact List.mem_append_right _ (AList.mem_keys.mp committed)
  have heldDistinct := conserved.held.symm.nodup unique
  refine ⟨fun _ _ found => conserved.keyed found, ?_, ?_, ?_⟩
  · intro row member isNew
    obtain ⟨runId, batch, _, inside, logs⟩ :=
      (mem_assignmentRows_iff complete).mp member
    obtain ⟨assignment, assigned, rfl⟩ := mem_rows_iff.mp logs
    obtain ⟨stored, found, slot_eq⟩ :=
      inPlace.placed batch inside assignment assigned
    have reads : readRequestId assignment.requestId = assignment.requestId :=
      if_pos (received _ (Dictionary.mem_of_lookup found))
    exact ⟨stored, by rw [reads]; exact found, slot_eq⟩
  · intro requestId committed
    exact (exists_new_row_iff complete log received requestId).mpr committed
  · intro request pending committed
    rw [Engine.heldIds, List.append_assoc] at heldDistinct
    refine (List.nodup_append.mp heldDistinct).2.2 request.id
      (List.mem_map_of_mem pending) request.id ?_ rfl
    exact List.mem_append_right _ (AList.mem_keys.mp committed)

end Runs

/-! ## Three requests of one slot -/

/-- Three requests of the first slot. -/
def threeRequests : Scenario where
  totalSlots := 3
  carbonForecast := [1, 1, 1]
  requests := [⟨1, 0, 3⟩, ⟨2, 0, 3⟩, ⟨3, 0, 3⟩]

private theorem overlappingRun_logged :
    ∃ engine logged,
      Engine.loggedRun Config.default .least Engine.overlappingRun =
        some (engine, logged) := by
  have completes : (Engine.loggedRun Config.default .least
      Engine.overlappingRun).isSome = true := by
    decide +kernel
  obtain ⟨⟨engine, logged⟩, reached⟩ := Option.isSome_iff_exists.mp completes
  exact ⟨engine, logged, reached⟩

/-- Two of the requests are committed, and the third is drained. -/
theorem replayed_scenario_is_output_threeRequests :
    ∃ engine logged rows,
      Engine.loggedRun Config.default .least Engine.overlappingRun =
          some (engine, logged) ∧
        outputRows fourSlotPolicy [1, 1, 1] 60
            (runRecord engine (logged.map fun batch => ("run_s0_n1_0", batch))
              []) = some rows ∧
          ((rows.map fun row => row.requestId) ++
              requestIds engine.inFlight).Perm [1, 2, 3] := by
  obtain ⟨engine, logged, reached⟩ := overlappingRun_logged
  obtain ⟨rows, finished, once⟩ := replayed_scenario_is_output Config.default
    .least Generator.threeSlots Generator.replaying threeRequests
    [[.new 0 1 0 3, .new 0 2 0 3, .new 0 3 0 3], [], []] (fun _ => true)
    [0, 31000] [] Engine.overlappingRun engine logged
    (logged.map fun batch => ("run_s0_n1_0", batch)) [] fourSlotPolicy 60
    (by decide +kernel) rfl (by decide) (by decide) (fun _ => rfl)
    (by decide +kernel) reached (by decide +kernel)
    (by rw [List.map_map]; exact List.Perm.of_eq (List.map_id _))
    (by decide +kernel)
  exact ⟨engine, logged, rows, reached, finished, once⟩

/-- The default configuration does not replan. -/
theorem locked_run_record_consistent_overlapping :
    ∃ engine logged,
      Engine.loggedRun Config.default .least Engine.overlappingRun =
          some (engine, logged) ∧
        (runRecord engine (logged.map fun batch => ("run_s0_n1_0", batch))
          []).Consistent := by
  obtain ⟨engine, logged, reached⟩ := overlappingRun_logged
  refine ⟨engine, logged, reached, ?_⟩
  exact locked_run_record_consistent Config.default .least
    Engine.overlappingRun engine logged
    (logged.map fun batch => ("run_s0_n1_0", batch)) [] (Or.inl rfl)
    (by decide) (by decide) reached
    (by rw [List.map_map]; exact List.Perm.of_eq (List.map_id _))

end Nshift

end Carbonshift
