import Carbonshift.Engine.LockedCommits

/-!
# The commits of a run

A worker logs its batch once the commit has been accepted; a refused attempt
and a requeued batch log nothing.  So the batches logged in a run are those of
the committed requests, and without replanning they are where the log has
them.
-/

namespace Carbonshift

/-- A committed batch with its slot and the assignments committed with it. -/
structure CommittedBatch where
  slot : ℤ
  pending : List Request
  assignments : List Assignment

namespace Engine

variable {σ : Type} {cfg : Config} {runtime : NumericRuntime σ}
variable {engine next : Engine σ}

/-- The batch that an action commits. -/
def committedBatch (cfg : Config) (engine : Engine σ) :
    Action → Option CommittedBatch
  | .work workerId .commit =>
      (engine.workers.lookup workerId).bind fun worker =>
        match worker.phase with
        | .proposed tiers rollbacks proposal =>
            match (commitAttempt cfg engine tiers rollbacks proposal).1 with
            | .committed =>
                some
                  { slot := worker.slot
                    pending := worker.pending
                    assignments := proposal.assignments }
            | .rolledBack => none
        | _ => none
  | _ => none

def logCommit (cfg : Config) (engine : Engine σ) (action : Action)
    (logged : List CommittedBatch) : List CommittedBatch :=
  logged ++ (committedBatch cfg engine action).toList

/-- A run of a new engine with the batches it commits. -/
def loggedRun (cfg : Config) (runtime : NumericRuntime σ)
    (actions : List Action) : Option (Engine σ × List CommittedBatch) :=
  Transition.run (Transition.observed (step cfg runtime) (logCommit cfg))
    (new cfg, []) actions

/-! ## Steps -/

theorem committedBatch_cases {action : Action} {batch : CommittedBatch}
    (commits : committedBatch cfg engine action = some batch) :
    ∃ workerId worker tiers rollbacks proposal,
      action = .work workerId .commit ∧
        engine.workers.lookup workerId = some worker ∧
          worker.phase = .proposed tiers rollbacks proposal ∧
            (commitAttempt cfg engine tiers rollbacks proposal).1 =
                .committed ∧
              batch = ⟨worker.slot, worker.pending, proposal.assignments⟩ := by
  unfold committedBatch at commits
  split at commits
  · rename_i workerId
    obtain ⟨worker, found, proposes⟩ := Option.bind_eq_some_iff.mp commits
    split at proposes
    · rename_i tiers rollbacks proposal was
      split at proposes
      · rename_i accepted
        cases proposes
        exact ⟨workerId, worker, tiers, rollbacks, proposal, rfl, found, was,
          accepted, rfl⟩
      · cases proposes
    · cases proposes
  · cases commits

/-- An accepted commit is logged. -/
theorem committedBatch_of_accepted {workerId : ℕ} {worker : BatchWorker σ}
    {tiers : List CapacityTier} {rollbacks : ℕ} {proposal : SolverProposal σ}
    (found : engine.workers.lookup workerId = some worker)
    (was : worker.phase = .proposed tiers rollbacks proposal)
    (accepted :
      (commitAttempt cfg engine tiers rollbacks proposal).1 = .committed) :
    committedBatch cfg engine (.work workerId .commit) =
      some ⟨worker.slot, worker.pending, proposal.assignments⟩ := by
  simp only [committedBatch, found, Option.bind_some, was, accepted]

/-- An action that logs nothing commits nothing. -/
theorem assignmentsChange_of_unlogged {action : Action}
    (taken : step cfg runtime engine action = some next)
    (unlogged : committedBatch cfg engine action = none) :
    AssignmentsChange engine action.correctsError next.shared.assignments
      none := by
  cases step_effect taken with
  | queued _ assignments_eq _ _ => exact .same assignments_eq
  | corrected _ _ assignments_eq _ place error_eq _ =>
      exact .corrected place error_eq assignments_eq
  | selected _ _ _ => exact .same rfl
  | unclaimed _ _ assignments_eq _ _ => exact .same assignments_eq
  | claimed _ _ _ _ assignments_eq _ _ _ _ _ => exact .same assignments_eq
  | released _ _ _ shared_eq _ _ _ _ => exact .same (by rw [shared_eq])
  | @worked workerId move worker phase _ found effect _ _ _ _ =>
      generalize shared_eq : next.shared = shared at effect ⊢
      cases effect with
      | entered _ => exact .same rfl
      | observedBatch _ _ => exact .same rfl
      | observedSwarm _ _ _ => exact .same rfl
      | solvedBatch _ _ => exact .same rfl
      | solvedSwarm _ _ _ => exact .same rfl
      | rolledBack _ same => exact .same same.assignments_eq
      | requeued _ => exact .same rfl
      | merged _ => exact .same rfl
      | committed was accepted _ =>
          rw [Engine.step, found, Option.bind_some] at taken
          obtain ⟨moved, performed, _⟩ := Option.map_eq_some_iff.mp taken
          have move_eq := move_eq_commit_of_proposed was performed
          rw [move_eq, committedBatch_of_accepted found was accepted]
            at unlogged
          cases unlogged

/-- What a logged action commits. -/
theorem assignments_of_logged {action : Action} {batch : CommittedBatch}
    (taken : step cfg runtime engine action = some next)
    (commits : committedBatch cfg engine action = some batch) :
    next.shared.assignments =
      (engine.shared.addAssignments batch.assignments).assignments := by
  obtain ⟨workerId, worker, tiers, rollbacks, proposal, rfl, found, was,
    accepted, rfl⟩ := committedBatch_cases commits
  exact assignments_of_accepted found was accepted taken

/-- A commit leaves the assignments of other requests as they are. -/
theorem lookup_of_unlogged {workerId : ℕ} {worker : BatchWorker σ}
    (found : engine.workers.lookup workerId = some worker)
    (taken : step cfg runtime engine (.work workerId .commit) = some next)
    {requestId : ℕ}
    (unlogged : ∀ batch ∈ committedBatch cfg engine (.work workerId .commit),
      requestId ∉ assignmentIds batch.assignments) :
    next.shared.assignments.lookup requestId =
      engine.shared.assignments.lookup requestId := by
  rw [step, found, Option.bind_some] at taken
  obtain ⟨moved, performed, rfl⟩ := Option.map_eq_some_iff.mp taken
  obtain ⟨phase, _, effect, _⟩ := workerMove_moved performed
  dsimp only
  generalize moved.2.shared = shared at effect ⊢
  cases effect with
  | entered _ => rfl
  | observedBatch _ _ => rfl
  | observedSwarm _ _ _ => rfl
  | solvedBatch _ _ => rfl
  | solvedSwarm _ _ _ => rfl
  | rolledBack _ same => rw [same.assignments_eq]
  | committed was accepted same =>
      rw [same.assignments_eq]
      exact SharedState.lookup_addAssignments_of_absent
        (unlogged _ (committedBatch_of_accepted found was accepted))
  | requeued _ => rfl
  | merged _ => rfl

/-! ## The logged requests -/

private theorem nodup_earlier {history : List Action} {action : Action}
    (distinct : (requestIds (receivedBy (history ++ [action]))).Nodup) :
    (requestIds (receivedBy history)).Nodup := by
  rw [receivedBy_concat, requestIds, List.map_append] at distinct
  exact (List.nodup_append.mp distinct).1

/-- The logged batches are those of the committed requests. -/
structure Logged (engine : Engine σ) (logged : List CommittedBatch) :
    Prop where
  committed : ∀ requestId,
    requestId ∈ engine.shared.assignments ↔
      ∃ batch ∈ logged, requestId ∈ requestIds batch.pending
  assigned : ∀ batch ∈ logged,
    requestIds batch.pending ⊆ assignmentIds batch.assignments

namespace Logged

variable {logged : List CommittedBatch}

theorem new : Logged (Engine.new cfg : Engine σ) [] := by
  refine ⟨fun requestId => ⟨fun committed => ?_, ?_⟩, nofun⟩
  · exact absurd committed (AList.notMem_empty _)
  · rintro ⟨_, nothing, _⟩
    cases nothing

theorem step {received : List ℕ} {action : Action}
    (log : Logged engine logged) (conserved : Conserved received engine)
    (taken : Engine.step cfg runtime engine action = some next) :
    Logged next (logCommit cfg engine action logged) := by
  cases commits : committedBatch cfg engine action with
  | none =>
      rw [logCommit, commits, Option.toList_none, List.append_nil]
      refine ⟨fun requestId => ?_, log.assigned⟩
      rw [← log.committed]
      cases assignmentsChange_of_unlogged taken commits with
      | same assignments_eq => rw [assignments_eq]
      | corrected _ _ assignments_eq =>
          rw [assignments_eq, Dictionary.mem_adjust_iff]
  | some batch =>
      rw [logCommit, commits, Option.toList_some]
      have assignments_eq := assignments_of_logged taken commits
      obtain ⟨workerId, worker, tiers, rollbacks, proposal, _, found, was, _,
        rfl⟩ := committedBatch_cases commits
      obtain ⟨covers, replans⟩ :=
        (conserved.promise workerId worker found).proposed was
      constructor
      · intro requestId
        rw [assignments_eq, SharedState.mem_addAssignments_iff,
          log.committed]
        constructor
        · rintro (proposed | ⟨earlier, inside, own⟩)
          · rcases replans requestId proposed with own | known
            · exact ⟨_, List.mem_append_right _ (List.mem_singleton_self _),
                own⟩
            · obtain ⟨earlier, inside, was⟩ :=
                (log.committed requestId).mp known
              exact ⟨earlier, List.mem_append_left _ inside, was⟩
          · exact ⟨earlier, List.mem_append_left _ inside, own⟩
        · rintro ⟨source, inside, own⟩
          rcases List.mem_append.mp inside with earlier | last
          · exact Or.inr ⟨source, earlier, own⟩
          · rw [List.mem_singleton.mp last] at own
            exact Or.inl (covers own)
      · refine List.forall_mem_append.mpr ⟨log.assigned, ?_⟩
        exact List.forall_mem_singleton.mpr covers

/-- In every run, the log has the committed requests and no others. -/
theorem of_run {actions : List Action} {logged : List CommittedBatch}
    (unique : (requestIds (receivedBy actions)).Nodup)
    (reached : loggedRun cfg runtime actions = some (engine, logged)) :
    Conserved (requestIds (receivedBy actions)) engine ∧
      Logged engine logged := by
  have conserved : ∀ {history : List Action} {state : Engine σ},
      (requestIds (receivedBy history)).Nodup →
        Transition.run (Engine.step cfg runtime) (Engine.new cfg) history =
            some state →
          Conserved (requestIds (receivedBy history)) state :=
    fun distinct run => .of_run distinct run
  refine ⟨conserved unique (Transition.run_of_run_observed reached), ?_⟩
  refine Transition.observed_induction
    (fun history state logged =>
      (requestIds (receivedBy history)).Nodup → Logged state logged)
    (fun _ => .new) ?_ reached unique
  intro history state logged action next run before taken distinct
  have earlier := nodup_earlier distinct
  exact (before earlier).step (conserved earlier run) taken

end Logged

/-! ## Without replanning -/

/-- Every logged assignment is of its batch, and where it was committed. -/
structure LoggedInPlace (engine : Engine σ) (logged : List CommittedBatch) :
    Prop where
  ids : ∀ batch ∈ logged,
    assignmentIds batch.assignments = requestIds batch.pending
  placed : ∀ batch ∈ logged, ∀ assignment ∈ batch.assignments,
    ∃ stored,
      engine.shared.assignments.lookup assignment.requestId = some stored ∧
        stored.scheduledSlot = assignment.scheduledSlot

namespace LoggedInPlace

variable {logged : List CommittedBatch}

theorem step {known : List Request} {action : Action}
    (log : LoggedInPlace engine logged)
    (settled : Settled cfg known engine)
    (taken : Engine.step cfg runtime engine action = some next) :
    LoggedInPlace next (logCommit cfg engine action logged) := by
  have stays : ∀ batch ∈ logged, ∀ assignment ∈ batch.assignments,
      ∃ stored,
        next.shared.assignments.lookup assignment.requestId = some stored ∧
          stored.scheduledSlot = assignment.scheduledSlot := by
    intro batch inside assignment member
    obtain ⟨stored, found, slot_eq⟩ := log.placed batch inside assignment member
    obtain ⟨committer, change⟩ := (step_effect taken).assignmentsChange
    obtain ⟨later, stays, same⟩ := settled.lookup_of_change change found
    exact ⟨later, stays, same.trans slot_eq⟩
  cases commits : committedBatch cfg engine action with
  | none =>
      rw [logCommit, commits, Option.toList_none, List.append_nil]
      exact ⟨log.ids, stays⟩
  | some batch =>
      rw [logCommit, commits, Option.toList_some]
      have assignments_eq := assignments_of_logged taken commits
      obtain ⟨workerId, worker, tiers, rollbacks, proposal, _, found, was, _,
        rfl⟩ := committedBatch_cases commits
      obtain ⟨ids, _⟩ := (settled.ownBatch workerId worker found).proposed was
      obtain ⟨distinct, uncommitted⟩ := uncommitted_of_owns
        settled.heldDistinct found (by rw [was]; rfl)
      constructor
      · refine List.forall_mem_append.mpr ⟨log.ids, ?_⟩
        exact List.forall_mem_singleton.mpr ids
      · refine List.forall_mem_append.mpr ⟨stays, ?_⟩
        refine List.forall_mem_singleton.mpr fun assignment member => ?_
        rw [← ids] at distinct uncommitted
        refine ⟨assignment, ?_, rfl⟩
        rw [assignments_eq]
        exact SharedState.lookup_addAssignments_of_fresh distinct uncommitted
          member

/-- In every run without replanning, the log says where the requests are. -/
theorem of_run (own : ProposesOwnBatches cfg) {actions : List Action}
    {logged : List CommittedBatch}
    (unique : (requestIds (receivedBy actions)).Nodup)
    (reached : loggedRun cfg runtime actions = some (engine, logged)) :
    LoggedInPlace engine logged := by
  refine Transition.observed_induction
    (fun history state logged =>
      (requestIds (receivedBy history)).Nodup → LoggedInPlace state logged)
    (fun _ => ⟨List.forall_mem_nil _, List.forall_mem_nil _⟩) ?_ reached
    unique
  intro history state logged action next run before taken distinct
  have earlier := nodup_earlier distinct
  have settled := (Settled.run_induction own (fun _ => True)
    (fun _ _ => True) trivial (fun _ _ _ _ _ _ _ _ _ => trivial)
    (fun _ _ => trivial) earlier run).1
  exact (before earlier).step settled taken

end LoggedInPlace

end Engine

end Carbonshift
