import Carbonshift.Engine.SchedulerSteps

/-!
# What a step does to the learned states

Learned states change in the steps of the workers only: they are discarded
with an old ladder, created on first use, trained in place by a serialized
solve, and merged after the commit of a merge solve.  No other step touches
what a worker has in hand.
-/

namespace Carbonshift

namespace Engine

variable {σ : Type} {cfg : Config} {runtime : NumericRuntime σ}
variable {engine next : Engine σ}

/-- The action is a step of a worker. -/
def Action.isWork : Action → Bool
  | .work _ _ => true
  | _ => false

/-- Learned states, and the ladder they were learned with, agree. -/
structure SameLearned (before after : Engine σ) : Prop where
  swarmStates_eq : after.scheduler.swarmStates = before.scheduler.swarmStates
  revision_eq :
    after.scheduler.capacityTierRevision =
      before.scheduler.capacityTierRevision

theorem SameLearned.refl (engine : Engine σ) : SameLearned engine engine :=
  ⟨rfl, rfl⟩

/-- Beside the workers nobody touches the learned states. -/
theorem sameLearned_of_step {action : Action}
    (aside : action.isWork = false)
    (taken : step cfg runtime engine action = some next) :
    SameLearned engine next := by
  cases action with
  | work workerId move => cases aside
  | addRequest request =>
      cases taken
      exact ⟨rfl, rfl⟩
  | addRequests requests =>
      cases taken
      exact ⟨rfl, rfl⟩
  | setCurrentSlot slot =>
      cases taken
      exact ⟨rfl, rfl⟩
  | initializeCapacityTiers tiers =>
      rw [step] at taken
      split at taken <;> cases taken
      exact ⟨rfl, rfl⟩
  | replaceCapacityTiers tiers =>
      rw [step] at taken
      split at taken <;> cases taken
      exact ⟨rfl, rfl⟩
  | correctAssignmentError requestId actualError =>
      cases taken
      exact ⟨rfl, rfl⟩
  | correctAssignmentCarbonCost requestId actualCarbonCost =>
      cases taken
      exact ⟨rfl, rfl⟩
  | selectProfile elapsedSlots flush carbonForecast =>
      simp only [step, selectProfile] at taken
      split at taken
      · cases taken
      · obtain ⟨_, _, rfl⟩ := Option.map_eq_some_iff.mp taken
        exact ⟨rfl, rfl⟩
  | claimBatch =>
      obtain ⟨selection, _, claimed⟩ := Option.map_eq_some_iff.mp taken
      dsimp only at claimed
      split at claimed
      · subst claimed
        exact ⟨rfl, rfl⟩
      · split at claimed <;> subst claimed <;> exact ⟨rfl, rfl⟩
  | release workerId =>
      obtain ⟨worker, _, released⟩ := Option.bind_eq_some_iff.mp taken
      unfold release at released
      split at released <;> cases released
      exact ⟨rfl, rfl⟩

/-- Beside the workers, whoever works after the step did so before, or has
just been given its batch. -/
theorem worker_of_step {action : Action}
    (aside : action.isWork = false)
    (taken : step cfg runtime engine action = some next)
    {workerId : ℕ} {worker : BatchWorker σ}
    (found : next.workers.lookup workerId = some worker) :
    worker.phase = .claimed ∨
      engine.workers.lookup workerId = some worker := by
  cases step_effect taken with
  | queued _ _ _ reservations =>
      exact Or.inr (reservations.workers_eq ▸ found)
  | corrected _ _ _ _ _ _ reservations =>
      exact Or.inr (reservations.workers_eq ▸ found)
  | selected _ _ _ => exact Or.inr found
  | unclaimed _ _ _ _ reservations =>
      exact Or.inr (reservations.workers_eq ▸ found)
  | claimed _ _ _ _ _ _ workers_eq _ _ _ =>
      rw [workers_eq] at found
      by_cases newcomer : workerId = engine.spawned
      · rw [newcomer, AList.lookup_insert] at found
        cases found
        exact Or.inl rfl
      · rw [AList.lookup_insert_ne newcomer] at found
        exact Or.inr found
  | worked _ _ _ _ _ _ => cases aside
  | @released leaver _ _ _ _ _ _ _ workers_eq _ _ _ =>
      rw [workers_eq] at found
      by_cases own : workerId = leaver
      · rw [own, AList.lookup_erase] at found
        cases found
      · rw [AList.lookup_erase_ne own] at found
        exact Or.inr found

end Engine

end Carbonshift
