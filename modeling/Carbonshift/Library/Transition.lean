import Mathlib.Data.List.Induction

/-!
# Runs of a partial step function

A system is a step function that may refuse an action.  A run performs a list
of actions one after another, so any interleaving of the parties is a list of
their actions.  An invariant may speak about the actions performed so far.
-/

universe u v

namespace Transition

variable {σ : Type u} {α : Type v}

/-- Perform the actions in order; `none` when one of them is refused. -/
def run (step : σ → α → Option σ) : σ → List α → Option σ
  | state, [] => some state
  | state, action :: actions =>
      (step state action).bind fun next => run step next actions

variable {step : σ → α → Option σ} {start final : σ}

@[simp]
theorem run_nil : run step start [] = some start := rfl

theorem run_append (earlier later : List α) :
    run step start (earlier ++ later) =
      (run step start earlier).bind fun middle => run step middle later := by
  induction earlier generalizing start with
  | nil => rfl
  | cons action actions inductionHypothesis =>
      cases taken : step start action with
      | none => simp [run, taken]
      | some next => simp [run, taken, inductionHypothesis]

theorem run_concat_eq_some_iff {actions : List α} {action : α} :
    run step start (actions ++ [action]) = some final ↔
      ∃ middle,
        run step start actions = some middle ∧
          step middle action = some final := by
  rw [run_append, Option.bind_eq_some_iff]
  simp [run]

/-- What holds at the start and is kept by every step holds after every run.
The property may depend on the actions performed so far. -/
theorem run_induction (holds : List α → σ → Prop)
    (initially : holds [] start)
    (preserved : ∀ history state action next,
      holds history state → step state action = some next →
        holds (history ++ [action]) next)
    {actions : List α} (reached : run step start actions = some final) :
    holds actions final := by
  induction actions using List.reverseRecOn generalizing final with
  | nil =>
      cases reached
      exact initially
  | append_singleton earlier action inductionHypothesis =>
      obtain ⟨middle, before, taken⟩ := run_concat_eq_some_iff.mp reached
      exact preserved earlier middle action final
        (inductionHypothesis before) taken

/-- The run rule for runs of allowed actions only. -/
theorem run_induction_of_forall (allowed : α → Prop) (holds : List α → σ → Prop)
    (initially : holds [] start)
    (preserved : ∀ history state action next,
      run step start history = some state →
        (∀ past ∈ history, allowed past) → holds history state →
          allowed action → step state action = some next →
            holds (history ++ [action]) next)
    {actions : List α} (every : ∀ action ∈ actions, allowed action)
    (reached : run step start actions = some final) :
    holds actions final := by
  induction actions using List.reverseRecOn generalizing final with
  | nil =>
      cases reached
      exact initially
  | append_singleton earlier action inductionHypothesis =>
      obtain ⟨middle, before, taken⟩ := run_concat_eq_some_iff.mp reached
      have past : ∀ action ∈ earlier, allowed action := fun action member =>
        every action (List.mem_append_left _ member)
      exact preserved earlier middle action final before past
        (inductionHypothesis past before)
        (every action (List.mem_append_right _ (List.mem_singleton_self _)))
        taken

/-- Counted actions are paid from a budget that no step raises. -/
theorem countP_add_le_of_run (holds : σ → Prop) (budget : σ → ℕ)
    (counted : α → Bool)
    (initially : holds start)
    (preserved : ∀ state action next,
      holds state → step state action = some next → holds next)
    (spends : ∀ state action next,
      holds state → step state action = some next →
        (if counted action then 1 else 0) + budget next ≤ budget state)
    {actions : List α} (reached : run step start actions = some final) :
    actions.countP counted + budget final ≤ budget start := by
  refine (run_induction
    (fun history state =>
      holds state ∧ history.countP counted + budget state ≤ budget start)
    ⟨initially, by simp⟩ ?_ reached).2
  rintro history state action next ⟨before, spent⟩ taken
  refine ⟨preserved state action next before taken, ?_⟩
  have more := spends state action next before taken
  rw [List.countP_append, List.countP_singleton]
  omega

/-- What holds after a run and not before it came about in one step. -/
theorem exists_step_of_run {holds : σ → Prop}
    (initially : ¬ holds start) {actions : List α}
    (reached : run step start actions = some final)
    (finally_ : holds final) :
    ∃ earlier action later before after,
      actions = earlier ++ action :: later ∧
        run step start earlier = some before ∧
          step before action = some after ∧
            ¬ holds before ∧ holds after := by
  induction actions using List.reverseRecOn generalizing final with
  | nil =>
      cases reached
      exact absurd finally_ initially
  | append_singleton history action inductionHypothesis =>
      obtain ⟨middle, before, taken⟩ := run_concat_eq_some_iff.mp reached
      by_cases already : holds middle
      · obtain ⟨earlier, chosen, later, first, second, split, rest⟩ :=
          inductionHypothesis before already
        refine ⟨earlier, chosen, later ++ [action], first, second, ?_, rest⟩
        rw [split, List.append_assoc, List.cons_append]
      · exact ⟨history, action, [], middle, final, rfl, before, taken, already,
          finally_⟩

/-- Every action of the run satisfies the condition in the state in which it
is taken. -/
def Guarded (step : σ → α → Option σ) (allowed : σ → α → Prop)
    (start : σ) (actions : List α) : Prop :=
  ∀ earlier action later, actions = earlier ++ action :: later →
    ∀ state, run step start earlier = some state → allowed state action

theorem guarded_nil {allowed : σ → α → Prop} :
    Guarded step allowed start [] := by
  intro earlier action later split
  cases earlier <;> cases split

/-- A run is guarded action by action. -/
theorem guarded_cons_iff {allowed : σ → α → Prop} {action : α}
    {actions : List α} :
    Guarded step allowed start (action :: actions) ↔
      allowed start action ∧
        ∀ next, step start action = some next →
          Guarded step allowed next actions := by
  constructor
  · intro guarded
    refine ⟨guarded [] action actions rfl start rfl, ?_⟩
    intro next taken earlier chosen later split state reached
    refine guarded (action :: earlier) chosen later ?_ state ?_
    · rw [split, List.cons_append]
    · rw [run, taken, Option.bind_some, reached]
  · rintro ⟨first, rest⟩ earlier chosen later split state reached
    cases earlier with
    | nil =>
        cases split
        cases reached
        exact first
    | cons head tail =>
        cases split
        obtain ⟨next, taken, reached⟩ := Option.bind_eq_some_iff.mp reached
        exact rest next taken tail chosen later rfl state reached

instance decidableGuarded {allowed : σ → α → Prop}
    [∀ state, DecidablePred (allowed state)] :
    ∀ (start : σ) (actions : List α),
      Decidable (Guarded step allowed start actions)
  | _, [] => isTrue guarded_nil
  | start, action :: actions =>
      have : Decidable (∀ next, step start action = some next →
          Guarded step allowed next actions) :=
        match step start action with
        | none => isTrue fun _ taken => nomatch taken
        | some next =>
            match decidableGuarded next actions with
            | isTrue guarded => isTrue fun _ taken =>
                Option.some.inj taken ▸ guarded
            | isFalse unguarded => isFalse fun every =>
                unguarded (every next rfl)
      decidable_of_iff' _ guarded_cons_iff

/-- The run rule for guarded runs. -/
theorem guarded_induction {allowed : σ → α → Prop}
    (holds : List α → σ → Prop)
    (initially : holds [] start)
    (preserved : ∀ history state action next,
      holds history state → allowed state action →
        step state action = some next → holds (history ++ [action]) next)
    {actions : List α} (guarded : Guarded step allowed start actions)
    (reached : run step start actions = some final) :
    holds actions final := by
  induction actions using List.reverseRecOn generalizing final with
  | nil =>
      cases reached
      exact initially
  | append_singleton earlier action inductionHypothesis =>
      obtain ⟨middle, before, taken⟩ := run_concat_eq_some_iff.mp reached
      have guardedEarlier : Guarded step allowed start earlier := by
        intro first chosen rest split
        refine guarded first chosen (rest ++ [action]) ?_
        rw [split, List.append_assoc, List.cons_append]
      exact preserved earlier middle action final
        (inductionHypothesis guardedEarlier before)
        (guarded earlier action [] rfl middle before) taken

theorem guarded_and_iff {left right : σ → α → Prop} {actions : List α} :
    Guarded step (fun state action => left state action ∧ right state action)
        start actions ↔
      Guarded step left start actions ∧ Guarded step right start actions := by
  constructor
  · intro guarded
    constructor
    · intro earlier action later split state reached
      exact (guarded earlier action later split state reached).1
    · intro earlier action later split state reached
      exact (guarded earlier action later split state reached).2
  · rintro ⟨first, second⟩ earlier action later split state reached
    exact ⟨first earlier action later split state reached,
      second earlier action later split state reached⟩

/-- Two conditions agree on runs if they agree where an invariant holds that
the steps allowed by one of them keep. -/
theorem guarded_iff_of_invariant {left right : σ → α → Prop}
    (holds : σ → Prop)
    (agree : ∀ state action, holds state →
      (left state action ↔ right state action))
    (preserved : ∀ state action next, holds state → left state action →
      step state action = some next → holds next)
    (initially : holds start) (actions : List α) :
    Guarded step left start actions ↔ Guarded step right start actions := by
  induction actions generalizing start with
  | nil => exact iff_of_true guarded_nil guarded_nil
  | cons action actions inductionHypothesis =>
      rw [guarded_cons_iff, guarded_cons_iff, ← agree start action initially]
      refine and_congr_right fun allowed => ?_
      exact forall₂_congr fun next taken =>
        inductionHypothesis (preserved start action next initially allowed taken)

/-! ## Observed runs -/

universe w

variable {ω : Type w}

/-- The step function with a record of what happened, which no step reads. -/
def observed (step : σ → α → Option σ) (observe : σ → α → ω → ω)
    (state : σ × ω) (action : α) : Option (σ × ω) :=
  (step state.1 action).map fun next =>
    (next, observe state.1 action state.2)

variable {observe : σ → α → ω → ω} {seen : ω}

theorem observed_eq_some_iff {state next : σ × ω} {action : α} :
    observed step observe state action = some next ↔
      step state.1 action = some next.1 ∧
        next.2 = observe state.1 action state.2 := by
  rw [observed, Option.map_eq_some_iff]
  constructor
  · rintro ⟨after, taken, rfl⟩
    exact ⟨taken, rfl⟩
  · rintro ⟨taken, same⟩
    exact ⟨next.1, taken, Prod.ext rfl same.symm⟩

/-- Forgetting the record leaves a run. -/
theorem run_of_run_observed {actions : List α} {finally_ : σ × ω}
    (reached : run (observed step observe) (start, seen) actions =
      some finally_) :
    run step start actions = some finally_.1 := by
  refine run_induction
    (fun history state => run step start history = some state.1) rfl ?_
      reached
  intro history state action next before taken
  exact run_concat_eq_some_iff.mpr
    ⟨state.1, before, (observed_eq_some_iff.mp taken).1⟩

/-- The run rule for observed runs.  A step may use that its state has been
reached. -/
theorem observed_induction (holds : List α → σ → ω → Prop)
    (initially : holds [] start seen)
    (preserved : ∀ history state recorded action next,
      run step start history = some state → holds history state recorded →
        step state action = some next →
          holds (history ++ [action]) next (observe state action recorded))
    {actions : List α} {finally_ : σ × ω}
    (reached : run (observed step observe) (start, seen) actions =
      some finally_) :
    holds actions finally_.1 finally_.2 := by
  refine (run_induction
    (fun history state =>
      run step start history = some state.1 ∧
        holds history state.1 state.2) ⟨rfl, initially⟩ ?_ reached).2
  rintro history state action next ⟨before, holding⟩ moved
  obtain ⟨taken, recorded_eq⟩ := observed_eq_some_iff.mp moved
  refine ⟨run_concat_eq_some_iff.mpr ⟨state.1, before, taken⟩, ?_⟩
  rw [recorded_eq]
  exact preserved history state.1 state.2 action next.1 before holding taken

end Transition
