import Carbonshift.Executor.JobRuns

/-!
# What a call of `submit` is answered

A call that is answered with a job has created it, or found the one that an
equal call created.
-/

namespace Carbonshift

namespace Executor

variable {ι κ ω : Type}

namespace JobQueue

variable {queue : JobQueue ι κ ω}

/-- A job stands for the dispatch of the identifier. -/
def HasJob [BEq ι] [BEq κ] [EmptyCollection κ] (queue : JobQueue ι κ ω)
    (requestId : String) (dispatch : Dispatch ι κ) : Prop :=
  ∃ data ∈ queue.data,
    data.requestId = requestId ∧ data.sameDispatch dispatch = true

theorem existingJob_eq_some (indexed : queue.Indexed) {requestId : String}
    {reference : ℕ} {job : Job ι κ ω}
    (existing : queue.existingJob requestId = some (reference, job)) :
    job.toJobData ∈ queue.data ∧ job.requestId = requestId := by
  obtain ⟨place, found, there⟩ := Option.bind_eq_some_iff.mp existing
  obtain ⟨stored, held, same⟩ := Option.map_eq_some_iff.mp there
  cases same
  obtain ⟨data, known, own⟩ := (indexed requestId reference).mp found
  have same : queue.data[reference]? = some job.toJobData :=
    data_eq_some_iff.mpr ⟨job, held, rfl⟩
  rw [known, Option.some.injEq] at same
  refine ⟨List.mem_of_getElem? (i := reference) ?_, ?_⟩
  · rw [known, same]
  · rw [← own, same]

theorem submit_grows [BEq ι] [BEq κ] [EmptyCollection κ]
    (repr : String → String) (dispatch : Dispatch ι κ) (requestId : String)
    (executeAt now : ℤ) :
    queue.data <+:
      (queue.submit repr dispatch requestId executeAt now).2.data := by
  unfold submit
  split
  · split <;> exact List.prefix_refl _
  · rw [append_data]
    exact List.prefix_append _ _

/-- A job of the queue was there before, or stands for the dispatch. -/
theorem mem_data_of_submit [BEq ι] [ReflBEq ι] [BEq κ] [ReflBEq κ]
    [EmptyCollection κ] {repr : String → String} {dispatch : Dispatch ι κ}
    {requestId : String} {executeAt now : ℤ}
    (due : (dispatch.executeAt.all fun provided =>
      executeAt == provided) = true) {data : JobData ι κ}
    (member : data ∈
      (queue.submit repr dispatch requestId executeAt now).2.data) :
    data ∈ queue.data ∨
      (data.requestId = requestId ∧
        data.callbackUrl = dispatch.callbackUrl ∧
          data.sameDispatch dispatch = true) := by
  unfold submit at member
  split at member
  · split at member <;> exact Or.inl member
  · rw [append_data] at member
    rcases List.mem_append.mp member with earlier | last
    · exact Or.inl earlier
    · cases List.mem_singleton.mp last
      exact Or.inr ⟨rfl, rfl, by simp [JobData.sameDispatch, due]⟩

/-- A good answer names a job that stands for the dispatch. -/
theorem hasJob_of_submit [BEq ι] [ReflBEq ι] [BEq κ] [ReflBEq κ]
    [EmptyCollection κ] (indexed : queue.Indexed) {repr : String → String}
    {dispatch : Dispatch ι κ} {requestId : String} {executeAt now : ℤ}
    (due : (dispatch.executeAt.all fun provided =>
      executeAt == provided) = true) {reference : ℕ}
    (answered : (queue.submit repr dispatch requestId executeAt now).1 =
      .ok reference) :
    (queue.submit repr dispatch requestId executeAt now).2.HasJob requestId
      dispatch := by
  unfold submit at answered ⊢
  cases existing : queue.existingJob requestId with
  | some found =>
      obtain ⟨place, job⟩ := found
      rw [existing] at answered
      dsimp only at answered ⊢
      by_cases same : job.sameDispatch dispatch = true
      · rw [if_pos same]
        obtain ⟨member, own⟩ := existingJob_eq_some indexed existing
        exact ⟨job.toJobData, member, own, same⟩
      · rw [if_neg same] at answered
        cases answered
  | none =>
      have last : ∀ data : JobData ι κ, data ∈ (queue.append data).data := by
        intro data
        rw [append_data]
        exact List.mem_append_right _ (List.mem_singleton_self _)
      refine ⟨_, last _, rfl, ?_⟩
      simp [JobData.sameDispatch, due]

end JobQueue

namespace ExecutorState

variable {state next : ExecutorState ι κ ω}

/-- Calls are numbered in the order of their arrival. -/
def Numbered (state : ExecutorState ι κ ω) : Prop :=
  ∀ submissionId ∈ state.submissions, submissionId < state.received

section Steps

variable [BEq ι] [BEq κ] [EmptyCollection κ] {formats : Formats}
variable {action : Action ι κ ω}

/-- What a step does to the calls of `submit`. -/
inductive CallEffect (formats : Formats) (state : ExecutorState ι κ ω) :
    Action ι κ ω → ExecutorState ι κ ω → Prop where
  | same {action : Action ι κ ω} {next : ExecutorState ι κ ω}
      (submissions_eq : next.submissions = state.submissions)
      (received_eq : next.received = state.received)
      (data_eq : next.queue.data = state.queue.data) :
      CallEffect formats state action next
  | arrived {dispatch : Dispatch ι κ} {generated : String} {wall : ℤ} :
      CallEffect formats state (.submit dispatch generated wall)
        { state with
          submissions :=
            state.submissions.insert state.received
              (.arrived dispatch (dispatch.requestIdOr generated)
                (dispatch.executeAt.getD (state.clock.now wall)))
          received := state.received + 1 }
  | answered {submissionId : ℕ} {wall : ℤ} {dispatch : Dispatch ι κ}
      {requestId : String} {executeAt : ℤ}
      (found : state.submissions.lookup submissionId =
        some (.arrived dispatch requestId executeAt)) :
      CallEffect formats state (.enqueue submissionId wall)
        { state with
          queue :=
            (state.queue.submit formats.repr dispatch requestId executeAt
              (state.clock.now wall)).2
          submissions :=
            state.submissions.insert submissionId
              (.answered
                (state.queue.submit formats.repr dispatch requestId executeAt
                  (state.clock.now wall)).1) }

theorem step_calls (taken : step formats state action = some next) :
    CallEffect formats state action next := by
  cases action with
  | submit dispatch generated wall =>
      cases taken
      exact .arrived
  | enqueue submissionId wall =>
      simp only [step] at taken
      split at taken
      · rename_i dispatch requestId executeAt found
        cases taken
        exact .answered found
      · cases taken
  | advanceSlot body =>
      simp only [step] at taken
      split at taken <;>
      · cases taken
        exact .same rfl rfl rfl
  | readClock wall =>
      simp only [step] at taken
      split at taken <;> cases taken
      exact .same rfl rfl rfl
  | pop =>
      simp only [step] at taken
      split at taken
      · rename_i now _
        split at taken
        · cases taken
          exact .same rfl rfl rfl
        · rename_i queue found
          rcases JobQueue.popNextDue_cases found with same | ⟨_, some_, _⟩
          · cases same
            cases taken
            exact .same rfl rfl rfl
          · cases some_
        · rename_i reference queue found
          rcases JobQueue.popNextDue_cases found with
            same | ⟨other, some_, _, jobs_eq, _⟩
          · cases same
          · cases taken
            exact .same rfl rfl (congrArg (List.map Job.toJobData) jobs_eq)
      · cases taken
  | wake =>
      simp only [step] at taken
      split at taken <;> cases taken
      exact .same rfl rfl rfl
  | start wall =>
      simp only [step] at taken
      split at taken <;> cases taken
      exact .same rfl rfl
        (JobQueue.updateJob_data _ (JobQueue.start_toJobData _))
  | finish outcome wall =>
      simp only [step] at taken
      split at taken <;> cases taken
      exact .same rfl rfl
        (JobQueue.updateJob_data _ (JobQueue.finish_toJobData outcome _))

theorem CallEffect.data_grows
    (effect : CallEffect formats state action next) :
    state.queue.data <+: next.queue.data := by
  cases effect with
  | same _ _ data_eq => rw [data_eq]
  | arrived => exact List.prefix_refl _
  | answered _ => exact JobQueue.submit_grows _ _ _ _ _

theorem Numbered.step (numbered : state.Numbered)
    (effect : CallEffect formats state action next) : next.Numbered := by
  intro submissionId member
  cases effect with
  | same submissions_eq received_eq _ =>
      rw [submissions_eq] at member
      rw [received_eq]
      exact numbered submissionId member
  | arrived =>
      dsimp only at member ⊢
      rcases AList.mem_insert _ |>.mp member with own | earlier
      · omega
      · exact (numbered submissionId earlier).trans (Nat.lt_succ_self _)
  | answered found =>
      rcases AList.mem_insert _ |>.mp member with own | earlier
      · rw [own]
        exact numbered _ (Dictionary.mem_of_lookup found)
      · exact numbered submissionId earlier

/-- The call submits the dispatch, and its good answers name a job for it. -/
inductive Answers (state : ExecutorState ι κ ω) (submissionId : ℕ)
    (requestId : String) (dispatch : Dispatch ι κ) : Prop where
  | arrived {executeAt : ℤ}
      (found : state.submissions.lookup submissionId =
        some (.arrived dispatch requestId executeAt))
      (due : (dispatch.executeAt.all fun provided =>
        executeAt == provided) = true)
  | answered {answer : Except String ℕ}
      (found : state.submissions.lookup submissionId = some (.answered answer))
      (job : ∀ reference, answer = .ok reference →
        state.queue.HasJob requestId dispatch)

theorem Answers.step [ReflBEq ι] [ReflBEq κ] {submissionId : ℕ}
    {requestId : String} {dispatch : Dispatch ι κ}
    (answers : state.Answers submissionId requestId dispatch)
    (indexed : state.queue.Indexed) (numbered : state.Numbered)
    (effect : CallEffect formats state action next) :
    next.Answers submissionId requestId dispatch := by
  have more := effect.data_grows
  have keeps : state.queue.HasJob requestId dispatch →
      next.queue.HasJob requestId dispatch := fun ⟨data, member, job⟩ =>
    ⟨data, more.subset member, job⟩
  have known : submissionId < state.received := by
    cases answers with
    | arrived found _ => exact numbered _ (Dictionary.mem_of_lookup found)
    | answered found _ => exact numbered _ (Dictionary.mem_of_lookup found)
  cases effect with
  | same submissions_eq _ _ =>
      cases answers with
      | arrived found due =>
          rw [← submissions_eq] at found
          exact .arrived found due
      | answered found job =>
          rw [← submissions_eq] at found
          exact .answered found fun reference good =>
            keeps (job reference good)
  | arrived =>
      have other : submissionId ≠ state.received := known.ne
      cases answers with
      | arrived found due =>
          refine .arrived (?_ : _ = _) due
          rw [AList.lookup_insert_ne other, found]
      | answered found job =>
          refine .answered (?_ : _ = _) job
          rw [AList.lookup_insert_ne other, found]
  | @answered answeredId wall other otherId executeAt there =>
      by_cases own : submissionId = answeredId
      · subst own
        cases answers with
        | arrived found due =>
            rw [there] at found
            cases found
            refine .answered (AList.lookup_insert _) fun reference good => ?_
            exact JobQueue.hasJob_of_submit indexed due good
        | answered found _ =>
            rw [there] at found
            cases found
      · cases answers with
        | arrived found due =>
            refine .arrived (?_ : _ = _) due
            rw [AList.lookup_insert_ne own, found]
        | answered found job =>
            refine .answered (?_ : _ = _) fun reference good =>
              keeps (job reference good)
            rw [AList.lookup_insert_ne own, found]

/-- A call that has just arrived. -/
theorem answers_of_submit {dispatch : Dispatch ι κ} {generated : String}
    {wall : ℤ}
    (taken : step formats state (.submit dispatch generated wall) =
      some next) :
    next.Answers state.received (dispatch.requestIdOr generated) dispatch := by
  cases taken
  refine .arrived (AList.lookup_insert _) ?_
  cases dispatch.executeAt with
  | none => rfl
  | some provided => exact beq_self_eq_true provided

end Steps

end ExecutorState

end Executor

end Carbonshift
