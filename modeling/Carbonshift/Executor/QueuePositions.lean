import Carbonshift.Executor.DueOrder
import Carbonshift.Library.DictionarySums
import Mathlib.Data.List.Sort

/-!
# Positions in the job queue

A submission is answered with the position of its job.  The jobs in front of it
then are the ones that the worker takes before it, and no job comes in between
later unless it is due in an earlier second.
-/

namespace Carbonshift

namespace Executor

variable {ι κ ω : Type}

namespace JobQueue

/-- The references, second by second. -/
def servingOrder (queue : JobQueue ι κ ω) : List ℕ :=
  (queue.slots.keys.insertionSort (· ≤ ·)).flatMap fun slotTime =>
    queue.slots.getD slotTime []

/-- Number of jobs in front of the job, or of all jobs if it is not there. -/
def queuePosition (queue : JobQueue ι κ ω) (reference : ℕ) : ℕ :=
  queue.servingOrder.idxOf reference

/-- The identifiers of the jobs, second by second. -/
def snapshot (iso : ℤ → String) (queue : JobQueue ι κ ω) :
    List (String × List String) :=
  (queue.slots.keys.insertionSort (· ≤ ·)).map fun slotTime =>
    (iso slotTime,
      (queue.slots.getD slotTime []).filterMap fun reference =>
        queue.data[reference]?.map JobData.requestId)

/-- The second in which a job is due. -/
def second (queue : JobQueue ι κ ω) (reference : ℕ) : ℤ :=
  match queue.data[reference]? with
  | some data => slotKey data.executeAt
  | none => 0

/-- One job is due in an earlier second, or came first in the same one. -/
def Ahead (queue : JobQueue ι κ ω) (first other : ℕ) : Prop :=
  queue.second first < queue.second other ∨
    queue.second first = queue.second other ∧ first < other

variable {queue next : JobQueue ι κ ω} {first other : ℕ}

theorem second_of_data {data : JobData ι κ}
    (there : queue.data[first]? = some data) :
    queue.second first = slotKey data.executeAt := by
  rw [second, there]

theorem second_of_prefix (more : queue.data <+: next.data)
    (inside : first < queue.data.length) :
    next.second first = queue.second first := by
  obtain ⟨added, same⟩ := more
  rw [second, second, ← same, List.getElem?_append_left inside]

theorem Ahead.of_prefix (ahead : queue.Ahead first other)
    (more : queue.data <+: next.data) (inside : first < queue.data.length)
    (otherInside : other < queue.data.length) : next.Ahead first other := by
  rw [Ahead, second_of_prefix more inside, second_of_prefix more otherInside]
  exact ahead

theorem Ahead.asymm (ahead : queue.Ahead first other)
    (behind : queue.Ahead other first) : False := by
  rcases ahead with earlier | ⟨same, before⟩ <;>
    rcases behind with later | ⟨_, after⟩
  · exact lt_asymm earlier later
  · omega
  · omega
  · exact lt_asymm before after

/-! ## The order of the jobs -/

theorem servingOrder_perm (queue : JobQueue ι κ ω) :
    queue.servingOrder.Perm queue.waiting := by
  have listed : queue.slots.values =
      queue.slots.keys.map fun slotTime => queue.slots.getD slotTime [] := by
    rw [Dictionary.values, AList.keys, List.keys, List.map_map]
    refine List.map_congr_left fun entry member => ?_
    exact (Dictionary.getD_of_lookup (AList.mem_lookup_iff.mpr member) []).symm
  rw [waiting, listed, ← List.flatMap_def]
  exact (List.perm_insertionSort _ _).flatMap_right _

/-- A snapshot shows the jobs in the order of their positions. -/
theorem snapshot_flatMap (iso : ℤ → String) (queue : JobQueue ι κ ω) :
    (queue.snapshot iso).flatMap Prod.snd =
      queue.servingOrder.filterMap fun reference =>
        queue.data[reference]?.map JobData.requestId := by
  rw [snapshot, servingOrder, List.flatMap_map, List.filterMap_flatMap]

theorem mem_servingOrder_iff :
    first ∈ queue.servingOrder ↔ first ∈ queue.waiting :=
  queue.servingOrder_perm.mem_iff

theorem Filed.inside (filed : queue.Filed)
    (member : first ∈ queue.servingOrder) : first < queue.data.length := by
  obtain ⟨key, references, found, listed⟩ :=
    mem_waiting_iff.mp (mem_servingOrder_iff.mp member)
  obtain ⟨data, there, _⟩ :=
    (filed key references found).own_second first listed
  exact (List.getElem?_eq_some_iff.mp there).1

/-- Nobody stands behind a job that is due later. -/
theorem Filed.pairwise_servingOrder (filed : queue.Filed) :
    queue.servingOrder.Pairwise queue.Ahead := by
  have own : ∀ key, ∀ reference ∈ queue.slots.getD key [],
      queue.second reference = key := by
    intro key reference member
    obtain ⟨data, there, same⟩ := (filed.getD key).2 reference member
    rw [second_of_data there, same]
  rw [servingOrder, List.pairwise_flatMap]
  constructor
  · intro key _
    refine (filed.getD key).1.imp_of_mem ?_
    intro earlier later member behind before
    refine Or.inr ⟨?_, before⟩
    rw [own key earlier member, own key later behind]
  · have distinct : (queue.slots.keys.insertionSort (· ≤ ·)).Nodup :=
      (List.perm_insertionSort _ _).nodup_iff.mpr queue.slots.keys_nodup
    refine ((List.pairwise_insertionSort (· ≤ ·) queue.slots.keys).and
      distinct).imp ?_
    rintro earlier later ⟨sorted, different⟩ reference member other behind
    refine Or.inl ?_
    rw [own earlier reference member, own later other behind]
    exact lt_of_le_of_ne sorted different

theorem Filed.nodup_servingOrder (filed : queue.Filed) :
    queue.servingOrder.Nodup := by
  refine filed.pairwise_servingOrder.imp ?_
  rintro earlier later ahead rfl
  exact ahead.asymm ahead

/-- The order is the only one of the jobs that has no job behind a later
one. -/
theorem Filed.eq_servingOrder (filed : queue.Filed) {references : List ℕ}
    (perm : references.Perm queue.servingOrder)
    (ordered : references.Pairwise queue.Ahead) :
    references = queue.servingOrder :=
  List.Perm.eq_of_pairwise
    (fun _ _ _ _ ahead behind => (ahead.asymm behind).elim) ordered
    filed.pairwise_servingOrder perm

/-- The jobs that wait stay in their order when others come. -/
theorem Filed.filter_servingOrder (filed : queue.Filed)
    (nextFiled : next.Filed) (more : queue.data <+: next.data)
    {chosen : ℕ → Bool}
    (perm : (next.servingOrder.filter chosen).Perm
      (queue.servingOrder.filter chosen)) :
    next.servingOrder.filter chosen = queue.servingOrder.filter chosen := by
  have known : ∀ {reference : ℕ},
      reference ∈ queue.servingOrder.filter chosen →
        reference < queue.data.length := fun member =>
    filed.inside (List.mem_filter.mp member).1
  refine List.Perm.eq_of_pairwise ?_
    (nextFiled.pairwise_servingOrder.filter _) ?_ perm
  · exact fun _ _ _ _ ahead behind => (ahead.asymm behind).elim
  refine (filed.pairwise_servingOrder.filter _).imp_of_mem ?_
  intro earlier later member behind ahead
  exact ahead.of_prefix more (known member) (known behind)

end JobQueue

/-! ## Steps -/

namespace ExecutorState

variable {state next : ExecutorState ι κ ω}

/-- The reference that a step takes out of the queue. -/
def takenOut (state next : ExecutorState ι κ ω) : List ℕ :=
  match state.worker, next.worker with
  | .clocked _, .popped reference => [reference]
  | _, _ => []

variable [BEq ι] [BEq κ] [EmptyCollection κ] {formats : Formats}
variable {action : Action ι κ ω}

/-- A job comes into the worker's hand from the queue. -/
theorem clocked_of_popped (taken : step formats state action = some next)
    {reference : ℕ} (hand : next.worker = .popped reference)
    (before : ∀ other, state.worker ≠ .popped other) :
    (∃ now, state.worker = .clocked now) ∧
      (state.queue.Filed → state.queue.TakesOldest reference) := by
  cases action with
  | pop =>
      refine ⟨?_, fun filed => takesOldest_of_pop filed taken hand⟩
      simp only [step] at taken
      split at taken
      · rename_i now clocked
        exact ⟨now, clocked⟩
      · cases taken
  | submit dispatch generated wall =>
      cases taken
      exact absurd hand (before reference)
  | enqueue submissionId wall =>
      simp only [step] at taken
      split at taken
      · cases taken
        exact absurd hand (before reference)
      · cases taken
  | advanceSlot body =>
      simp only [step] at taken
      split at taken <;>
      · cases taken
        exact absurd hand (before reference)
  | readClock wall =>
      simp only [step] at taken
      split at taken
      · cases taken
        cases hand
      · cases taken
  | wake =>
      simp only [step] at taken
      split at taken
      · cases taken
        cases hand
      · cases taken
  | start wall =>
      -- without a job in hand there is nothing to start
      simp only [step] at taken
      cases taken
  | finish outcome wall =>
      simp only [step] at taken
      split at taken
      · cases taken
        cases hand
      · cases taken

/-- What a step does to the order of the jobs: the worker takes the first one,
or the jobs keep their order and newer ones may join them. -/
theorem servingOrder_of_step (filed : state.queue.Filed)
    (taken : step formats state action = some next) :
    state.queue.data <+: next.queue.data ∧
      ((∃ reference, takenOut state next = [reference] ∧
          next.queue.data = state.queue.data ∧
          state.queue.servingOrder = reference :: next.queue.servingOrder) ∨
        takenOut state next = [] ∧
          ∀ bound ≤ state.queue.data.length,
            next.queue.servingOrder.filter (· < bound) =
              state.queue.servingOrder.filter (· < bound)) := by
  have nextFiled := filed_of_step filed taken
  have idle : (∀ reference, next.worker = .popped reference →
      state.worker = .popped reference) → takenOut state next = [] := by
    intro hand
    rw [takenOut]
    split
    · rename_i now reference clocked popped
      rw [hand reference popped] at clocked
      cases clocked
    · rfl
  have aside : next.queue.data = state.queue.data →
      next.queue.waiting = state.queue.waiting →
        ∀ bound ≤ state.queue.data.length,
          next.queue.servingOrder.filter (· < bound) =
            state.queue.servingOrder.filter (· < bound) := by
    intro data_eq waiting_eq bound _
    have perm : next.queue.servingOrder.Perm state.queue.servingOrder := by
      refine next.queue.servingOrder_perm.trans ?_
      rw [waiting_eq]
      exact state.queue.servingOrder_perm.symm
    refine filed.filter_servingOrder nextFiled ?_ (perm.filter _)
    rw [data_eq]
  cases step_jobs taken with
  | same jobs _ =>
      refine ⟨?_, Or.inr ⟨idle jobs.worker,
        aside jobs.data_eq jobs.waiting_eq⟩⟩
      rw [jobs.data_eq]
  | @created data _ _ queue_eq worker_eq =>
      have more : state.queue.data <+: next.queue.data := by
        rw [queue_eq, JobQueue.append_data]
        exact List.prefix_append _ _
      refine ⟨more, Or.inr ⟨idle ?_, ?_⟩⟩
      · intro reference hand
        rwa [worker_eq] at hand
      · intro bound old
        refine filed.filter_servingOrder nextFiled more ?_
        have joined : next.queue.servingOrder.Perm
            (state.queue.jobs.length :: state.queue.servingOrder) := by
          refine next.queue.servingOrder_perm.trans ?_
          rw [queue_eq]
          exact (state.queue.append_waiting data).trans
            (state.queue.servingOrder_perm.symm.cons _)
        refine (joined.filter _).trans ?_
        rw [List.filter_cons_of_neg]
        rw [JobQueue.data, List.length_map] at old
        simpa using old
  | @popped reference _ perm data_eq _ before worker_eq =>
      refine ⟨by rw [data_eq], Or.inl ⟨reference, ?_, data_eq, ?_⟩⟩
      · obtain ⟨⟨now, clocked⟩, _⟩ := clocked_of_popped taken worker_eq before
        rw [takenOut, clocked, worker_eq]
      · obtain ⟨data, there, oldest⟩ :=
          (clocked_of_popped taken worker_eq before).2 filed
        have whole : (reference :: next.queue.servingOrder).Perm
            state.queue.servingOrder :=
          (next.queue.servingOrder_perm.cons _).trans
            (perm.symm.trans state.queue.servingOrder_perm.symm)
        have distinct := whole.nodup_iff.mpr filed.nodup_servingOrder
        refine (filed.eq_servingOrder whole ?_).symm
        refine List.pairwise_cons.mpr ⟨?_, ?_⟩
        · intro other member
          have waits : other ∈ state.queue.servingOrder :=
            whole.subset (List.mem_cons_of_mem _ member)
          obtain ⟨otherData, otherThere⟩ : ∃ data,
              state.queue.data[other]? = some data :=
            ⟨_, List.getElem?_eq_getElem (filed.inside waits)⟩
          rw [JobQueue.Ahead, JobQueue.second_of_data there,
            JobQueue.second_of_data otherThere]
          refine (oldest other (JobQueue.mem_servingOrder_iff.mp waits)
            otherData otherThere).imp_right ?_
          rintro ⟨same, before⟩
          refine ⟨same, lt_of_le_of_ne before ?_⟩
          rintro rfl
          exact (List.nodup_cons.mp distinct).1 member
        · refine nextFiled.pairwise_servingOrder.imp ?_
          intro earlier later ahead
          rw [JobQueue.Ahead, JobQueue.second, JobQueue.second, data_eq]
            at ahead
          exact ahead
  | @started reference _ before data_eq waiting_eq _ worker_eq =>
      refine ⟨by rw [data_eq], Or.inr ⟨idle ?_,
        aside data_eq waiting_eq⟩⟩
      intro other hand
      rw [worker_eq] at hand
      cases hand

/-! ## Runs -/

/-- The references taken out so far. -/
def observeTaken (formats : Formats) (state : ExecutorState ι κ ω)
    (action : Action ι κ ω) (taken : List ℕ) : List ℕ :=
  match step formats state action with
  | none => taken
  | some next => taken ++ takenOut state next

/-- How the queue compares with an earlier one: the jobs that were there are
taken in their order, and a newer one overtakes only if it is due in an earlier
second. -/
structure Served (start : JobQueue ι κ ω) (state : ExecutorState ι κ ω)
    (taken : List ℕ) : Prop where
  filed : state.queue.Filed
  more : start.data <+: state.queue.data
  inside : ∀ reference ∈ taken, reference < state.queue.data.length
  old_eq : (taken ++ state.queue.servingOrder).filter
    (· < start.data.length) = start.servingOrder
  overtaken : (taken ++ state.queue.servingOrder).Pairwise fun newer old =>
    start.data.length ≤ newer → old < start.data.length →
      state.queue.second newer < state.queue.second old

variable {start : JobQueue ι κ ω} {taken : List ℕ}

omit [BEq ι] [BEq κ] [EmptyCollection κ] in
theorem Served.initially (filed : state.queue.Filed) :
    Served state.queue state [] where
  filed := filed
  more := List.prefix_rfl
  inside _ member := absurd member List.not_mem_nil
  old_eq := by
    rw [List.nil_append, List.filter_eq_self]
    intro reference member
    exact decide_eq_true (filed.inside member)
  overtaken := by
    rw [List.nil_append]
    refine List.Pairwise.imp_of_mem ?_ filed.pairwise_servingOrder
    intro newer old member _ _ late
    exact absurd (filed.inside member) (not_lt.mpr late)

theorem Served.step (served : Served start state taken)
    (stepped : step formats state action = some next) :
    Served start next (taken ++ takenOut state next) := by
  have filed := served.filed
  have nextFiled := filed_of_step filed stepped
  obtain ⟨more, effect⟩ := servingOrder_of_step filed stepped
  have insideNext : ∀ reference ∈ taken,
      reference < next.queue.data.length := fun reference member =>
    (served.inside reference member).trans_le more.length_le
  rcases effect with ⟨reference, out, data_eq, order⟩ | ⟨out, kept⟩
  · -- the first job moves over to those that were taken
    have whole : taken ++ takenOut state next ++ next.queue.servingOrder =
        taken ++ state.queue.servingOrder := by
      rw [out, order, List.append_assoc, List.singleton_append]
    have seconds : ∀ other,
        next.queue.second other = state.queue.second other := by
      intro other
      rw [JobQueue.second, JobQueue.second, data_eq]
    refine ⟨nextFiled, served.more.trans more, ?_, ?_, ?_⟩
    · intro other member
      rcases List.mem_append.mp member with earlier | last
      · exact insideNext other earlier
      · rw [out] at last
        rw [List.mem_singleton.mp last, data_eq]
        refine filed.inside ?_
        rw [order]
        exact List.mem_cons_self
    · rw [whole]
      exact served.old_eq
    · rw [whole]
      refine served.overtaken.imp ?_
      intro newer old before
      rw [seconds, seconds]
      exact before
  · rw [out, List.append_nil]
    have same := kept start.data.length served.more.length_le
    have old_eq := served.old_eq
    rw [List.filter_append, ← same, ← List.filter_append] at old_eq
    refine ⟨nextFiled, served.more.trans more, insideNext, old_eq, ?_⟩
    obtain ⟨among, _, across⟩ := List.pairwise_append.mp served.overtaken
    have seconds : ∀ {other : ℕ}, other < state.queue.data.length →
        next.queue.second other = state.queue.second other := fun inside =>
      JobQueue.second_of_prefix more inside
    refine List.pairwise_append.mpr ⟨?_, ?_, ?_⟩
    · refine List.Pairwise.imp_of_mem ?_ among
      intro newer old member behind before
      rw [seconds (served.inside newer member),
        seconds (served.inside old behind)]
      exact before
    · -- a newer job in front of an old one is due in an earlier second
      refine nextFiled.pairwise_servingOrder.imp ?_
      intro newer old ahead late early
      rcases ahead with earlier | ⟨_, before⟩
      · exact earlier
      · omega
    · intro newer member old behind late early
      have waits : old ∈ state.queue.servingOrder := by
        have listed : old ∈ next.queue.servingOrder.filter
            (· < start.data.length) :=
          List.mem_filter.mpr ⟨behind, decide_eq_true early⟩
        rw [same] at listed
        exact (List.mem_filter.mp listed).1
      rw [seconds (served.inside newer member), seconds (filed.inside waits)]
      exact across newer member old waits late early

theorem served_of_run {actions : List (Action ι κ ω)}
    (filed : state.queue.Filed)
    (reached : Transition.run
      (Transition.observed (step formats) (observeTaken formats))
      (state, []) actions = some (next, taken)) :
    Served state.queue next taken := by
  refine Transition.run_induction
    (fun _ reached => Served state.queue reached.1 reached.2)
    (Served.initially filed) ?_ reached
  rintro _ ⟨before, earlier⟩ action ⟨after, later⟩ served observed
  obtain ⟨stepped, same⟩ := Transition.observed_eq_some_iff.mp observed
  dsimp only at served stepped same ⊢
  rw [same, observeTaken, stepped]
  exact served.step stepped

/-- The reported position of a job is the number of queued jobs that are taken
before it, in every run that goes on from the report.  Whatever else is taken
before it came later and is due in an earlier second. -/
theorem queue_position_predicts_service {clock : VirtualClock}
    {earlier later : List (Action ι κ ω)}
    (reached : Transition.run (step formats) (new clock) earlier = some state)
    (continued : Transition.run
      (Transition.observed (step formats) (observeTaken formats))
      (state, []) later = some (next, taken))
    {reference : ℕ} (queued : reference ∈ state.queue.waiting) :
    (∀ before after, taken = before ++ reference :: after →
      before.countP (· < state.queue.data.length) =
          state.queue.queuePosition reference ∧
        ∀ newer ∈ before, state.queue.data.length ≤ newer →
          next.queue.second newer < next.queue.second reference) ∧
      (reference ∉ taken →
        ∃ before after,
          next.queue.servingOrder = before ++ reference :: after ∧
            taken.countP (· < state.queue.data.length) +
                before.countP (· < state.queue.data.length) =
              state.queue.queuePosition reference) := by
  have filed := filed_of_run reached
  have served := served_of_run filed continued
  have inside : reference < state.queue.data.length :=
    filed.inside (JobQueue.mem_servingOrder_iff.mpr queued)
  have chosen : decide (reference < state.queue.data.length) = true :=
    decide_eq_true inside
  have position : ∀ before after,
      taken ++ next.queue.servingOrder = before ++ reference :: after →
        before.countP (· < state.queue.data.length) =
          state.queue.queuePosition reference := by
    intro before after split
    have order := served.old_eq
    have kept : (reference :: after).filter
        (· < state.queue.data.length) =
          reference :: after.filter (· < state.queue.data.length) :=
      List.filter_cons_of_pos chosen
    rw [split, List.filter_append, kept] at order
    have distinct := filed.nodup_servingOrder
    rw [← order] at distinct
    have absent : reference ∉ before.filter
        (· < state.queue.data.length) := fun member =>
      List.disjoint_of_nodup_append distinct member List.mem_cons_self
    rw [JobQueue.queuePosition, ← order, List.idxOf_append_of_notMem absent,
      List.idxOf_cons_self, List.countP_eq_length_filter, Nat.add_zero]
  constructor
  · intro before after split
    have whole : taken ++ next.queue.servingOrder =
        before ++ reference :: (after ++ next.queue.servingOrder) := by
      rw [split, List.append_assoc, List.cons_append]
    refine ⟨position _ _ whole, ?_⟩
    intro newer member late
    have overtaken := served.overtaken
    rw [whole] at overtaken
    exact (List.pairwise_append.mp overtaken).2.2 newer member reference
      List.mem_cons_self late inside
  · intro waits
    have old : reference ∈ (taken ++ next.queue.servingOrder).filter
        (· < state.queue.data.length) := by
      rw [served.old_eq]
      exact JobQueue.mem_servingOrder_iff.mpr queued
    have there : reference ∈ next.queue.servingOrder :=
      (List.mem_append.mp (List.mem_filter.mp old).1).resolve_left waits
    obtain ⟨before, after, split⟩ := List.append_of_mem there
    refine ⟨before, after, split, ?_⟩
    rw [← List.countP_append]
    refine position (taken ++ before) after ?_
    rw [split, List.append_assoc]

/-! ### An urgent job -/

/-- A dispatch without an identifier of its own. -/
def anonymous (microseconds : ℤ) : Dispatch String (List String) :=
  { dueAfter microseconds with requestId := none }

def wallClock : VirtualClock := { frozenAtMidnight with manual := false }

/-- Two jobs wait for the same second. -/
def twoQueued : List (Action String (List String) String) :=
  [.submit (anonymous 2000000) "first" 1577836800000000,
    .enqueue 0 1577836800000000,
    .submit (anonymous 2000000) "second" 1577836800000000,
    .enqueue 1 1577836800000000]

/-- The worker takes one job up and runs it. -/
def served : List (Action String (List String) String) :=
  [.readClock 1577836802000000,
    .pop,
    .start 1577836802000000,
    .finish (.ok "3") 1577836802000000]

/-- A third job is due at once, and the worker serves all. -/
def urgentJob : List (Action String (List String) String) :=
  [.submit (anonymous 0) "urgent" 1577836801000000,
    .enqueue 2 1577836801000000] ++ served ++ served ++ served

theorem queue_position_predicts_service_urgentJob :
    ∃ state next,
      Transition.run (step midnightForms) (new wallClock) twoQueued =
        some state ∧
      Transition.run
          (Transition.observed (step midnightForms)
            (observeTaken midnightForms)) (state, []) urgentJob =
        some (next, [2, 0, 1]) ∧
      state.queue.queuePosition 1 = 1 ∧
      next.queue.second 2 < next.queue.second 1 := by
  have runs : ((Transition.run (step midnightForms) (new wallClock)
      twoQueued).bind fun state =>
        (Transition.run
          (Transition.observed (step midnightForms)
            (observeTaken midnightForms)) (state, []) urgentJob).map
          fun reached =>
            (reached.2, decide (1 ∈ state.queue.waiting),
              decide (state.queue.data.length = 2))) =
      some ([2, 0, 1], true, true) := by
    decide +kernel
  obtain ⟨state, reached, rest⟩ := Option.bind_eq_some_iff.mp runs
  obtain ⟨⟨next, taken⟩, continued, same⟩ := Option.map_eq_some_iff.mp rest
  rw [Prod.mk.injEq, Prod.mk.injEq, decide_eq_true_eq, decide_eq_true_eq]
    at same
  obtain ⟨rfl, queued, two⟩ := same
  obtain ⟨position, overtaking⟩ :=
    (queue_position_predicts_service reached continued queued).1 [2, 0] []
      rfl
  rw [two] at position overtaking
  exact ⟨state, next, reached, continued, position.symm,
    overtaking 2 List.mem_cons_self le_rfl⟩

end ExecutorState

end Executor

end Carbonshift
