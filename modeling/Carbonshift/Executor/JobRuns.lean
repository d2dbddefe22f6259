import Carbonshift.Executor.JobQueue

/-!
# At most one job for an identifier

Job objects are found by their identifiers, a reference waits in one place,
and a job that was taken up does not come back.
-/

namespace Carbonshift

namespace Executor

variable {ι κ ω : Type}

namespace JobQueue

/-- What the jobs were created with. -/
def data (queue : JobQueue ι κ ω) : List (JobData ι κ) :=
  queue.jobs.map Job.toJobData

/-- Identifiers and job objects correspond. -/
def Indexed (queue : JobQueue ι κ ω) : Prop :=
  ∀ requestId reference,
    queue.jobsById.lookup requestId = some reference ↔
      ∃ data, queue.data[reference]? = some data ∧ data.requestId = requestId

variable {queue : JobQueue ι κ ω}

theorem data_eq_some_iff {reference : ℕ} {data : JobData ι κ} :
    queue.data[reference]? = some data ↔
      ∃ job, queue.jobs[reference]? = some job ∧ job.toJobData = data := by
  rw [JobQueue.data, List.getElem?_map, Option.map_eq_some_iff]

/-- A job object is found under its identifier. -/
theorem Indexed.existingJob_of_mem (indexed : queue.Indexed)
    {data : JobData ι κ} (member : data ∈ queue.data) :
    ∃ reference job,
      queue.existingJob data.requestId = some (reference, job) ∧
        queue.jobs[reference]? = some job ∧ job.toJobData = data := by
  obtain ⟨reference, stored⟩ := List.mem_iff_getElem?.mp member
  have found := (indexed data.requestId reference).mpr ⟨data, stored, rfl⟩
  obtain ⟨job, there, same⟩ := data_eq_some_iff.mp stored
  refine ⟨reference, job, ?_, there, same⟩
  rw [existingJob, found, Option.bind_some, there]
  rfl

/-- Two objects with one identifier are the same. -/
theorem Indexed.unique (indexed : queue.Indexed) {first second : ℕ}
    {left right : JobData ι κ} (leftAt : queue.data[first]? = some left)
    (rightAt : queue.data[second]? = some right)
    (same : left.requestId = right.requestId) : first = second := by
  have found := (indexed left.requestId first).mpr ⟨left, leftAt, rfl⟩
  have also := (indexed left.requestId second).mpr ⟨right, rightAt, same.symm⟩
  rw [found] at also
  exact Option.some.inj also

theorem Indexed.nodup (indexed : queue.Indexed) :
    (queue.data.map JobData.requestId).Nodup := by
  rw [List.nodup_iff_getElem?_ne_getElem?]
  intro first second order bound same
  rw [List.length_map] at bound
  rw [List.getElem?_map, List.getElem?_map,
    List.getElem?_eq_getElem (order.trans bound),
    List.getElem?_eq_getElem bound, Option.map_some, Option.map_some,
    Option.some.injEq] at same
  exact order.ne (indexed.unique
    (List.getElem?_eq_getElem (order.trans bound))
    (List.getElem?_eq_getElem bound) same)

/-! ## Operations -/

@[simp]
theorem updateJob_data (reference : ℕ) {update : Job ι κ ω → Job ι κ ω}
    (keeps : ∀ job, (update job).toJobData = job.toJobData) :
    (queue.updateJob reference update).data = queue.data := by
  unfold updateJob data
  apply List.ext_getElem?
  intro position
  rw [List.getElem?_map, List.getElem?_map, List.getElem?_modify]
  cases queue.jobs[position]? with
  | none => rfl
  | some job =>
      by_cases here : reference = position
      · simp [here, keeps]
      · simp [here]

theorem start_toJobData (now : ℤ) (job : Job ι κ ω) :
    (job.start now).toJobData = job.toJobData := rfl

theorem finish_toJobData (outcome : Except String ω) (now : ℤ)
    (job : Job ι κ ω) :
    (job.finish outcome now).toJobData = job.toJobData := by
  cases outcome <;> rfl

theorem append_data (queue : JobQueue ι κ ω) (data : JobData ι κ) :
    (queue.append data).data = queue.data ++ [data] := by
  simp [append, JobQueue.data, Job.new]

theorem append_waiting (queue : JobQueue ι κ ω) (data : JobData ι κ) :
    (queue.append data).waiting.Perm (queue.jobs.length :: queue.waiting) :=
  Dictionary.flatten_values_upsert_perm _ _ _

/-- The new job is indexed if its identifier is new. -/
theorem Indexed.append (indexed : queue.Indexed) {data : JobData ι κ}
    (unknown : queue.existingJob data.requestId = none) :
    (queue.append data).Indexed := by
  have length_eq : queue.data.length = queue.jobs.length :=
    List.length_map _
  intro requestId reference
  rw [append_data]
  have place : (queue.data ++ [data])[reference]? =
      if reference = queue.jobs.length then
        some data
      else
        queue.data[reference]? := by
    split
    · rename_i last
      rw [last, ← length_eq, List.getElem?_concat_length]
    · rename_i earlier
      rcases lt_or_ge reference queue.data.length with inside | outside
      · exact List.getElem?_append_left inside
      · rw [List.getElem?_eq_none (by simp; omega),
          List.getElem?_eq_none outside]
  rw [place]
  by_cases own : requestId = data.requestId
  · subst own
    rw [JobQueue.append]
    dsimp only
    rw [AList.lookup_insert]
    constructor
    · intro same
      cases same
      exact ⟨data, if_pos rfl, rfl⟩
    · rintro ⟨found, there, same⟩
      split at there
      · rename_i last
        rw [last]
      · obtain ⟨earlier, job, known, _⟩ :=
          indexed.existingJob_of_mem (List.mem_of_getElem? there)
        rw [same, unknown] at known
        cases known
  · rw [JobQueue.append]
    dsimp only
    rw [AList.lookup_insert_ne own, indexed requestId reference]
    refine exists_congr fun found => and_congr_left fun same => ?_
    split
    · rename_i last
      constructor
      · intro there
        rw [last, ← length_eq, List.getElem?_eq_none le_rfl] at there
        cases there
      · intro there
        cases there
        exact absurd same.symm own
    · exact Iff.rfl

/-- The worker takes the first reference of a list, or nothing. -/
theorem popNextDue_cases {now : ℤ} {popped : Option ℕ × JobQueue ι κ ω}
    (taken : queue.popNextDue now = some popped) :
    popped = (none, queue) ∨
      ∃ reference,
        popped.1 = some reference ∧
          queue.waiting.Perm (reference :: popped.2.waiting) ∧
            popped.2.jobs = queue.jobs ∧
              popped.2.jobsById = queue.jobsById := by
  unfold popNextDue at taken
  split at taken
  · cases taken
    exact Or.inl rfl
  · rename_i earliest _
    split at taken
    · cases taken
      exact Or.inl rfl
    · split at taken
      · cases taken
      · rename_i reference rest there
        cases taken
        have found : queue.slots.lookup earliest =
            some (reference :: rest) := by
          unfold Dictionary.getD at there
          cases stored : queue.slots.lookup earliest with
          | none =>
              rw [stored] at there
              cases there
          | some references =>
              rw [stored] at there
              exact congrArg some there
        refine Or.inr ⟨reference, rfl, ?_, rfl, rfl⟩
        cases rest with
        | nil => exact Dictionary.flatten_values_erase_perm found
        | cons next others => exact Dictionary.flatten_values_insert_perm found

end JobQueue

/-! ## Runs -/

/-- What was put in the queue and what was taken up so far. -/
structure Journal (ι κ : Type) where
  accepted : List (JobData ι κ)
  started : List String

namespace ExecutorState

/-- Jobs that a step has put in the queue. -/
def enqueued (before after : JobQueue ι κ ω) : List (JobData ι κ) :=
  (after.waiting.filter fun reference =>
    decide (reference ∉ before.waiting)).filterMap fun reference =>
      after.data[reference]?

/-- Identifiers of the jobs that a step has taken up. -/
def takenUp (before after : ExecutorState ι κ ω) : List String :=
  match before.worker, after.worker with
  | .popped _, .running reference =>
      (after.queue.data[reference]?.map JobData.requestId).toList
  | _, _ => []

variable {state next : ExecutorState ι κ ω} {journal : Journal ι κ}

/-- The reference is in the queue or in the worker's hand. -/
def Awaits (state : ExecutorState ι κ ω) (reference : ℕ) : Prop :=
  reference ∈ state.queue.waiting ∨ state.worker = .popped reference

structure Orderly (state : ExecutorState ι κ ω) (journal : Journal ι κ) :
    Prop where
  accepted_eq : journal.accepted = state.queue.data
  indexed : state.queue.Indexed
  waiting_nodup : state.queue.waiting.Nodup
  inside : ∀ reference, state.Awaits reference →
    reference < state.queue.data.length
  popped : ∀ reference, state.worker = .popped reference →
    reference ∉ state.queue.waiting
  fresh : ∀ reference data, state.Awaits reference →
    state.queue.data[reference]? = some data →
      data.requestId ∉ journal.started
  started_nodup : journal.started.Nodup
  known : ∀ requestId ∈ journal.started,
    ∃ data ∈ state.queue.data, data.requestId = requestId

theorem orderly_new (clock : VirtualClock) :
    Orderly (new clock : ExecutorState ι κ ω) ⟨[], []⟩ where
  accepted_eq := rfl
  indexed requestId reference := by
    constructor
    · intro found
      cases found
    · rintro ⟨data, there, _⟩
      cases there
  waiting_nodup := List.nodup_nil
  inside _ awaits := by
    rcases awaits with member | hand
    · cases member
    · cases hand
  popped _ hand := by cases hand
  fresh _ _ _ there := by cases there
  started_nodup := List.nodup_nil
  known _ member := by cases member

/-- The jobs are the same, and the worker has taken none. -/
structure SameJobs (before after : ExecutorState ι κ ω) : Prop where
  data_eq : after.queue.data = before.queue.data
  waiting_eq : after.queue.waiting = before.queue.waiting
  jobsById_eq : after.queue.jobsById = before.queue.jobsById
  worker : ∀ reference, after.worker = .popped reference →
    before.worker = .popped reference

theorem Orderly.of_sameJobs (orderly : Orderly state journal)
    (same : SameJobs state next) : Orderly next journal := by
  have awaits : ∀ reference, next.Awaits reference →
      state.Awaits reference := by
    rintro reference (member | hand)
    · rw [same.waiting_eq] at member
      exact Or.inl member
    · exact Or.inr (same.worker reference hand)
  exact
    { accepted_eq := orderly.accepted_eq.trans same.data_eq.symm
      indexed := fun requestId reference => by
        rw [same.jobsById_eq, same.data_eq]
        exact orderly.indexed requestId reference
      waiting_nodup := by
        rw [same.waiting_eq]
        exact orderly.waiting_nodup
      inside := fun reference waits => by
        rw [same.data_eq]
        exact orderly.inside reference (awaits reference waits)
      popped := fun reference hand => by
        rw [same.waiting_eq]
        exact orderly.popped reference (same.worker reference hand)
      fresh := fun reference data waits there => by
        rw [same.data_eq] at there
        exact orderly.fresh reference data (awaits reference waits) there
      started_nodup := orderly.started_nodup
      known := fun requestId member => by
        rw [same.data_eq]
        exact orderly.known requestId member }

theorem enqueued_of_subset (before after : JobQueue ι κ ω)
    (subset : ∀ reference ∈ after.waiting, reference ∈ before.waiting) :
    enqueued before after = [] := by
  have none_ : (after.waiting.filter fun reference =>
      decide (reference ∉ before.waiting)) = [] := by
    rw [List.filter_eq_nil_iff]
    intro reference member new
    exact of_decide_eq_true new (subset reference member)
  rw [enqueued, none_]
  rfl

/-- What a step does to the jobs. -/
inductive JobEffect (state : ExecutorState ι κ ω) :
    ExecutorState ι κ ω → Prop where
  | same {next : ExecutorState ι κ ω} (jobs : SameJobs state next)
      (idle : takenUp state next = []) : JobEffect state next
  | created {data : JobData ι κ} {next : ExecutorState ι κ ω}
      (unknown : state.queue.existingJob data.requestId = none)
      (queue_eq : next.queue = state.queue.append data)
      (worker_eq : next.worker = state.worker) : JobEffect state next
  | popped {reference : ℕ} {next : ExecutorState ι κ ω}
      (perm : state.queue.waiting.Perm (reference :: next.queue.waiting))
      (data_eq : next.queue.data = state.queue.data)
      (jobsById_eq : next.queue.jobsById = state.queue.jobsById)
      (before : ∀ other, state.worker ≠ .popped other)
      (worker_eq : next.worker = .popped reference) : JobEffect state next
  | started {reference : ℕ} {next : ExecutorState ι κ ω}
      (before : state.worker = .popped reference)
      (data_eq : next.queue.data = state.queue.data)
      (waiting_eq : next.queue.waiting = state.queue.waiting)
      (jobsById_eq : next.queue.jobsById = state.queue.jobsById)
      (worker_eq : next.worker = .running reference) : JobEffect state next

theorem takenUp_of_worker_eq (same : next.worker = state.worker) :
    takenUp state next = [] := by
  unfold takenUp
  rw [same]
  cases state.worker <;> rfl

theorem Orderly.of_created (orderly : Orderly state journal)
    {data : JobData ι κ}
    (unknown : state.queue.existingJob data.requestId = none)
    (queue_eq : next.queue = state.queue.append data)
    (worker_eq : next.worker = state.worker) :
    Orderly next
      { accepted := journal.accepted ++ [data]
        started := journal.started } := by
  have length_eq : state.queue.data.length = state.queue.jobs.length :=
    List.length_map _
  have perm := JobQueue.append_waiting state.queue data
  have data_eq := JobQueue.append_data state.queue data
  rw [← queue_eq] at perm data_eq
  have new_ : state.queue.jobs.length ∉ state.queue.waiting := by
    intro member
    have inside := orderly.inside _ (Or.inl member)
    omega
  have awaits : ∀ reference, next.Awaits reference →
      reference = state.queue.jobs.length ∨ state.Awaits reference := by
    rintro reference (member | hand)
    · rcases List.mem_cons.mp (perm.mem_iff.mp member) with last | earlier
      · exact Or.inl last
      · exact Or.inr (Or.inl earlier)
    · rw [worker_eq] at hand
      exact Or.inr (Or.inr hand)
  have unknown_ : ∀ other ∈ state.queue.data,
      other.requestId ≠ data.requestId := by
    intro other member same
    obtain ⟨_, _, found, _⟩ := orderly.indexed.existingJob_of_mem member
    rw [same, unknown] at found
    cases found
  exact
    { accepted_eq := by rw [data_eq, orderly.accepted_eq]
      indexed := by
        rw [queue_eq]
        exact orderly.indexed.append unknown
      waiting_nodup :=
        perm.nodup_iff.mpr (List.nodup_cons.mpr
          ⟨new_, orderly.waiting_nodup⟩)
      inside := fun reference waits => by
        rw [data_eq, List.length_append, List.length_singleton]
        rcases awaits reference waits with last | earlier
        · omega
        · have inside := orderly.inside reference earlier
          omega
      popped := fun reference hand member => by
        rw [worker_eq] at hand
        rcases List.mem_cons.mp (perm.mem_iff.mp member) with last | earlier
        · have inside := orderly.inside reference (Or.inr hand)
          omega
        · exact orderly.popped reference hand earlier
      fresh := fun reference other waits there again => by
        rw [data_eq] at there
        rcases awaits reference waits with last | earlier
        · rw [last, ← length_eq, List.getElem?_concat_length] at there
          cases there
          obtain ⟨known, member, same⟩ := orderly.known _ again
          exact unknown_ known member same
        · rw [List.getElem?_append_left
            (orderly.inside reference earlier)] at there
          exact orderly.fresh reference other earlier there again
      started_nodup := orderly.started_nodup
      known := fun requestId member => by
        obtain ⟨other, stored, same⟩ := orderly.known requestId member
        exact ⟨other, data_eq ▸ List.mem_append_left _ stored, same⟩ }

/-- Only the new reference is put in the queue. -/
theorem enqueued_append (queue : JobQueue ι κ ω) (data : JobData ι κ)
    (new_ : queue.jobs.length ∉ queue.waiting) :
    enqueued queue (queue.append data) = [data] := by
  have perm := JobQueue.append_waiting queue data
  have filtered : ((queue.append data).waiting.filter fun reference =>
      decide (reference ∉ queue.waiting)) = [queue.jobs.length] := by
    have none_ : (queue.waiting.filter fun reference =>
        decide (reference ∉ queue.waiting)) = [] :=
      List.filter_eq_nil_iff.mpr fun reference member new =>
        of_decide_eq_true new member
    have after := perm.filter fun reference =>
      decide (reference ∉ queue.waiting)
    rw [List.filter_cons_of_pos (by simpa using new_), none_] at after
    exact List.perm_singleton.mp after
  have length_eq : queue.data.length = queue.jobs.length :=
    List.length_map _
  have stored : (queue.append data).data[queue.jobs.length]? = some data := by
    rw [JobQueue.append_data, ← length_eq, List.getElem?_concat_length]
  rw [enqueued, filtered, List.filterMap_cons, stored]
  rfl

theorem Orderly.of_popped (orderly : Orderly state journal) {reference : ℕ}
    (perm : state.queue.waiting.Perm (reference :: next.queue.waiting))
    (data_eq : next.queue.data = state.queue.data)
    (jobsById_eq : next.queue.jobsById = state.queue.jobsById)
    (worker_eq : next.worker = .popped reference) :
    Orderly next journal := by
  obtain ⟨taken, rest⟩ :=
    List.nodup_cons.mp (perm.nodup_iff.mp orderly.waiting_nodup)
  have awaits : ∀ other, next.Awaits other → state.Awaits other := by
    rintro other (member | hand)
    · exact Or.inl (perm.mem_iff.mpr (List.mem_cons_of_mem _ member))
    · rw [worker_eq] at hand
      cases hand
      exact Or.inl (perm.mem_iff.mpr List.mem_cons_self)
  exact
    { accepted_eq := orderly.accepted_eq.trans data_eq.symm
      indexed := fun requestId other => by
        rw [jobsById_eq, data_eq]
        exact orderly.indexed requestId other
      waiting_nodup := rest
      inside := fun other waits => by
        rw [data_eq]
        exact orderly.inside other (awaits other waits)
      popped := fun other hand => by
        rw [worker_eq] at hand
        cases hand
        exact taken
      fresh := fun other data waits there => by
        rw [data_eq] at there
        exact orderly.fresh other data (awaits other waits) there
      started_nodup := orderly.started_nodup
      known := fun requestId member => by
        rw [data_eq]
        exact orderly.known requestId member }

theorem Orderly.of_started (orderly : Orderly state journal) {reference : ℕ}
    {data : JobData ι κ}
    (before : state.worker = .popped reference)
    (stored : state.queue.data[reference]? = some data)
    (data_eq : next.queue.data = state.queue.data)
    (waiting_eq : next.queue.waiting = state.queue.waiting)
    (jobsById_eq : next.queue.jobsById = state.queue.jobsById)
    (worker_eq : next.worker = .running reference) :
    Orderly next
      { accepted := journal.accepted
        started := journal.started ++ [data.requestId] } := by
  have awaits : ∀ other, next.Awaits other →
      other ∈ state.queue.waiting := by
    rintro other (member | hand)
    · rwa [waiting_eq] at member
    · rw [worker_eq] at hand
      cases hand
  have own := orderly.fresh reference data (Or.inr before) stored
  exact
    { accepted_eq := orderly.accepted_eq.trans data_eq.symm
      indexed := fun requestId other => by
        rw [jobsById_eq, data_eq]
        exact orderly.indexed requestId other
      waiting_nodup := by
        rw [waiting_eq]
        exact orderly.waiting_nodup
      inside := fun other waits => by
        rw [data_eq]
        exact orderly.inside other (Or.inl (awaits other waits))
      popped := fun other hand => by
        rw [worker_eq] at hand
        cases hand
      fresh := fun other otherData waits there => by
        rw [data_eq] at there
        have member := awaits other waits
        rw [List.mem_append, not_or]
        refine ⟨orderly.fresh other otherData (Or.inl member) there, ?_⟩
        intro same
        have place := orderly.indexed.unique there stored
          (List.mem_singleton.mp same)
        rw [place] at member
        exact orderly.popped reference before member
      started_nodup := by
        rw [List.nodup_append]
        refine ⟨orderly.started_nodup, List.nodup_singleton _, ?_⟩
        rintro left member right right_ rfl
        rw [List.mem_singleton.mp right_] at member
        exact own member
      known := fun requestId member => by
        rw [data_eq]
        rcases List.mem_append.mp member with earlier | last
        · exact orderly.known requestId earlier
        · exact ⟨data, List.mem_of_getElem? stored,
            (List.mem_singleton.mp last).symm⟩ }

/-- A step keeps the journal in order. -/
theorem Orderly.of_effect (orderly : Orderly state journal)
    (effect : JobEffect state next) :
    Orderly next
      { accepted := journal.accepted ++ enqueued state.queue next.queue
        started := journal.started ++ takenUp state next } := by
  cases effect with
  | same jobs idle =>
      have none_ := enqueued_of_subset state.queue next.queue (by
          rw [jobs.waiting_eq]
          exact fun _ => id)
      rw [idle, none_, List.append_nil, List.append_nil]
      exact orderly.of_sameJobs jobs
  | @created data _ unknown queue_eq worker_eq =>
      have new_ : state.queue.jobs.length ∉ state.queue.waiting := by
        intro member
        have inside := orderly.inside _ (Or.inl member)
        rw [JobQueue.data, List.length_map] at inside
        exact lt_irrefl _ inside
      have one := enqueued_append state.queue data new_
      rw [← queue_eq] at one
      rw [takenUp_of_worker_eq worker_eq, one, List.append_nil]
      exact orderly.of_created unknown queue_eq worker_eq
  | @popped reference _ perm data_eq jobsById_eq before worker_eq =>
      have none_ := enqueued_of_subset state.queue next.queue
        fun other member => perm.mem_iff.mpr (List.mem_cons_of_mem _ member)
      have idle : takenUp state next = [] := by
        unfold takenUp
        rw [worker_eq]
        split
        · rename_i same
          cases same
        · rfl
      rw [idle, none_, List.append_nil, List.append_nil]
      exact orderly.of_popped perm data_eq jobsById_eq worker_eq
  | @started reference _ before data_eq waiting_eq jobsById_eq worker_eq =>
      have none_ := enqueued_of_subset state.queue next.queue (by
          rw [waiting_eq]
          exact fun _ => id)
      have inside := orderly.inside reference (Or.inr before)
      have stored := List.getElem?_eq_getElem inside
      have one : takenUp state next =
          [(state.queue.data[reference]).requestId] := by
        unfold takenUp
        rw [before, worker_eq]
        dsimp only
        rw [data_eq, stored]
        rfl
      rw [one, none_, List.append_nil]
      exact orderly.of_started before stored data_eq waiting_eq jobsById_eq
        worker_eq

section Steps

variable [BEq ι] [BEq κ] [EmptyCollection κ] {formats : Formats}
variable {action : Action ι κ ω}

/-- The journal after an action. -/
def observe (formats : Formats) (state : ExecutorState ι κ ω)
    (action : Action ι κ ω) (journal : Journal ι κ) : Journal ι κ :=
  match step formats state action with
  | none => journal
  | some next =>
      { accepted := journal.accepted ++ enqueued state.queue next.queue
        started := journal.started ++ takenUp state next }

theorem step_jobs (taken : step formats state action = some next) :
    JobEffect state next := by
  cases action with
  | submit dispatch generated wall =>
      cases taken
      exact .same ⟨rfl, rfl, rfl, fun _ => id⟩ (takenUp_of_worker_eq rfl)
  | enqueue submissionId wall =>
      simp only [step] at taken
      split at taken
      · rename_i dispatch requestId executeAt found
        cases taken
        unfold JobQueue.submit
        split
        · split <;>
          exact .same ⟨rfl, rfl, rfl, fun _ => id⟩ (takenUp_of_worker_eq rfl)
        · rename_i unknown
          exact .created unknown rfl rfl
      · cases taken
  | advanceSlot body =>
      simp only [step] at taken
      split at taken <;>
      · cases taken
        exact .same ⟨rfl, rfl, rfl, fun _ => id⟩ (takenUp_of_worker_eq rfl)
  | readClock wall =>
      simp only [step] at taken
      split at taken
      · rename_i idle
        cases taken
        exact .same ⟨rfl, rfl, rfl, nofun⟩ (by rw [takenUp, idle])
      · cases taken
  | pop =>
      simp only [step] at taken
      split at taken
      · rename_i now clocked
        split at taken
        · cases taken
          exact .same ⟨rfl, rfl, rfl, nofun⟩ (by rw [takenUp, clocked])
        · rename_i queue found
          rcases JobQueue.popNextDue_cases found with same | ⟨_, some_, _⟩
          · cases same
            cases taken
            exact .same ⟨rfl, rfl, rfl, nofun⟩ (by rw [takenUp, clocked])
          · cases some_
        · rename_i reference queue found
          rcases JobQueue.popNextDue_cases found with
            same | ⟨other, some_, perm, jobs_eq, jobsById_eq⟩
          · cases same
          · cases some_
            cases taken
            refine .popped perm (congrArg (List.map Job.toJobData) jobs_eq)
              jobsById_eq (fun earlier hand => ?_) rfl
            rw [clocked] at hand
            cases hand
      · cases taken
  | wake =>
      simp only [step] at taken
      split at taken
      · rename_i waits
        cases taken
        exact .same ⟨rfl, rfl, rfl, nofun⟩ (by rw [takenUp, waits])
      · cases taken
  | start wall =>
      simp only [step] at taken
      split at taken
      · rename_i reference hand
        cases taken
        exact .started hand
          (JobQueue.updateJob_data reference (JobQueue.start_toJobData _))
          rfl rfl rfl
      · cases taken
  | finish outcome wall =>
      simp only [step] at taken
      split at taken
      · rename_i reference hand
        cases taken
        exact .same
          ⟨JobQueue.updateJob_data reference
            (JobQueue.finish_toJobData outcome _), rfl, rfl, nofun⟩
          (by rw [takenUp, hand])
      · cases taken

theorem orderly_of_run {clock : VirtualClock}
    {actions : List (Action ι κ ω)}
    (reached : Transition.run
      (Transition.observed (step formats) (observe formats))
      (new clock, ⟨[], []⟩) actions = some (state, journal)) :
    Orderly state journal := by
  refine Transition.run_induction (fun _ reached => Orderly reached.1 reached.2)
    (orderly_new clock) ?_ reached
  rintro _ ⟨before, earlier⟩ action ⟨after, later⟩ orderly taken
  obtain ⟨stepped, same⟩ := Transition.observed_eq_some_iff.mp taken
  dsimp only at orderly stepped same ⊢
  rw [same, observe, stepped]
  exact orderly.of_effect (step_jobs stepped)

/-- What a call of `submit` does when its identifier was accepted before. -/
structure AnswersReuse (formats : Formats) (original : JobData ι κ)
    (dispatch : Dispatch ι κ) (submissionId : ℕ)
    (before after : ExecutorState ι κ ω) : Prop where
  queue_eq : after.queue = before.queue
  existing : original.sameDispatch dispatch = true →
    ∃ reference,
      after.submissions.lookup submissionId =
          some (.answered (.ok reference)) ∧
        before.queue.data[reference]? = some original
  duplicate : original.sameDispatch dispatch = false →
    after.submissions.lookup submissionId =
      some (.answered (.error
        (duplicateRequestId formats.repr original.requestId)))

theorem answersReuse_of_enqueue (indexed : state.queue.Indexed)
    {submissionId : ℕ} {dispatch : Dispatch ι κ} {executeAt wall : ℤ}
    {original : JobData ι κ} (accepted : original ∈ state.queue.data)
    (arrived : state.submissions.lookup submissionId =
      some (.arrived dispatch original.requestId executeAt))
    (taken : step formats state (.enqueue submissionId wall) = some next) :
    AnswersReuse formats original dispatch submissionId state next := by
  obtain ⟨reference, job, existing, stored, rfl⟩ :=
    indexed.existingJob_of_mem accepted
  simp only [step, arrived, JobQueue.submit, existing] at taken
  cases taken
  cases same : job.sameDispatch dispatch with
  | true =>
      exact
        { queue_eq := by simp
          existing := fun _ => ⟨reference, by simp,
            JobQueue.data_eq_some_iff.mpr ⟨job, stored, rfl⟩⟩
          duplicate := fun other => by
            rw [same] at other
            cases other }
  | false =>
      exact
        { queue_eq := by simp
          existing := fun other => by
            rw [same] at other
            cases other
          duplicate := fun _ => by simp }

/-- In every run each identifier is put in the queue and taken up at most once,
and reusing it returns its job or is rejected, with the queue unchanged. -/
theorem submitted_once {clock : VirtualClock}
    {actions : List (Action ι κ ω)}
    (reached : Transition.run
      (Transition.observed (step formats) (observe formats))
      (new clock, ⟨[], []⟩) actions = some (state, journal)) :
    (journal.accepted.map JobData.requestId).Nodup ∧
      journal.started.Nodup ∧
        (∀ requestId ∈ journal.started,
          requestId ∈ journal.accepted.map JobData.requestId) ∧
        ∀ submissionId dispatch original executeAt wall next,
          original ∈ journal.accepted →
            state.submissions.lookup submissionId =
                some (.arrived dispatch original.requestId executeAt) →
              step formats state (.enqueue submissionId wall) = some next →
                AnswersReuse formats original dispatch submissionId state
                  next := by
  have orderly := orderly_of_run reached
  rw [orderly.accepted_eq]
  refine ⟨orderly.indexed.nodup, orderly.started_nodup, ?_, ?_⟩
  · intro requestId member
    obtain ⟨data, stored, same⟩ := orderly.known requestId member
    exact List.mem_map.mpr ⟨data, stored, same⟩
  · intro submissionId dispatch original executeAt wall next accepted arrived
      taken
    exact answersReuse_of_enqueue orderly.indexed accepted arrived taken

end Steps

/-! ## A retried submission -/

/-- Midnight is the only time that is written. -/
def midnightForms : Formats where
  iso :=
    .ofTable [(1577836800000000, "2020-01-01T00:00:00+00:00")]
      (by decide +kernel) (by decide +kernel)
  showFloat _ := "30.0"
  repr text := text

def frozenAtMidnight : VirtualClock where
  manual := true
  slotMinutes := 30
  virtualNow := 1577836800000000

/-- A dispatch that was sent with an identifier. -/
def retried : Dispatch String (List String) where
  task := "sum"
  flavour := "fast"
  input := "[1, 2]"
  executeAt := some 1577836800000000
  callbackUrl := none
  requestId := some "request-1"
  context := none

/-- The response was lost, and the job runs when the dispatch comes again. -/
def lostResponse : List (Action String (List String) String) :=
  [.submit retried "generated-1" 0,
    .enqueue 0 0,
    .readClock 0,
    .pop,
    .start 0,
    .submit retried "generated-2" 0]

/-- The second call is to be answered with the job that is running. -/
def meetsRunning
    (reached : ExecutorState String (List String) String ×
      Journal String (List String)) : Bool :=
  match reached.1.submissions.lookup 1, reached.2.accepted with
  | some (.arrived dispatch requestId _), [original] =>
      decide (reached.2.started = [requestId]) &&
        decide (requestId = original.requestId) &&
          original.sameDispatch dispatch
  | _, _ => false

theorem submitted_once_lostResponse :
    ∃ state journal next reference,
      Transition.run
          (Transition.observed (step midnightForms) (observe midnightForms))
          (new frozenAtMidnight, ⟨[], []⟩) lostResponse =
        some (state, journal) ∧
      step midnightForms state (.enqueue 1 0) = some next ∧
        (journal.accepted.map JobData.requestId).Nodup ∧
          journal.started.Nodup ∧
            next.queue = state.queue ∧
              next.submissions.lookup 1 =
                some (.answered (.ok reference)) := by
  have runs : (Transition.run
      (Transition.observed (step midnightForms) (observe midnightForms))
      (new frozenAtMidnight, ⟨[], []⟩) lostResponse).any meetsRunning =
        true := by
    decide +kernel
  obtain ⟨⟨state, journal⟩, reached, meets⟩ := Option.any_eq_true _ _ |>.mp runs
  obtain ⟨accepted_nodup, started_nodup, _, answers⟩ := submitted_once reached
  unfold meetsRunning at meets
  split at meets
  · rename_i dispatch requestId executeAt original arrived accepted
    simp only [Bool.and_eq_true, decide_eq_true_eq] at meets
    obtain ⟨⟨_, rfl⟩, same⟩ := meets
    have steps : (step midnightForms state (.enqueue 1 0)).isSome = true := by
      simp [step, arrived]
    obtain ⟨next, taken⟩ := Option.isSome_iff_exists.mp steps
    have reuse := answers 1 dispatch original executeAt 0 next
      (by rw [accepted]; exact List.mem_singleton_self _) arrived taken
    obtain ⟨reference, answered, _⟩ := reuse.existing same
    exact ⟨state, journal, next, reference, reached, taken, accepted_nodup,
      started_nodup, reuse.queue_eq, answered⟩
  · cases meets

end ExecutorState

end Executor

end Carbonshift
