import Carbonshift.Executor.JobRuns

/-!
# Jobs are taken in due order

The lists of the queue hold the jobs of one second, oldest first, so the worker
takes the oldest job of the earliest second.  It compares that second with the
clock, though, and not the instant at which the job is due.
-/

namespace Carbonshift

namespace Executor

variable {ι κ ω : Type}

namespace JobQueue

variable {queue : JobQueue ι κ ω}

theorem mem_waiting_iff {reference : ℕ} :
    reference ∈ queue.waiting ↔
      ∃ key references,
        queue.slots.lookup key = some references ∧ reference ∈ references := by
  unfold waiting
  rw [List.mem_flatten]
  constructor
  · rintro ⟨references, stored, member⟩
    obtain ⟨key, found⟩ := Dictionary.mem_values_iff.mp stored
    exact ⟨key, references, found, member⟩
  · rintro ⟨key, references, found, member⟩
    exact ⟨references, Dictionary.mem_values_iff.mpr ⟨key, found⟩, member⟩

/-! ## The lists of the seconds -/

/-- A list holds waiting jobs of its second, oldest first. -/
structure FiledUnder (queue : JobQueue ι κ ω) (key : ℤ)
    (references : List ℕ) : Prop where
  nonempty : references ≠ []
  oldest_first : references.Pairwise (· < ·)
  own_second : ∀ reference ∈ references,
    ∃ data, queue.data[reference]? = some data ∧
      slotKey data.executeAt = key

def Filed (queue : JobQueue ι κ ω) : Prop :=
  ∀ key references, queue.slots.lookup key = some references →
    queue.FiledUnder key references

/-- The oldest job of the earliest second. -/
def nextUp (queue : JobQueue ι κ ω) : Option ℕ :=
  queue.slots.keys.min?.bind fun earliest =>
    (queue.slots.getD earliest []).head?

/-- No queued job is due in an earlier second, and none of the same second was
submitted earlier. -/
def TakesOldest (queue : JobQueue ι κ ω) (reference : ℕ) : Prop :=
  ∃ taken, queue.data[reference]? = some taken ∧
    ∀ other ∈ queue.waiting, ∀ data, queue.data[other]? = some data →
      slotKey taken.executeAt < slotKey data.executeAt ∨
        slotKey taken.executeAt = slotKey data.executeAt ∧ reference ≤ other

theorem filed_new : (new : JobQueue ι κ ω).Filed := by
  intro key references found
  cases found

/-- Only jobs and lists matter. -/
theorem Filed.congr (filed : queue.Filed) {other : JobQueue ι κ ω}
    (slots_eq : other.slots = queue.slots) (data_eq : other.data = queue.data) :
    other.Filed := by
  intro key references found
  rw [slots_eq] at found
  have under := filed key references found
  refine ⟨under.nonempty, under.oldest_first, ?_⟩
  rw [data_eq]
  exact under.own_second

/-- An absent list is an empty one. -/
theorem Filed.getD (filed : queue.Filed) (key : ℤ) :
    (queue.slots.getD key []).Pairwise (· < ·) ∧
      ∀ reference ∈ queue.slots.getD key [],
        ∃ data, queue.data[reference]? = some data ∧
          slotKey data.executeAt = key := by
  cases found : queue.slots.lookup key with
  | none =>
      rw [Dictionary.getD, found]
      exact ⟨List.Pairwise.nil, by simp⟩
  | some references =>
      rw [Dictionary.getD_of_lookup found]
      have under := filed key references found
      exact ⟨under.oldest_first, under.own_second⟩

/-- A new job goes behind the older ones of its second. -/
theorem Filed.append (filed : queue.Filed) (data : JobData ι κ) :
    (queue.append data).Filed := by
  have length_eq : queue.data.length = queue.jobs.length :=
    List.length_map _
  have inside : ∀ reference stored,
      queue.data[reference]? = some stored → reference < queue.data.length :=
    fun _ _ there => (List.getElem?_eq_some_iff.mp there).1
  have kept : ∀ (reference : ℕ) (stored : JobData ι κ),
      queue.data[reference]? = some stored →
        (queue.append data).data[reference]? = some stored := by
    intro reference stored there
    rw [append_data, List.getElem?_append_left (inside reference stored there)]
    exact there
  have last : (queue.append data).data[queue.jobs.length]? = some data := by
    rw [append_data, ← length_eq, List.getElem?_concat_length]
  intro key references found
  change (queue.slots.upsert (slotKey data.executeAt) [] _).lookup key =
    some references at found
  by_cases here : key = slotKey data.executeAt
  · subst here
    rw [Dictionary.upsert, AList.lookup_insert, Option.some.injEq] at found
    subst found
    obtain ⟨older, own⟩ := filed.getD (slotKey data.executeAt)
    refine ⟨by simp, ?_, ?_⟩
    · rw [List.pairwise_append]
      refine ⟨older, List.pairwise_singleton _ _, ?_⟩
      intro earlier member new_ new_member
      obtain ⟨stored, there, _⟩ := own earlier member
      rw [List.mem_singleton.mp new_member, ← length_eq]
      exact inside earlier stored there
    · intro reference member
      rcases List.mem_append.mp member with earlier | new_
      · obtain ⟨stored, there, second⟩ := own reference earlier
        exact ⟨stored, kept reference stored there, second⟩
      · rw [List.mem_singleton.mp new_]
        exact ⟨data, last, rfl⟩
  · rw [Dictionary.upsert, AList.lookup_insert_ne here] at found
    have under := filed key references found
    refine ⟨under.nonempty, under.oldest_first, fun reference member => ?_⟩
    obtain ⟨stored, there, second⟩ := under.own_second reference member
    exact ⟨stored, kept reference stored there, second⟩

/-! ## The worker's choice -/

theorem Filed.takesOldest (filed : queue.Filed) {earliest : ℤ} {head : ℕ}
    {later : List ℕ} {taken : JobData ι κ}
    (least : queue.slots.keys.min? = some earliest)
    (first : queue.slots.getD earliest [] = head :: later)
    (second : slotKey taken.executeAt = earliest) :
    ∀ other ∈ queue.waiting, ∀ data, queue.data[other]? = some data →
      slotKey taken.executeAt < slotKey data.executeAt ∨
        slotKey taken.executeAt = slotKey data.executeAt ∧ head ≤ other := by
  intro other member data there
  obtain ⟨key, references, found, listed⟩ := mem_waiting_iff.mp member
  have under := filed key references found
  obtain ⟨stored, also, own⟩ := under.own_second other listed
  rw [there, Option.some.injEq] at also
  subst also
  have before : earliest ≤ key :=
    (List.min?_eq_some_iff.mp least).2 key
      (AList.mem_keys.mp (Dictionary.mem_of_lookup found))
  rw [second, own]
  rcases before.lt_or_eq with earlier | same
  · exact Or.inl earlier
  · refine Or.inr ⟨same, ?_⟩
    rw [← same] at found
    rw [Dictionary.getD_of_lookup found] at first
    subst first
    have ahead := (List.pairwise_cons.mp under.oldest_first).1
    rcases List.mem_cons.mp listed with rfl | behind
    · exact le_rfl
    · exact (ahead other behind).le

/-- The rest of a list stays in its place. -/
theorem Filed.withoutHead (filed : queue.Filed) {earliest : ℤ} {head : ℕ}
    {later : List ℕ} (first : queue.slots.getD earliest [] = head :: later) :
    ({ queue with
        slots :=
          if later.isEmpty then
            queue.slots.erase earliest
          else
            queue.slots.insert earliest later } : JobQueue ι κ ω).Filed := by
  obtain ⟨older, own⟩ := filed.getD earliest
  rw [first] at older own
  intro key references found
  dsimp only at found
  by_cases here : key = earliest
  · subst here
    cases later with
    | nil =>
        rw [List.isEmpty_nil, if_pos rfl, AList.lookup_erase] at found
        cases found
    | cons next others =>
        rw [List.isEmpty_cons, if_neg Bool.false_ne_true, AList.lookup_insert,
          Option.some.injEq] at found
        subst found
        exact ⟨List.cons_ne_nil _ _, (List.pairwise_cons.mp older).2,
          fun reference member => own reference (List.mem_cons_of_mem _ member)⟩
  · have elsewhere : queue.slots.lookup key = some references := by
      split at found
      · rwa [AList.lookup_erase_ne here] at found
      · rwa [AList.lookup_insert_ne here] at found
    have under := filed key references elsewhere
    exact ⟨under.nonempty, under.oldest_first, under.own_second⟩

/-- What is taken is the oldest job of the earliest second, which has begun. -/
theorem popNextDue_some (filed : queue.Filed) {now : ℤ} {reference : ℕ}
    {rest : JobQueue ι κ ω}
    (taken : queue.popNextDue now = some (some reference, rest)) :
    queue.nextUp = some reference ∧ queue.TakesOldest reference ∧
      rest.Filed ∧
        ∃ data, queue.data[reference]? = some data ∧
          slotKey data.executeAt ≤ now := by
  unfold popNextDue at taken
  cases least : queue.slots.keys.min? with
  | none =>
      rw [least] at taken
      cases taken
  | some earliest =>
      rw [least] at taken
      dsimp only at taken
      split at taken
      · cases taken
      · rename_i begun
        cases first : queue.slots.getD earliest [] with
        | nil =>
            rw [first] at taken
            cases taken
        | cons head later =>
            rw [first] at taken
            simp only [Option.some.injEq, Prod.mk.injEq] at taken
            obtain ⟨rfl, rfl⟩ := taken
            obtain ⟨older, own⟩ := filed.getD earliest
            rw [first] at older own
            obtain ⟨data, there, second⟩ := own head List.mem_cons_self
            refine ⟨?_, ⟨data, there, ?_⟩, ?_, data, there, ?_⟩
            · rw [nextUp, least, Option.bind_some, first, List.head?_cons]
            · exact filed.takesOldest least first second
            · exact filed.withoutHead first
            · rw [second]
              exact not_lt.mp begun

/-- The worker sees the queue at an instant at which its next job is due, if
its second has begun. -/
def DueInstant (queue : JobQueue ι κ ω) (now : ℤ) : Prop :=
  ∀ data ∈ queue.nextUp.bind fun reference => queue.data[reference]?,
    slotKey data.executeAt ≤ now → data.executeAt ≤ now

instance (queue : JobQueue ι κ ω) (now : ℤ) :
    Decidable (queue.DueInstant now) :=
  inferInstanceAs (Decidable (∀ data ∈ Option.bind _ _, _))

/-- Jobs that are due on a whole second are due when it begins. -/
theorem dueInstant_of_whole_seconds
    (whole : ∀ data ∈ queue.data, slotKey data.executeAt = data.executeAt)
    (now : ℤ) : queue.DueInstant now := by
  intro data next begun
  obtain ⟨reference, _, there⟩ := Option.bind_eq_some_iff.mp next
  rwa [whole data (List.mem_of_getElem? there)] at begun

end JobQueue

/-! ## Runs -/

namespace ExecutorState

variable {formats : Formats} {state next : ExecutorState ι κ ω}
variable {action : Action ι κ ω} {reading : ℤ}

/-- The clock as the worker last read it. -/
def lastReading (state : ExecutorState ι κ ω) (action : Action ι κ ω)
    (reading : ℤ) : ℤ :=
  match action with
  | .readClock wall => state.clock.now wall
  | _ => reading

/-- The worker does not look at the queue within the second of its next job
but before its instant, and the clock is not set back before it starts the
job. -/
def Punctual (state : ExecutorState ι κ ω × ℤ) : Action ι κ ω → Prop
  | .pop => state.1.queue.DueInstant state.2
  | .start wall => state.2 ≤ state.1.clock.now wall
  | _ => True

instance (state : ExecutorState ι κ ω × ℤ) :
    DecidablePred (Punctual state) := fun action => by
  cases action <;> unfold Punctual <;> infer_instance

/-- No job was started before its instant. -/
def StartsOnTime (queue : JobQueue ι κ ω) : Prop :=
  ∀ job ∈ queue.jobs, ∀ startedAt ∈ job.startedAt, job.executeAt ≤ startedAt

instance (queue : JobQueue ι κ ω) : Decidable (StartsOnTime queue) :=
  inferInstanceAs (Decidable (∀ job ∈ queue.jobs, ∀ _ ∈ _, _))

/-- What punctual steps keep. -/
structure Prompt (state : ExecutorState ι κ ω) (reading : ℤ) : Prop where
  onTime : StartsOnTime state.queue
  clocked : ∀ now, state.worker = .clocked now → now = reading
  popped : ∀ reference, state.worker = .popped reference →
    ∃ data, state.queue.data[reference]? = some data ∧
      data.executeAt ≤ reading

theorem startsOnTime_updateJob {queue : JobQueue ι κ ω} {reference : ℕ}
    {update : Job ι κ ω → Job ι κ ω} (onTime : StartsOnTime queue)
    (updates : ∀ job, queue.jobs[reference]? = some job →
      ∀ startedAt, (update job).startedAt = some startedAt →
        (update job).executeAt ≤ startedAt) :
    StartsOnTime (queue.updateJob reference update) := by
  intro job member startedAt started
  obtain ⟨position, there⟩ := List.mem_iff_getElem?.mp member
  unfold JobQueue.updateJob at there
  dsimp only at there
  rw [List.getElem?_modify] at there
  obtain ⟨stored, known, changed⟩ := Option.map_eq_some_iff.mp there
  by_cases here : reference = position
  · subst here
    rw [if_pos rfl] at changed
    subst changed
    exact updates stored known startedAt started
  · rw [if_neg here] at changed
    subst changed
    exact onTime _ (List.mem_of_getElem? known) startedAt started

theorem startsOnTime_append {queue : JobQueue ι κ ω}
    (onTime : StartsOnTime queue) (data : JobData ι κ) :
    StartsOnTime (queue.append data) := by
  intro job member startedAt started
  rcases List.mem_append.mp member with older | new_
  · exact onTime job older startedAt started
  · rw [List.mem_singleton.mp new_] at started
    cases started

theorem prompt_new (clock : VirtualClock) (reading : ℤ) :
    Prompt (new clock : ExecutorState ι κ ω) reading where
  onTime _ member := by cases member
  clocked _ same := by cases same
  popped _ same := by cases same

variable [BEq ι] [BEq κ] [EmptyCollection κ]

theorem filed_of_step (filed : state.queue.Filed)
    (taken : step formats state action = some next) : next.queue.Filed := by
  cases action with
  | submit dispatch generated wall =>
      cases taken
      exact filed
  | enqueue submissionId wall =>
      simp only [step] at taken
      split at taken
      · cases taken
        unfold JobQueue.submit
        split
        · split <;> exact filed
        · exact filed.append _
      · cases taken
  | advanceSlot body =>
      simp only [step] at taken
      split at taken
      · cases taken
        exact filed
      · cases taken
        exact filed.congr rfl rfl
  | readClock wall =>
      simp only [step] at taken
      split at taken
      · cases taken
        exact filed
      · cases taken
  | pop =>
      simp only [step] at taken
      split at taken
      · split at taken
        · cases taken
          exact filed
        · rename_i queue found
          rcases JobQueue.popNextDue_cases found with same | ⟨_, some_, _⟩
          · cases same
            cases taken
            exact filed
          · cases some_
        · rename_i reference queue found
          cases taken
          exact (JobQueue.popNextDue_some filed found).2.2.1
      · cases taken
  | wake =>
      simp only [step] at taken
      split at taken
      · cases taken
        exact filed.congr rfl rfl
      · cases taken
  | start wall =>
      simp only [step] at taken
      split at taken
      · cases taken
        exact filed.congr rfl
          (JobQueue.updateJob_data _ (JobQueue.start_toJobData _))
      · cases taken
  | finish outcome wall =>
      simp only [step] at taken
      split at taken
      · cases taken
        exact filed.congr rfl
          (JobQueue.updateJob_data _ (JobQueue.finish_toJobData outcome _))
      · cases taken

/-- A job that is taken is the oldest one of the earliest second. -/
theorem takesOldest_of_pop (filed : state.queue.Filed)
    (taken : step formats state .pop = some next) {reference : ℕ}
    (hand : next.worker = .popped reference) :
    state.queue.TakesOldest reference := by
  simp only [step] at taken
  split at taken
  · split at taken
    · cases taken
      cases hand
    · cases taken
      cases hand
    · rename_i other queue found
      cases taken
      cases hand
      exact (JobQueue.popNextDue_some filed found).2.1
  · cases taken

/-! ## Punctual steps -/

/-- A punctual step starts no job early. -/
theorem prompt_of_step (filed : state.queue.Filed)
    (prompt : Prompt state reading)
    (punctual : Punctual (state, reading) action)
    (taken : step formats state action = some next) :
    Prompt next (lastReading state action reading) := by
  cases action with
  | submit dispatch generated wall =>
      cases taken
      exact ⟨prompt.onTime, prompt.clocked, prompt.popped⟩
  | enqueue submissionId wall =>
      simp only [step] at taken
      split at taken
      · rename_i dispatch requestId executeAt arrived
        cases taken
        unfold JobQueue.submit
        split
        · split <;> exact ⟨prompt.onTime, prompt.clocked, prompt.popped⟩
        · refine ⟨startsOnTime_append prompt.onTime _, prompt.clocked, ?_⟩
          intro reference hand
          obtain ⟨data, there, due⟩ := prompt.popped reference hand
          refine ⟨data, ?_, due⟩
          dsimp only
          rw [JobQueue.append_data, List.getElem?_append_left
            (List.getElem?_eq_some_iff.mp there).1]
          exact there
      · cases taken
  | advanceSlot body =>
      simp only [step] at taken
      split at taken
      · cases taken
        exact ⟨prompt.onTime, prompt.clocked, prompt.popped⟩
      · cases taken
        exact ⟨prompt.onTime, prompt.clocked, prompt.popped⟩
  | readClock wall =>
      simp only [step] at taken
      split at taken
      · cases taken
        refine ⟨prompt.onTime, fun now same => ?_, by simp⟩
        cases same
        rfl
      · cases taken
  | pop =>
      simp only [step] at taken
      split at taken
      · rename_i now clocked
        have read := prompt.clocked now clocked
        subst read
        split at taken
        · cases taken
          exact ⟨prompt.onTime, by simp, by simp⟩
        · rename_i queue found
          rcases JobQueue.popNextDue_cases found with same | ⟨_, some_, _⟩
          · cases same
            cases taken
            exact ⟨prompt.onTime, by simp, by simp⟩
          · cases some_
        · rename_i reference queue found
          rcases JobQueue.popNextDue_cases found with
            same | ⟨other, some_, _, jobs_eq, _⟩
          · cases same
          · cases some_
            cases taken
            obtain ⟨next, _, _, data, there, begun⟩ :=
              JobQueue.popNextDue_some filed found
            have data_eq : queue.data = state.queue.data :=
              congrArg (List.map Job.toJobData) jobs_eq
            refine ⟨?_, by simp, fun reference hand => ?_⟩
            · intro job member
              rw [jobs_eq] at member
              exact prompt.onTime job member
            · cases hand
              refine ⟨data, ?_, punctual data ?_ begun⟩
              · rw [data_eq]
                exact there
              · exact Option.bind_eq_some_iff.mpr ⟨reference, next, there⟩
      · cases taken
  | wake =>
      simp only [step] at taken
      split at taken
      · cases taken
        exact ⟨prompt.onTime, by simp, by simp⟩
      · cases taken
  | start wall =>
      simp only [step] at taken
      split at taken
      · rename_i reference hand
        cases taken
        obtain ⟨data, there, due⟩ := prompt.popped reference hand
        refine ⟨startsOnTime_updateJob prompt.onTime ?_, by simp, by simp⟩
        intro job known startedAt started
        cases started
        rw [JobQueue.data_eq_some_iff] at there
        obtain ⟨same, stored, rfl⟩ := there
        rw [known, Option.some.injEq] at stored
        subst stored
        exact due.trans punctual
      · cases taken
  | finish outcome wall =>
      simp only [step] at taken
      split at taken
      · rename_i reference running
        cases taken
        refine ⟨startsOnTime_updateJob prompt.onTime ?_, by simp, by simp⟩
        intro job known startedAt started
        have kept : job.startedAt = some startedAt := by
          cases outcome with
          | ok _ => exact started
          | error _ => exact started
        have due := prompt.onTime job (List.mem_of_getElem? known) startedAt
          kept
        cases outcome with
        | ok _ => exact due
        | error _ => exact due
      · cases taken

theorem filed_of_run {clock : VirtualClock} {actions : List (Action ι κ ω)}
    (reached : Transition.run (step formats) (new clock) actions =
      some state) : state.queue.Filed := by
  refine Transition.run_induction
    (fun _ (state : ExecutorState ι κ ω) => state.queue.Filed)
    JobQueue.filed_new ?_ reached
  exact fun _ _ _ _ filed taken => filed_of_step filed taken

/-- In every run the worker takes the oldest job of the earliest second, and a
punctual run starts no job before its instant. -/
theorem starts_in_due_order {clock : VirtualClock}
    {actions : List (Action ι κ ω)} {reached : ExecutorState ι κ ω × ℤ}
    (run : Transition.run (Transition.observed (step formats) lastReading)
      (new clock, 0) actions = some reached) :
    (∀ next reference, step formats reached.1 .pop = some next →
        next.worker = .popped reference →
          reached.1.queue.TakesOldest reference) ∧
      (Transition.Guarded (Transition.observed (step formats) lastReading)
          Punctual (new clock, 0) actions →
        StartsOnTime reached.1.queue) := by
  constructor
  · intro next reference taken hand
    exact takesOldest_of_pop (filed_of_run (Transition.run_of_run_observed run))
      taken hand
  · intro punctual
    have kept : reached.1.queue.Filed ∧ Prompt reached.1 reached.2 := by
      refine Transition.guarded_induction
        (fun _ (state : ExecutorState ι κ ω × ℤ) =>
          state.1.queue.Filed ∧ Prompt state.1 state.2)
        ⟨JobQueue.filed_new, prompt_new clock 0⟩ ?_ punctual run
      rintro _ ⟨before, earlier⟩ action ⟨after, later⟩ ⟨filed, prompt⟩
        allowed taken
      obtain ⟨stepped, same⟩ := Transition.observed_eq_some_iff.mp taken
      dsimp only at stepped same ⊢
      rw [same]
      exact ⟨filed_of_step filed stepped,
        prompt_of_step filed prompt allowed stepped⟩
    exact kept.2.onTime

/-! ## A job that is due half a second later -/

/-- A dispatch that is due after midnight. -/
def dueAfter (microseconds : ℤ) : Dispatch String (List String) :=
  { retried with executeAt := some (1577836800000000 + microseconds) }

/-- The worker takes the job up at midnight. -/
def takenAtMidnight (microseconds : ℤ) :
    List (Action String (List String) String) :=
  [.submit (dueAfter microseconds) "generated-1" 0,
    .enqueue 0 0,
    .readClock 0,
    .pop,
    .start 0]

/-- Of three jobs, the second one is due a second before the others; it has
been run when the worker reads the clock again. -/
def threeJobs : List (Action String (List String) String) :=
  [.submit (dueAfter 0) "generated-1" 0,
    .submit { dueAfter (-1000000) with requestId := some "request-2" }
      "generated-2" 0,
    .submit { dueAfter 0 with requestId := some "request-3" } "generated-3" 0,
    .enqueue 0 0,
    .enqueue 1 0,
    .enqueue 2 0,
    .readClock 0,
    .pop,
    .start 0,
    .finish (.ok "3") 0,
    .readClock 0]

/-- The job of the earlier second has been started first; of the two that are
left, the worker takes the one that was submitted first. -/
theorem starts_in_due_order_midnight :
    ∃ reached next,
      Transition.run
          (Transition.observed (step midnightForms) lastReading)
          (new frozenAtMidnight, 0) threeJobs = some reached ∧
        reached.1.queue.jobs.map Job.startedAt =
            [none, some 1577836800000000, none] ∧
          StartsOnTime reached.1.queue ∧
            step midnightForms reached.1 .pop = some next ∧
              next.worker = .popped 0 ∧
                reached.1.queue.TakesOldest 0 := by
  have computed : (Transition.run
      (Transition.observed (step midnightForms) lastReading)
      (new frozenAtMidnight, 0) threeJobs).bind (fun reached =>
        (step midnightForms reached.1 .pop).map fun next =>
          (reached.1.queue.jobs.map Job.startedAt, next.worker)) =
        some ([none, some 1577836800000000, none], .popped 0) := by
    decide +kernel
  obtain ⟨reached, run, after⟩ := Option.bind_eq_some_iff.mp computed
  obtain ⟨next, popped, outcome⟩ := Option.map_eq_some_iff.mp after
  obtain ⟨started, hand⟩ := Prod.mk.inj outcome
  obtain ⟨oldest, onTime⟩ := starts_in_due_order run
  exact ⟨reached, next, run, started, onTime (by decide +kernel), popped, hand,
    oldest next 0 popped hand⟩

/-- Half a second before its instant the second of the job has begun. -/
theorem starts_half_a_second_early :
    (Transition.run
        (Transition.observed (step midnightForms) lastReading)
        (new frozenAtMidnight, 0) (takenAtMidnight 500000)).map
      (fun reached => (reached.1.clock.virtualNow,
        reached.1.queue.jobs.map fun job => (job.executeAt, job.startedAt),
        decide (StartsOnTime reached.1.queue))) =
      some (1577836800000000,
        [(1577836800500000, some 1577836800000000)], false) := by
  decide +kernel

end ExecutorState

end Executor

end Carbonshift
