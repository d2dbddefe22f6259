import Carbonshift.Client.TrackerSteps
import Mathlib.Algebra.Order.BigOperators.Group.List

/-!
# Runs of the tracker

In a run in which every callback finds its request, and finds it open when it
writes, no callback is lost, no settled request changes, and every request
yields at most one line of the metrics file.
-/

namespace Carbonshift

namespace Client

namespace TrackerState

/-! ## What a state owes -/

/-- Lines about a request that are about to be written. -/
def writing (state : TrackerState) (requestId : ℕ) : ℕ :=
  (state.threads.values.map fun work =>
    work.record.toList.countP fun record =>
      record.requestId = requestId).sum

/-- Threads that are about to track a request. -/
def adding (state : TrackerState) (requestId : ℕ) : ℕ :=
  (state.threads.values.map fun work =>
    work.adding.toList.count requestId).sum

/-- Lines about a request in the metrics file. -/
def written (state : TrackerState) (requestId : ℕ) : ℕ :=
  state.tracker.metrics.countP fun record => record.requestId = requestId

/-- One if the request is known, nothing otherwise. -/
def known (state : TrackerState) (requestId : ℕ) : ℕ :=
  if (state.tracker.byId.lookup requestId).isSome then 1 else 0

/-- One if the request is known and not open any more. -/
def settled (state : TrackerState) (requestId : ℕ) : ℕ :=
  if (state.tracker.byId.lookup requestId).any fun tracked =>
      tracked.status != .submitted then 1 else 0

/-- The request of a callback carries its outcome. -/
def Applies (state : TrackerState) (body : CallerCallbackPayload) : Prop :=
  ∃ tracked, state.tracker.byId.lookup body.requestId = some tracked ∧
    tracked.Carries body

/-- What an undisturbed run maintains. -/
structure Orderly (state : TrackerState) : Prop where
  keyed : ∀ requestId tracked,
    state.tracker.byId.lookup requestId = some tracked →
      tracked.requestId = requestId
  distinct : state.accepted.Nodup
  tracks : ∀ requestId, state.known requestId + state.adding requestId ≤
    state.accepted.count requestId
  writes : ∀ requestId, state.written requestId + state.writing requestId =
    state.settled requestId
  applying : ∀ thread work body, state.threads.lookup thread = some work →
    body ∈ work.applied → state.Applies body
  handled : ∀ entry ∈ state.handled,
    entry.2 = true ∧ state.Applies entry.1

/-- Requests that are settled stay as they are. -/
def KeepsSettled (state next : TrackerState) : Prop :=
  ∀ requestId tracked,
    state.tracker.byId.lookup requestId = some tracked →
      tracked.status ≠ .submitted →
        next.tracker.byId.lookup requestId = some tracked

variable {state next : TrackerState} {thread requestId : ℕ}

/-! ## Counting over threads -/

section Threads

variable {old work : Thread} {new : Option Thread}

theorem sum_goOn (found : state.threads.lookup thread = some old)
    (f : Thread → ℕ) :
    ((state.goOn thread new).threads.values.map f).sum + f old =
      (state.threads.values.map f).sum + (new.map f).getD 0 := by
  cases new with
  | some work => exact Dictionary.sum_map_insert_of_lookup found f work
  | none =>
      have split := (Dictionary.values_erase_of_lookup found).map f
      have same : ((state.threads.values).map f).sum =
          f old +
            ((Dictionary.values (state.threads.erase thread)).map f).sum := by
        rw [split.sum_eq, List.map_cons, List.sum_cons]
      change ((Dictionary.values (state.threads.erase thread)).map f).sum +
        f old = _
      rw [same, Option.map_none, Option.getD_none]
      omega

theorem lookup_goOn {other : ℕ}
    (found : (state.goOn thread new).threads.lookup other = some work) :
    new = some work ∨ state.threads.lookup other = some work := by
  cases new with
  | some later =>
      by_cases same : other = thread
      · subst same
        rw [goOn, AList.lookup_insert] at found
        exact Or.inl found
      · rw [goOn, AList.lookup_insert_ne same] at found
        exact Or.inr found
  | none =>
      by_cases same : other = thread
      · subst same
        rw [goOn, AList.lookup_erase] at found
        cases found
      · rw [goOn, AList.lookup_erase_ne same] at found
        exact Or.inr found

/-- What a thread is about to do is counted. -/
theorem le_sum_of_lookup (found : state.threads.lookup thread = some old)
    (f : Thread → ℕ) : f old ≤ (state.threads.values.map f).sum :=
  List.single_le_sum (fun _ _ => Nat.zero_le _) _
    (List.mem_map_of_mem (Dictionary.mem_values_iff.mpr ⟨thread, found⟩))

theorem writing_goOn (found : state.threads.lookup thread = some old)
    (requestId : ℕ) :
    (state.goOn thread new).writing requestId +
        old.record.toList.countP (fun record => record.requestId = requestId) =
      state.writing requestId +
        (new.bind Thread.record).toList.countP
          (fun record => record.requestId = requestId) := by
  rw [writing, writing, sum_goOn found]
  cases new <;> rfl

theorem adding_goOn (found : state.threads.lookup thread = some old)
    (requestId : ℕ) :
    (state.goOn thread new).adding requestId +
        old.adding.toList.count requestId =
      state.adding requestId +
        (new.bind Thread.adding).toList.count requestId := by
  rw [adding, adding, sum_goOn found]
  cases new <;> rfl

end Threads

/-! ## What the deeds keep -/

section Deeds

variable {old : Thread} {new : Option Thread} {after : TrackerState}

theorem Deed.threads_eq (deed : Deed state old new after) :
    after.threads = state.threads := by
  cases deed <;> rfl

/-- A request that is about to be tracked is not tracked yet. -/
theorem Orderly.unknown (orderly : state.Orderly)
    (found : state.threads.lookup thread = some old)
    (adds : old.adding = some requestId) :
    state.tracker.byId.lookup requestId = none := by
  have tracks := orderly.tracks requestId
  have once := List.nodup_iff_count_le_one.mp orderly.distinct requestId
  have pending := le_sum_of_lookup found
    fun work => work.adding.toList.count requestId
  rw [adds, Option.toList_some, List.count_singleton_self] at pending
  have unknown : state.known requestId = 0 := by
    rw [adding] at tracks
    omega
  unfold known at unknown
  split at unknown
  · cases unknown
  · rename_i missing
    exact Option.not_isSome_iff_eq_none.mp missing

/-- No deed touches a settled request. -/
theorem Orderly.keepsSettled (orderly : state.Orderly)
    (found : state.threads.lookup thread = some old)
    (deed : Deed state old new after) : state.KeepsSettled after := by
  intro requestId tracked known closed
  cases deed with
  | silent before after => exact known
  | accepted fresh before record adding applied => exact known
  | @added _ _ another adding record applied after opened =>
      have missing := orderly.unknown found adding
      have different : requestId ≠ another.requestId := by
        rintro rfl
        rw [missing] at known
        cases known
      exact (OrderedDictionary.lookup_insert_of_ne _ _ different).trans known
  | @changed _ _ other another changed present opened same before adding
      record applied =>
      have different : requestId ≠ other := by
        rintro rfl
        rw [present] at known
        cases known
        exact closed opened
      exact (OrderedDictionary.lookup_adjust_of_ne _ _ different).trans known
  | persisted writing adding applied after => exact known
  | delivered => exact known

theorem Applies.of_keepsSettled {body : CallerCallbackPayload}
    (applies : state.Applies body) (kept : state.KeepsSettled next) :
    next.Applies body := by
  obtain ⟨tracked, known, carries⟩ := applies
  exact ⟨tracked, kept _ tracked known carries.not_submitted, carries⟩

theorem Orderly.keyed_of_deed (orderly : state.Orderly)
    (deed : Deed state old new after) {requestId : ℕ}
    {tracked : TrackedRequest}
    (known : after.tracker.byId.lookup requestId = some tracked) :
    tracked.requestId = requestId := by
  cases deed with
  | silent before after => exact orderly.keyed _ _ known
  | accepted fresh before record adding applied =>
      exact orderly.keyed _ _ known
  | @added _ _ another adding record applied after opened =>
      change (state.tracker.byId.insert _ _).lookup _ = _ at known
      by_cases same : requestId = another.requestId
      · subst same
        rw [OrderedDictionary.lookup_insert_self] at known
        cases known
        rfl
      · rw [OrderedDictionary.lookup_insert_of_ne _ _ same] at known
        exact orderly.keyed _ _ known
  | @changed _ _ other another changed present opened alike before adding
      record applied =>
      change (state.tracker.byId.adjust _ _).lookup _ = _ at known
      by_cases same : requestId = other
      · subst same
        rw [OrderedDictionary.lookup_adjust_self, present] at known
        cases known
        exact alike.trans (orderly.keyed _ _ present)
      · rw [OrderedDictionary.lookup_adjust_of_ne _ _ same] at known
        exact orderly.keyed _ _ known
  | persisted writing adding applied after => exact orderly.keyed _ _ known
  | delivered => exact orderly.keyed _ _ known

theorem Orderly.distinct_of_deed (orderly : state.Orderly)
    (deed : Deed state old new after) : after.accepted.Nodup := by
  cases deed with
  | @accepted _ _ requestId fresh before record adding applied =>
      rw [List.nodup_append']
      refine ⟨orderly.distinct, List.nodup_singleton _, ?_⟩
      intro other earlier last
      rw [List.mem_singleton] at last
      exact fresh (last ▸ earlier)
  | silent before after => exact orderly.distinct
  | added adding record applied after opened => exact orderly.distinct
  | changed found opened same before adding record applied =>
      exact orderly.distinct
  | persisted writing adding applied after => exact orderly.distinct
  | delivered => exact orderly.distinct

theorem record_of_idle (idle : ∀ work ∈ new, work.Idle) :
    new.bind Thread.record = none := by
  cases new with
  | none => rfl
  | some work => exact (idle work rfl).record

theorem adding_of_idle (idle : ∀ work ∈ new, work.Idle) :
    new.bind Thread.adding = none := by
  cases new with
  | none => rfl
  | some work => exact (idle work rfl).adding

theorem known_update (requestId other : ℕ)
    (change : TrackedRequest → TrackedRequest) :
    (state.withTracker (state.tracker.update requestId change)).known other =
      state.known other := by
  have same : ((state.tracker.byId.adjust requestId change).lookup
      other).isSome = (state.tracker.byId.lookup other).isSome := by
    by_cases here : other = requestId
    · subst here
      rw [OrderedDictionary.lookup_adjust_self, Option.isSome_map]
    · rw [OrderedDictionary.lookup_adjust_of_ne _ _ here]
  change (if ((state.tracker.byId.adjust requestId change).lookup
    other).isSome then 1 else 0) = _
  rw [same, known]

theorem known_add_of_ne {tracked : TrackedRequest} {other : ℕ}
    (different : other ≠ tracked.requestId) :
    (state.withTracker (state.tracker.add tracked)).known other =
      state.known other := by
  change (if ((state.tracker.byId.insert tracked.requestId tracked).lookup
    other).isSome then 1 else 0) = _
  rw [OrderedDictionary.lookup_insert_of_ne _ _ different, known]

theorem known_add_self (tracked : TrackedRequest) :
    (state.withTracker (state.tracker.add tracked)).known
      tracked.requestId = 1 := by
  change (if ((state.tracker.byId.insert tracked.requestId tracked).lookup
    tracked.requestId).isSome then 1 else 0) = 1
  rw [OrderedDictionary.lookup_insert_self]
  rfl

/-- Every known or coming request is an accepted one, counted once. -/
theorem Orderly.tracks_of_deed (orderly : state.Orderly)
    (found : state.threads.lookup thread = some old)
    (deed : Deed state old new after) (requestId : ℕ) :
    (after.goOn thread new).known requestId +
        (after.goOn thread new).adding requestId ≤
      (after.goOn thread new).accepted.count requestId := by
  have tracks := orderly.tracks requestId
  have moved : (after.goOn thread new).adding requestId + _ =
      after.adding requestId + _ :=
    adding_goOn (deed.threads_eq ▸ found) requestId
  have unmoved : after.adding requestId = state.adding requestId := by
    rw [adding, adding, deed.threads_eq]
  rw [unmoved] at moved
  change after.known requestId + _ ≤ after.accepted.count requestId
  cases deed with
  | silent before idle =>
      rw [adding_of_idle idle] at moved
      simp only [Option.toList_none, List.count_nil] at moved
      omega
  | @accepted _ work other fresh before record adds applied =>
      have one : work.adding.toList.count requestId ≤
          [other].count requestId := by
        cases coming : work.adding with
        | none => exact Nat.zero_le _
        | some named => rw [adds named coming, Option.toList_some]
      rw [before.adding, Option.toList_none, List.count_nil] at moved
      change _ + 0 = _ + work.adding.toList.count requestId at moved
      change state.known requestId + _ ≤
        (state.accepted ++ [other]).count requestId
      rw [List.count_append]
      omega
  | @added _ work tracked adds record applied idle opened =>
      rw [adds, Option.bind_some, idle.adding] at moved
      simp only [Option.toList_none, Option.toList_some, List.count_nil]
        at moved
      change _ ≤ state.accepted.count requestId
      by_cases same : requestId = tracked.requestId
      · subst same
        have missing := orderly.unknown found adds
        rw [known_add_self]
        rw [List.count_singleton_self] at moved
        omega
      · rw [known_add_of_ne same]
        omega
  | changed present opened same before adds record applied =>
      rw [Option.bind_some, adds, before.adding] at moved
      rw [known_update]
      change _ ≤ state.accepted.count requestId
      omega
  | persisted writing adds applied idle =>
      rw [Option.bind_some, idle.adding, adds] at moved
      change state.known requestId + _ ≤ state.accepted.count requestId
      omega
  | delivered =>
      change state.known requestId + _ ≤ state.accepted.count requestId
      change _ + 0 = _ + 0 at moved
      omega

theorem settled_update {requestId other : ℕ}
    {tracked changed : TrackedRequest}
    (present : state.tracker.byId.lookup requestId = some tracked) :
    (state.withTracker (state.tracker.update requestId
        fun _ => changed)).settled other =
      if other = requestId then
        (if changed.status = .submitted then 0 else 1)
      else state.settled other := by
  change (if ((state.tracker.byId.adjust _ _).lookup _).any _
    then 1 else 0) = _
  by_cases here : other = requestId
  · subst here
    rw [OrderedDictionary.lookup_adjust_self, present, Option.map_some,
      Option.any_some, if_pos rfl]
    by_cases still : changed.status = .submitted
    · rw [still]
      rfl
    · rw [if_neg still, if_pos (by simpa using still)]
  · rw [OrderedDictionary.lookup_adjust_of_ne _ _ here, if_neg here, settled]

theorem written_persist (record : MetricsRecord) (requestId : ℕ) :
    (state.withTracker (state.tracker.persist record)).written requestId =
      state.written requestId +
        [record].countP fun record => record.requestId = requestId :=
  List.countP_append

/-- Every settled request has one line, in the file or about to be. -/
theorem Orderly.writes_of_deed (orderly : state.Orderly)
    (found : state.threads.lookup thread = some old)
    (deed : Deed state old new after) (requestId : ℕ) :
    (after.goOn thread new).written requestId +
        (after.goOn thread new).writing requestId =
      (after.goOn thread new).settled requestId := by
  have writes := orderly.writes requestId
  have moved : (after.goOn thread new).writing requestId + _ =
      after.writing requestId + _ :=
    writing_goOn (deed.threads_eq ▸ found) requestId
  have unmoved : after.writing requestId = state.writing requestId := by
    rw [writing, writing, deed.threads_eq]
  rw [unmoved] at moved
  change after.written requestId + _ = after.settled requestId
  cases deed with
  | silent before idle =>
      rw [record_of_idle idle, before.record] at moved
      omega
  | accepted fresh before record adds applied =>
      rw [Option.bind_some, record, before.record] at moved
      change state.written requestId + _ = state.settled requestId
      omega
  | @added _ work tracked adds record applied idle opened =>
      rw [Option.bind_some, idle.record, record] at moved
      change state.written requestId + _ = _
      have same : (state.withTracker
          (state.tracker.add tracked)).settled requestId =
            state.settled requestId := by
        change (if ((state.tracker.byId.insert _ _).lookup _).any _
          then 1 else 0) = _
        by_cases here : requestId = tracked.requestId
        · subst here
          rw [OrderedDictionary.lookup_insert_self, settled,
            orderly.unknown found adds, Option.any_some, Option.any_none,
            opened]
          rfl
        · rw [OrderedDictionary.lookup_insert_of_ne _ _ here, settled]
      omega
  | @changed _ work other tracked changed present opened same before adds
      record applied =>
      have own : changed.toDict.requestId = other :=
        same.trans (orderly.keyed other tracked present)
      rw [Option.bind_some, record, before.record, Option.toList_none,
        List.countP_nil] at moved
      change state.written requestId + _ = _
      rw [settled_update present]
      by_cases here : requestId = other
      · subst here
        have nothing : state.settled requestId = 0 := by
          rw [settled, present, Option.any_some, opened]
          rfl
        rw [if_pos rfl]
        by_cases still : changed.status = .submitted
        · rw [if_pos still] at moved ⊢
          simp only [Option.toList_none, List.countP_nil] at moved
          omega
        · rw [if_neg still] at moved ⊢
          rw [Option.toList_some, List.countP_singleton, own,
            if_pos (decide_eq_true rfl)] at moved
          omega
      · have another : (if changed.status = .submitted then none
            else some changed.toDict).toList.countP
              (fun record => record.requestId = requestId) = 0 := by
          split
          · rfl
          · rw [Option.toList_some, List.countP_singleton, own,
              if_neg (by simpa using Ne.symm here)]
        rw [if_neg here]
        omega
  | persisted writing adds applied idle =>
      rw [Option.bind_some, idle.record, writing, Option.toList_none,
        List.countP_nil, Option.toList_some] at moved
      rw [written_persist]
      change _ = state.settled requestId
      omega
  | @delivered body line =>
      change _ + [line].countP _ = _ + 0 at moved
      change (state.withTracker (state.tracker.persist line)).written
        requestId + _ = state.settled requestId
      rw [written_persist]
      omega

/-- What a deed has applied, or says that it handled, is carried. -/
theorem Deed.applies (deed : Deed state old new after) {work : Thread}
    {body : CallerCallbackPayload} (later : new = some work)
    (applied : body ∈ work.applied) : after.Applies body := by
  cases deed with
  | silent before idle =>
      rw [(idle work later).applied] at applied
      cases applied
  | accepted fresh before record adds none_ =>
      cases later
      rw [none_] at applied
      cases applied
  | added adds record none_ idle opened =>
      cases later
      rw [idle.applied] at applied
      cases applied
  | @changed _ _ other tracked changed present opened same before adds
      record carried =>
      cases later
      obtain ⟨own, carries⟩ := carried body applied
      refine ⟨changed, ?_, carries⟩
      change (state.tracker.byId.adjust _ _).lookup _ = _
      rw [own, OrderedDictionary.lookup_adjust_self, present, Option.map_some]
  | persisted writing adds none_ idle =>
      cases later
      rw [idle.applied] at applied
      cases applied
  | delivered => cases later

theorem Orderly.handled_of_deed (orderly : state.Orderly)
    (found : state.threads.lookup thread = some old)
    (deed : Deed state old new after) {entry : CallerCallbackPayload × Bool}
    (member : entry ∈ after.handled) :
    entry.2 = true ∧ after.Applies entry.1 := by
  have kept := orderly.keepsSettled found deed
  have earlier (before : entry ∈ state.handled) :
      entry.2 = true ∧ after.Applies entry.1 := by
    obtain ⟨answered, applies⟩ := orderly.handled entry before
    exact ⟨answered, applies.of_keepsSettled kept⟩
  cases deed with
  | silent before idle => exact earlier member
  | accepted fresh before record adds applied => exact earlier member
  | added adds record applied idle opened => exact earlier member
  | changed present opened same before adds record applied =>
      exact earlier member
  | persisted writing adds applied idle => exact earlier member
  | @delivered body line =>
      rcases List.mem_append.mp member with before | last
      · exact earlier before
      · cases List.mem_singleton.mp last
        have applies := orderly.applying thread _ body found rfl
        exact ⟨rfl, applies.of_keepsSettled kept⟩

end Deeds

/-! ## Steps and runs -/

theorem orderly_new (timeoutSeconds : ℚ) (timeoutShown : String) :
    (new timeoutSeconds timeoutShown).Orderly where
  keyed requestId tracked known := by cases known
  distinct := List.nodup_nil
  tracks requestId := Nat.le_refl 0
  writes requestId := rfl
  applying thread work body found := by cases found
  handled entry member := absurd member List.not_mem_nil

theorem Orderly.started {work : Thread} (orderly : state.Orderly)
    (fresh : thread ∉ state.threads) (idle : work.Idle) :
    Orderly { state with threads := state.threads.insert thread work } where
  keyed := orderly.keyed
  distinct := orderly.distinct
  tracks requestId := by
    have tracks := orderly.tracks requestId
    have same : adding
        { state with threads := state.threads.insert thread work }
          requestId = state.adding requestId := by
      rw [adding, Dictionary.sum_map_insert_of_absent fresh, idle.adding,
        adding]
      exact Nat.zero_add _
    rw [same]
    exact tracks
  writes requestId := by
    have writes := orderly.writes requestId
    have same : writing
        { state with threads := state.threads.insert thread work }
          requestId = state.writing requestId := by
      rw [writing, Dictionary.sum_map_insert_of_absent fresh, idle.record,
        writing]
      exact Nat.zero_add _
    rw [same]
    exact writes
  applying other next body found applied := by
    by_cases same : other = thread
    · subst same
      rw [AList.lookup_insert] at found
      cases found
      rw [idle.applied] at applied
      cases applied
    · rw [AList.lookup_insert_ne same] at found
      exact orderly.applying other next body found applied
  handled := orderly.handled

theorem Orderly.move (orderly : state.Orderly) (move : Move state next) :
    next.Orderly ∧ state.KeepsSettled next := by
  cases move with
  | started fresh idle =>
      exact ⟨orderly.started fresh idle, fun _ _ known _ => known⟩
  | @proceeded thread old new after found deed =>
      have kept : state.KeepsSettled after := orderly.keepsSettled found deed
      refine ⟨?_, kept⟩
      exact
        { keyed := fun _ _ known => orderly.keyed_of_deed deed known
          distinct := by
            have distinct := orderly.distinct_of_deed deed
            exact distinct
          tracks := orderly.tracks_of_deed found deed
          writes := orderly.writes_of_deed found deed
          applying := by
            intro other work body known applied
            rcases lookup_goOn known with later | unmoved
            · exact deed.applies later applied
            · rw [deed.threads_eq] at unmoved
              exact (orderly.applying other work body unmoved
                applied).of_keepsSettled kept
          handled := fun _ member => orderly.handled_of_deed found deed member }

/-- What the client promises about its callbacks. -/
structure CountsOnce (start : TrackerState) (actions : List TrackerAction)
    (final : TrackerState) : Prop where
  /-- Every callback was applied to its request. -/
  applied : ∀ entry ∈ final.handled,
    entry.2 = true ∧ final.Applies entry.1
  /-- A completed or failed request is not changed by what follows. -/
  unchanged : ∀ earlier later middle, actions = earlier ++ later →
    Transition.run step start earlier = some middle →
      ∀ requestId tracked,
        middle.tracker.byId.lookup requestId = some tracked →
          tracked.status = .completed ∨ tracked.status = .failed →
            final.tracker.byId.lookup requestId = some tracked
  /-- A request has at most one line in the metrics file. -/
  once : ∀ requestId, final.written requestId ≤ 1

theorem callbacks_count_once (timeoutSeconds : ℚ) (timeoutShown : String)
    (actions : List TrackerAction) (final : TrackerState)
    (undisturbed : Transition.Guarded step Undisturbed
      (new timeoutSeconds timeoutShown) actions)
    (reached : Transition.run step (new timeoutSeconds timeoutShown)
      actions = some final) :
    CountsOnce (new timeoutSeconds timeoutShown) actions final := by
  obtain ⟨orderly, -, kept⟩ := Transition.guarded_induction
    (fun history state => state.Orderly ∧
      Transition.run step (new timeoutSeconds timeoutShown) history =
          some state ∧
        ∀ earlier later middle, history = earlier ++ later →
          Transition.run step (new timeoutSeconds timeoutShown) earlier =
            some middle → middle.KeepsSettled state)
    ⟨orderly_new timeoutSeconds timeoutShown, rfl, by
      intro earlier later middle split before
      obtain ⟨rfl, -⟩ := List.append_eq_nil_iff.mp split.symm
      cases before
      exact fun _ _ known _ => known⟩
    (by
      rintro history state action next ⟨orderly, before, kept⟩ allowed taken
      obtain ⟨after, keeps⟩ := orderly.move (step_move allowed taken)
      have reached := Transition.run_concat_eq_some_iff.mpr
        ⟨state, before, taken⟩
      refine ⟨after, reached, ?_⟩
      intro earlier later middle split passed
      rcases List.eq_nil_or_concat later with rfl | ⟨rest, last, rfl⟩
      · rw [List.append_nil] at split
        rw [← split, reached] at passed
        cases passed
        exact fun _ _ known _ => known
      · rw [List.concat_eq_append, ← List.append_assoc] at split
        obtain ⟨rfl, -⟩ := List.append_inj' split rfl
        intro requestId tracked known closed
        exact keeps _ _
          (kept earlier rest middle rfl passed _ _ known closed) closed)
    undisturbed reached
  refine ⟨orderly.handled, ?_, ?_⟩
  · intro earlier later middle split before requestId tracked known closed
    refine kept earlier later middle split before requestId tracked known ?_
    rcases closed with completed | failed
    · rw [completed]
      exact TrackedStatus.noConfusion
    · rw [failed]
      exact TrackedStatus.noConfusion
  · intro requestId
    have writes := orderly.writes requestId
    have atMost : final.settled requestId ≤ 1 := by
      unfold settled
      split <;> simp
    omega

/-! ## Runs of one request -/

section OneRequest

private def oneBatch : SlotBatch :=
  ⟨.hourly, 0, some 0⟩

private def oneRequest : PlanRequest :=
  ⟨"ner", none, 0, 3600000000⟩

private def scheduledAck : Ack :=
  ⟨⟨1, ⟨"ner-default"⟩, .scheduled, some 0, none, none, none, 2, none⟩, none⟩

private def success : CallerCallbackPayload :=
  ⟨1, true, none, none, none, none, none, none⟩

private def failure : CallerCallbackPayload :=
  ⟨1, false, none, some "again", none, none, none, none⟩

/-- The request is accepted; CarbonShift's answer is on its way. -/
private def submitting : List TrackerAction :=
  [.sendSlotBatch 0 oneBatch [oneRequest],
    .proceed 0 (.submitted 0 (.answered scheduledAck))]

private def tracking : List TrackerAction :=
  [.proceed 0 (.clock 0), .proceed 0 .resumed]

private def calling (thread : ℕ) (body : CallerCallbackPayload) :
    List TrackerAction :=
  [.onCallback thread body, .proceed thread .resumed,
    .proceed thread (.clock 1000000), .proceed thread .resumed]

/-- A sweep after the timeout, which CarbonShift does not answer. -/
private def sweeping (thread : ℕ) : List TrackerAction :=
  [.sweepTimeouts thread 301000000, .proceed thread .resumed,
    .proceed thread (.status none), .proceed thread .resumed,
    .proceed thread .resumed]

/-- Which callbacks found the request, its lines, and its status. -/
def outcome (state : TrackerState) (requestId : ℕ) :
    List Bool × ℕ × Option TrackedStatus :=
  (state.handled.map Prod.snd, state.written requestId,
    (state.tracker.byId.lookup requestId).map TrackedRequest.status)

private theorem not_countsOnce_of_two_lines {start : TrackerState}
    {actions : List TrackerAction} (lines : state.written requestId = 2) :
    ¬ CountsOnce start actions state := by
  intro promise
  have once := promise.once requestId
  omega

/-- A sweep comes after the callback of the request. -/
theorem callbacks_count_once_oneRequest :
    ∃ final,
      Transition.run step (new 300 "300.0")
          (submitting ++ tracking ++ calling 1 success ++
            [.sweepTimeouts 2 301000000]) = some final ∧
        final.outcome 1 = ([true], 1, some .completed) ∧
          CountsOnce (new 300 "300.0")
            (submitting ++ tracking ++ calling 1 success ++
              [.sweepTimeouts 2 301000000]) final := by
  have known : (Transition.run step (new 300 "300.0")
      (submitting ++ tracking ++ calling 1 success ++
        [.sweepTimeouts 2 301000000])).map (fun final => final.outcome 1) =
          some ([true], 1, some .completed) := by
    decide +kernel
  obtain ⟨final, reached, outcome⟩ := Option.map_eq_some_iff.mp known
  exact ⟨final, reached, outcome,
    callbacks_count_once 300 "300.0" _ final (by decide +kernel) reached⟩

/-- A callback that overtakes the tracking is lost; the second of two
callbacks rewrites a settled request; a callback after the timeout makes a
second line. -/
theorem callbacks_lost_or_counted_twice :
    (∃ final,
      Transition.run step (new 300 "300.0")
          (submitting ++ [.onCallback 1 success, .proceed 1 .resumed] ++
            tracking) = some final ∧
        final.outcome 1 = ([false], 0, some .submitted) ∧
          ¬ CountsOnce (new 300 "300.0")
            (submitting ++ [.onCallback 1 success, .proceed 1 .resumed] ++
              tracking) final) ∧
      (∃ final,
        Transition.run step (new 300 "300.0")
            (submitting ++ tracking ++ calling 1 success ++
              calling 2 failure) = some final ∧
          final.outcome 1 = ([true, true], 2, some .failed) ∧
            ¬ CountsOnce (new 300 "300.0")
              (submitting ++ tracking ++ calling 1 success ++
                calling 2 failure) final) ∧
        ∃ final,
          Transition.run step (new 300 "300.0")
              (submitting ++ tracking ++ sweeping 1 ++ calling 2 success) =
                some final ∧
            final.outcome 1 = ([true], 2, some .completed) ∧
              ¬ CountsOnce (new 300 "300.0")
                (submitting ++ tracking ++ sweeping 1 ++ calling 2 success)
                final := by
  refine ⟨?_, ?_, ?_⟩
  · have known : (Transition.run step (new 300 "300.0")
        (submitting ++ [.onCallback 1 success, .proceed 1 .resumed] ++
          tracking)).map (fun final => final.outcome 1) =
            some ([false], 0, some .submitted) := by
      decide +kernel
    obtain ⟨final, reached, seen⟩ := Option.map_eq_some_iff.mp known
    refine ⟨final, reached, seen, fun promise => ?_⟩
    have answers : final.handled.map Prod.snd = [false] :=
      congrArg Prod.fst seen
    have missed : false ∈ final.handled.map Prod.snd := by
      rw [answers]
      exact List.mem_cons_self
    obtain ⟨entry, member, lost⟩ := List.mem_map.mp missed
    rw [(promise.applied entry member).1] at lost
    cases lost
  · have known : (Transition.run step (new 300 "300.0")
        (submitting ++ tracking ++ calling 1 success ++
          calling 2 failure)).map (fun final => final.outcome 1) =
            some ([true, true], 2, some .failed) := by
      decide +kernel
    obtain ⟨final, reached, seen⟩ := Option.map_eq_some_iff.mp known
    have lines : final.written 1 = 2 := congrArg (fun row => row.2.1) seen
    exact ⟨final, reached, seen, not_countsOnce_of_two_lines lines⟩
  · have known : (Transition.run step (new 300 "300.0")
        (submitting ++ tracking ++ sweeping 1 ++ calling 2 success)).map
          (fun final => final.outcome 1) =
            some ([true], 2, some .completed) := by
      decide +kernel
    obtain ⟨final, reached, seen⟩ := Option.map_eq_some_iff.mp known
    have lines : final.written 1 = 2 := congrArg (fun row => row.2.1) seen
    exact ⟨final, reached, seen, not_countsOnce_of_two_lines lines⟩

end OneRequest

end TrackerState

end Client

end Carbonshift
