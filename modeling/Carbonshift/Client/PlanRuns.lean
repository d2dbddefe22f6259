import Carbonshift.Client.PlanCoverage

/-!
# Runs of a plan

The ticks sweep over the slots of a plan in increasing order; earlier ticks
may come again.
-/

namespace Carbonshift

namespace Client

open Provider (SlotGrid)

/-- The ticks go through every slot from the first to the last one in order,
and repeat slots at will. -/
inductive Ascending (first : ℤ) : ℤ → List ℤ → Prop where
  | idle : Ascending first (first - 1) []
  | next {last : ℤ} {ticks : List ℤ} (earlier : Ascending first last ticks) :
      Ascending first (last + 1) (ticks ++ [last + 1])
  | again {last slot : ℤ} {ticks : List ℤ}
      (earlier : Ascending first last ticks) (old : slot ≤ last) :
      Ascending first last (ticks ++ [slot])

theorem Ascending.nil_inv {first last : ℤ} {ticks : List ℤ}
    (ascending : Ascending first last ticks) (empty : ticks = []) :
    last = first - 1 := by
  cases ascending with
  | idle => rfl
  | next earlier => exact absurd empty (by simp)
  | again earlier old => exact absurd empty (by simp)

theorem Ascending.concat_inv {first last slot : ℤ} {ticks more : List ℤ}
    (ascending : Ascending first last more) (split : more = ticks ++ [slot]) :
    ∃ before, Ascending first before ticks ∧
      (slot = before + 1 ∧ last = slot ∨ slot ≤ before ∧ last = before) := by
  cases ascending with
  | idle => exact absurd split.symm (by simp)
  | @next before earlierTicks earlier =>
      obtain ⟨rfl, ended⟩ := List.append_inj' split rfl
      obtain rfl := List.singleton_inj.mp ended
      exact ⟨before, earlier, Or.inl ⟨rfl, rfl⟩⟩
  | again earlier old =>
      obtain ⟨rfl, ended⟩ := List.append_inj' split rfl
      obtain rfl := List.singleton_inj.mp ended
      exact ⟨last, earlier, Or.inr ⟨old, rfl⟩⟩

namespace ClientState

/-- The slots that a run ticks. -/
def ticksOf (actions : List Action) : List ℤ :=
  actions.filterMap fun action =>
    match action with
    | .storePlan _ _ => none
    | .tick _ slot _ => some slot

/-- No submission is refused. -/
def AllAccepted (actions : List Action) : Prop :=
  ∀ accepts slot boundary, Action.tick accepts slot boundary ∈ actions →
    ∀ request, accepts request = true

variable {settings : Settings} {state : ClientState} {planId : ℕ}
variable {grid : SlotGrid} {requests : List PlanRequest}

/-- The requests that start in a range of slots. -/
def requestsIn (grid : SlotGrid) (requests : List PlanRequest)
    (first last : ℤ) : List PlanRequest :=
  requests.filter fun request =>
    first ≤ request.slotIn grid ∧ request.slotIn grid ≤ last

/-- The latest slot that was handled when the ticks have come to a slot. -/
def processedThrough (first latest last : ℤ) : Option ℤ :=
  if last < first then none else some (min last latest)

/-- The plan when the ticks have come to a slot. -/
def planThrough (grid : SlotGrid) (requests : List PlanRequest)
    (nonempty : requests ≠ []) (last : ℤ) : Plan :=
  { Plan.new grid requests nonempty with
    lastProcessedSlot := processedThrough
      (firstSlot grid requests nonempty)
      (latestSlot grid requests nonempty) last }

/-- How far the submission of a plan is when the ticks have come to a slot. -/
structure Progress (grid : SlotGrid) (requests : List PlanRequest)
    (nonempty : requests ≠ []) (planId : ℕ) (last : ℤ)
    (state : ClientState) : Prop where
  stored : state.store.plans.lookup planId =
    some (planThrough grid requests nonempty last)
  sent : (state.sentFor planId).Perm
    ((requestsIn grid requests (firstSlot grid requests nonempty)
      last).map fun request => (request.slotIn grid, request))

theorem requestsIn_succ (first last : ℤ) (later : first ≤ last + 1) :
    (requestsIn grid requests first (last + 1)).Perm
      (requestsIn grid requests first last ++
        requests.filter fun request => request.slotIn grid = last + 1) := by
  have split := (List.filter_append_perm
    (fun request => decide (request.slotIn grid ≤ last))
    (requestsIn grid requests first (last + 1))).symm
  have earlier : (requestsIn grid requests first (last + 1)).filter
      (fun request => decide (request.slotIn grid ≤ last)) =
        requestsIn grid requests first last := by
    rw [requestsIn, List.filter_filter, requestsIn]
    refine List.filter_congr fun request _ => ?_
    rw [← Bool.decide_and, decide_eq_decide]
    omega
  have last_ : (requestsIn grid requests first (last + 1)).filter
      (fun request => !decide (request.slotIn grid ≤ last)) =
        requests.filter fun request => request.slotIn grid = last + 1 := by
    rw [requestsIn, List.filter_filter]
    refine List.filter_congr fun request _ => ?_
    rw [← decide_not, ← Bool.decide_and, decide_eq_decide]
    omega
  rw [earlier, last_] at split
  exact split

/-- A slot without requests changes nothing. -/
theorem requestsIn_congr {first earlier later : ℤ}
    (same : ∀ request ∈ requests, first ≤ request.slotIn grid →
      (request.slotIn grid ≤ earlier ↔ request.slotIn grid ≤ later)) :
    requestsIn grid requests first earlier =
      requestsIn grid requests first later := by
  refine List.filter_congr fun request member => ?_
  rw [decide_eq_decide]
  constructor
  · rintro ⟨above, below⟩
    exact ⟨above, (same request member above).mp below⟩
  · rintro ⟨above, below⟩
    exact ⟨above, (same request member above).mpr below⟩

theorem Progress.of_samePlan {next : ClientState} {nonempty : requests ≠ []}
    {last : ℤ} (progress : Progress grid requests nonempty planId last state)
    (same : SamePlan planId state next) :
    Progress grid requests nonempty planId last next :=
  ⟨same.stored.trans progress.stored, same.sent ▸ progress.sent⟩

section Ticks

variable {nonempty : requests ≠ []} {last slot boundary : ℤ}
variable {accepts : Acceptance}

/-- Index of a slot of the plan. -/
theorem indexOf_planThrough (exact_ : ExactSlots grid requests) :
    (planThrough grid requests nonempty last).indexOf slot =
      if firstSlot grid requests nonempty ≤ slot ∧
          slot ≤ latestSlot grid requests nonempty then
        some (slot - firstSlot grid requests nonempty)
      else
        none := by
  have start : (planThrough grid requests nonempty last).planStartSlot =
      firstSlot grid requests nonempty :=
    planStartSlot_new nonempty exact_
  have count : (planThrough grid requests nonempty last).slotCount =
      latestSlot grid requests nonempty -
        firstSlot grid requests nonempty + 1 :=
    slotCount_new nonempty exact_
  rw [Plan.indexOf, start, count]
  refine if_congr ?_ rfl rfl
  omega

theorem alreadyProcessed_planThrough
    (inside : firstSlot grid requests nonempty ≤ slot ∧
      slot ≤ latestSlot grid requests nonempty) :
    (planThrough grid requests nonempty last).alreadyProcessed slot =
      decide (slot ≤ last) := by
  rw [Plan.alreadyProcessed, planThrough, processedThrough]
  split
  · rw [Option.any_none, eq_comm, decide_eq_false_iff_not]
    omega
  · rw [Option.any_some, decide_eq_decide]
    omega

theorem markProcessed_planThrough
    (inside : firstSlot grid requests nonempty ≤ slot ∧
      slot ≤ latestSlot grid requests nonempty) :
    (planThrough grid requests nonempty last).markProcessed slot =
      planThrough grid requests nonempty slot := by
  rw [Plan.markProcessed, planThrough, planThrough, processedThrough,
    processedThrough, if_neg (by omega : ¬ slot < _), min_eq_left inside.2]

/-- Outside its span the ticks do not matter to a plan. -/
theorem processedThrough_succ {first latest : ℤ} (ordered : first ≤ latest)
    (outside : ¬ (first ≤ last + 1 ∧ last + 1 ≤ latest)) :
    processedThrough first latest (last + 1) =
      processedThrough first latest last := by
  unfold processedThrough
  by_cases before : last < first
  · rw [if_pos before, if_pos (by omega)]
  · rw [if_neg before, if_neg (by omega), min_eq_right (by omega),
      min_eq_right (by omega)]

/-- A tick that has come before is not handled again. -/
theorem Progress.again (exact_ : ExactSlots grid requests)
    (progress : Progress grid requests nonempty planId last state)
    (old : slot ≤ last) :
    Progress grid requests nonempty planId last
      (state.processSlotTick settings accepts slot boundary).2 := by
  refine progress.of_samePlan (samePlan_processSlotTick progress.stored ?_)
  by_cases inside :
      firstSlot grid requests nonempty ≤ slot ∧
        slot ≤ latestSlot grid requests nonempty
  · refine Or.inr ?_
    rw [alreadyProcessed_planThrough inside]
    exact decide_eq_true old
  · refine Or.inl ?_
    rw [indexOf_planThrough exact_, if_neg inside]

/-- The tick of the next slot. -/
theorem Progress.next (exact_ : ExactSlots grid requests)
    (accepted : ∀ request, accepts request = true)
    (progress : Progress grid requests nonempty planId last state) :
    Progress grid requests nonempty planId (last + 1)
      (state.processSlotTick settings accepts (last + 1) boundary).2 := by
  by_cases inside :
      firstSlot grid requests nonempty ≤ last + 1 ∧
        last + 1 ≤ latestSlot grid requests nonempty
  · have handled : Handled settings accepts (last + 1) boundary planId
        (planThrough grid requests nonempty last)
        (last + 1 - firstSlot grid requests nonempty) state
        (state.processSlotTick settings accepts (last + 1) boundary).2 := by
      refine handled_processSlotTick progress.stored ?_ ?_
      · rw [indexOf_planThrough exact_, if_pos inside]
      · rw [alreadyProcessed_planThrough inside, decide_eq_false_iff_not]
        omega
    have batch : ((planThrough grid requests nonempty last).batch
        (last + 1 - firstSlot grid requests nonempty)).filter accepts =
          requests.filter fun request =>
            request.slotIn grid = last + 1 := by
      rw [List.filter_eq_self.mpr fun request _ => accepted request]
      exact batch_new nonempty exact_ (last + 1)
    have named : (requests.filter fun request =>
        request.slotIn grid = last + 1).map
          (fun request => (last + 1, request)) =
        (requests.filter fun request =>
          request.slotIn grid = last + 1).map
            fun request => (request.slotIn grid, request) := by
      refine List.map_congr_left fun request member => ?_
      rw [of_decide_eq_true (List.mem_filter.mp member).2]
    constructor
    · rw [handled.stored, markProcessed_planThrough inside]
    · rw [handled.sent, batch, named]
      refine (progress.sent.append_right _).trans ?_
      rw [← List.map_append]
      exact ((requestsIn_succ _ last inside.1).map _).symm
  · have outside : SamePlan planId state
        (state.processSlotTick settings accepts (last + 1) boundary).2 := by
      refine samePlan_processSlotTick progress.stored (Or.inl ?_)
      rw [indexOf_planThrough exact_, if_neg inside]
    have ordered : firstSlot grid requests nonempty ≤
        latestSlot grid requests nonempty :=
      slotIn_le_latestSlot nonempty (List.head_mem nonempty)
    have stays := progress.of_samePlan outside
    constructor
    · rw [stays.stored, planThrough, planThrough,
        processedThrough_succ ordered inside]
    · have none_ : requestsIn grid requests
          (firstSlot grid requests nonempty) (last + 1) =
            requestsIn grid requests
              (firstSlot grid requests nonempty) last := by
        refine requestsIn_congr fun request member above => ?_
        have below : request.slotIn grid ≤
            latestSlot grid requests nonempty :=
          slotIn_le_latestSlot nonempty member
        omega
      rw [none_]
      exact stays.sent

end Ticks

/-! ## Whole runs -/

section Runs

variable {registered : ClientState} {nonempty : requests ≠ []}

theorem storePlan_of_nonempty (state : ClientState) (grid : SlotGrid)
    (nonempty : requests ≠ []) :
    ∃ next, state.storePlan grid requests = .ok (state.store.nextPlanId, next) ∧
      next.store.plans = state.store.plans.insert state.store.nextPlanId
          (.new grid requests nonempty) ∧
        next.submissions = state.submissions := by
  unfold storePlan
  split
  · rename_i stored
    unfold PlanStore.storePlan at stored
    rw [dif_pos nonempty] at stored
    cases stored
  · rename_i planId store stored
    unfold PlanStore.storePlan at stored
    rw [dif_pos nonempty] at stored
    cases stored
    exact ⟨_, rfl, rfl, rfl⟩

/-- Registering another plan does not touch the ones before. -/
theorem samePlan_step_storePlan (settings : Settings) (otherGrid : SlotGrid)
    (others : List PlanRequest) (known : planId ∈ state.store.plans.keys) :
    SamePlan planId state
      (state.step settings (.storePlan otherGrid others)) := by
  unfold step
  dsimp only
  by_cases nonempty : others ≠ []
  · obtain ⟨next, stored, plans, submissions⟩ :=
      storePlan_of_nonempty state otherGrid nonempty
    rw [stored]
    have different : planId ≠ state.store.nextPlanId :=
      Nat.ne_of_lt (state.store.counted planId known)
    constructor
    · rw [plans, OrderedDictionary.lookup_insert_of_ne _ _ different]
    · rw [sentFor, submissions, sentFor]
  · have refused : state.storePlan otherGrid others =
        .error "a plan must contain at least one request" := by
      unfold storePlan
      split
      · rename_i message stored
        unfold PlanStore.storePlan at stored
        rw [dif_neg nonempty] at stored
        cases stored
        rfl
      · rename_i planId store stored
        unfold PlanStore.storePlan at stored
        rw [dif_neg nonempty] at stored
        cases stored
    rw [refused]
    exact .refl planId state

/-- A plan that was just registered. -/
theorem progress_registered {last : ℤ}
    (stored : state.storePlan grid requests = .ok (planId, registered))
    (before : last < firstSlot grid requests nonempty) :
    Progress grid requests nonempty planId last registered := by
  obtain ⟨next, done, plans, submissions⟩ :=
    storePlan_of_nonempty state grid nonempty
  rw [stored] at done
  cases done
  have unsent : registered.sentFor state.store.nextPlanId = [] := by
    rw [sentFor, submissions, List.map_eq_nil_iff, List.filter_eq_nil_iff]
    intro submission member
    have earlier := state.known submission member
    rw [decide_eq_true_eq]
    omega
  have none_ : requestsIn grid requests
      (firstSlot grid requests nonempty) last = [] := by
    rw [requestsIn, List.filter_eq_nil_iff]
    intro request _
    rw [decide_eq_true_eq]
    omega
  constructor
  · rw [plans, OrderedDictionary.lookup_insert_self, planThrough,
      processedThrough, if_pos before]
    rfl
  · rw [unsent, none_]
    exact List.Perm.nil

theorem progress_of_run {first : ℤ} (exact_ : ExactSlots grid requests)
    (stored : state.storePlan grid requests = .ok (planId, registered))
    (early : first ≤ firstSlot grid requests nonempty)
    (actions : List Action) {last : ℤ}
    (ascending : Ascending first last (ticksOf actions))
    (accepted : AllAccepted actions) :
    Progress grid requests nonempty planId last
      (actions.foldl (step settings) registered) := by
  induction actions using List.reverseRecOn generalizing last with
  | nil =>
      have idle := ascending.nil_inv rfl
      exact progress_registered stored (by omega)
  | append_singleton earlier action inductionHypothesis =>
      have acceptedEarlier : AllAccepted earlier :=
        fun accepts slot boundary member =>
          accepted accepts slot boundary (List.mem_append_left _ member)
      rw [List.foldl_append, List.foldl_cons, List.foldl_nil]
      cases action with
      | storePlan otherGrid others =>
          have ticks : ticksOf (earlier ++ [.storePlan otherGrid others]) =
              ticksOf earlier := by
            simp [ticksOf]
          rw [ticks] at ascending
          have progress := inductionHypothesis ascending acceptedEarlier
          exact progress.of_samePlan (samePlan_step_storePlan settings
            otherGrid others
            (OrderedDictionary.mem_keys_of_lookup progress.stored))
      | tick accepts slot boundary =>
          have ticks : ticksOf (earlier ++ [.tick accepts slot boundary]) =
              ticksOf earlier ++ [slot] := by
            simp [ticksOf]
          obtain ⟨before, ascendingEarlier, which⟩ :=
            ascending.concat_inv ticks
          have progress :=
            inductionHypothesis ascendingEarlier acceptedEarlier
          rcases which with ⟨rfl, rfl⟩ | ⟨old, rfl⟩
          · exact progress.next exact_ (accepted accepts _ boundary
              (List.mem_append_right _ List.mem_cons_self))
          · exact progress.again exact_ old

end Runs

/-- The requests of a plan are submitted, each once and in its slot, exactly
when none of them lies before the slot of the plan's first request. -/
theorem plan_covered_iff (settings : Settings) (state registered : ClientState)
    (grid : SlotGrid) (requests : List PlanRequest)
    (nonempty : requests ≠ []) (planId : ℕ)
    (stored : state.storePlan grid requests = .ok (planId, registered))
    (exact_ : ExactSlots grid requests)
    (actions : List Action) (first last : ℤ)
    (ascending : Ascending first last (ticksOf actions))
    (covers : ∀ request ∈ requests,
      first ≤ request.slotIn grid ∧ request.slotIn grid ≤ last)
    (accepted : AllAccepted actions) :
    ((actions.foldl (step settings) registered).sentFor planId).Perm
        (requests.map fun request => (request.slotIn grid, request)) ↔
      ∀ request ∈ requests,
        (requests.head nonempty).slotIn grid ≤ request.slotIn grid := by
  have early : first ≤ firstSlot grid requests nonempty :=
    (covers _ (List.head_mem nonempty)).1
  have progress : Progress grid requests nonempty planId last
      (actions.foldl (step settings) registered) :=
    progress_of_run exact_ stored early actions ascending accepted
  constructor
  · intro covered
    have length := (progress.sent.symm.trans covered).length_eq
    rw [List.length_map, List.length_map] at length
    have all := List.filter_eq_self.mp
      (List.filter_sublist.eq_of_length length)
    intro request member
    exact (of_decide_eq_true (all request member)).1
  · intro earliest
    have all : requestsIn grid requests
        (firstSlot grid requests nonempty) last = requests := by
      rw [requestsIn, List.filter_eq_self]
      intro request member
      exact decide_eq_true
        ⟨earliest request member, (covers request member).2⟩
    have sent := progress.sent
    rw [all] at sent
    exact sent

/-! ## Two requests -/

section TwoRequests

private def manual : Settings :=
  ⟨.hourly, true⟩

private def early : PlanRequest :=
  ⟨"ner", none, 60000000, 3600000000⟩

private def late : PlanRequest :=
  ⟨"ner", none, 3660000000, 7200000000⟩

private def everything : Acceptance := fun _ => true

/-- The second slot is ticked again, and so is the first one after it. -/
private def retriedTicks : List Action :=
  [.tick everything 0 0, .tick everything 0 0,
    .tick everything 1 3600000000, .tick everything 0 0]

private theorem ascending_retriedTicks :
    Ascending 0 1 (ticksOf retriedTicks) := by
  have before : Ascending 0 (-1) [] := .idle
  have first : Ascending 0 0 [0] := .next before
  have repeated : Ascending 0 0 [0, 0] := .again first le_rfl
  have second : Ascending 0 1 [0, 0, 1] := .next repeated
  exact .again second (by decide)

private theorem accepted_retriedTicks : AllAccepted retriedTicks := by
  intro accepts slot boundary member request
  simp only [retriedTicks, List.mem_cons, List.not_mem_nil, or_false,
    Action.tick.injEq] at member
  rcases member with same | same | same | same <;>
    rw [same.1, everything]

private theorem slotIn_early : early.slotIn .hourly = 0 := by
  decide +kernel

private theorem slotIn_late : late.slotIn .hourly = 1 := by
  decide +kernel

theorem plan_covered_iff_ordered :
    ∃ planId registered,
      ClientState.new.storePlan .hourly [early, late] =
          .ok (planId, registered) ∧
        ((retriedTicks.foldl (step manual) registered).sentFor
          planId).Perm [(0, early), (1, late)] := by
  obtain ⟨registered, stored, -, -⟩ :=
    storePlan_of_nonempty ClientState.new .hourly
      (List.cons_ne_nil early [late])
  refine ⟨_, registered, stored, ?_⟩
  have slots : [early, late].map (fun request =>
      (request.slotIn .hourly, request)) = [(0, early), (1, late)] := by
    rw [List.map_cons, List.map_cons, List.map_nil, slotIn_early,
      slotIn_late]
  rw [← slots]
  refine (plan_covered_iff manual ClientState.new registered .hourly
    [early, late] (List.cons_ne_nil early [late]) _ stored ?_ retriedTicks
    0 1 ascending_retriedTicks ?_ accepted_retriedTicks).mpr ?_
  · decide +kernel
  · decide +kernel
  · decide +kernel

/-- A plan that lists its later request first loses the earlier one. -/
theorem plan_not_covered_of_late_first :
    ∃ planId registered,
      ClientState.new.storePlan .hourly [late, early] =
          .ok (planId, registered) ∧
        Ascending 0 1 (ticksOf retriedTicks) ∧ AllAccepted retriedTicks ∧
          (∀ request ∈ [late, early],
            0 ≤ request.slotIn .hourly ∧ request.slotIn .hourly ≤ 1) ∧
            ((retriedTicks.foldl (step manual) registered).sentFor
              planId).map Prod.fst = [1] ∧
              ¬ ((retriedTicks.foldl (step manual) registered).sentFor
                planId).Perm [(1, late), (0, early)] := by
  obtain ⟨registered, stored, -, -⟩ :=
    storePlan_of_nonempty ClientState.new .hourly
      (List.cons_ne_nil late [early])
  have sent : ((retriedTicks.foldl (step manual) registered).sentFor
      ClientState.new.store.nextPlanId).map Prod.fst = [1] := by
    cases stored
    decide +kernel
  refine ⟨_, registered, stored, ascending_retriedTicks,
    accepted_retriedTicks, by decide +kernel, sent, ?_⟩
  intro covered
  have length := (covered.map Prod.fst).length_eq
  rw [sent] at length
  cases length

end TwoRequests

end ClientState

end Client

end Carbonshift
