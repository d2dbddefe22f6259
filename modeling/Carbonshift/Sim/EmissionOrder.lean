import Carbonshift.Sim.Generator

/-!
# Emission order

While nobody stops it, the generator emits the requests of every slot once and
in slot order.  It goes by the slot that the quotient of two doubles shows, so
it keeps time exactly if these show no slot early, and the end when it is
there.
-/

namespace Carbonshift

namespace Generator

variable {cfg : RequestGeneratorConfig} {runtime : GeneratorRuntime}
variable {scenario : Option (List (List Request))} {running : Running}

/-! ## Slots -/

theorem slotRange_concat {first last : ℤ} (ordered : first ≤ last + 1) :
    slotRange first (last + 1) = slotRange first last ++ [last + 1] := by
  have count : (last + 1 + 1 - first).toNat = (last + 1 - first).toNat + 1 := by
    omega
  rw [slotRange, slotRange, Int.range, Int.range, count, List.range_succ,
    List.map_append, List.map_singleton, Int.toNat_of_nonneg (by omega)]
  congr 2
  omega

theorem slotRange_of_lt {first last : ℤ} (empty : last < first) :
    slotRange first last = [] := by
  rw [slotRange, Int.range, Int.toNat_of_nonpos (by omega)]
  rfl

/-! ## Readings of the clock -/

/-- The clock has reached the start of a slot. -/
def Reached (cfg : RequestGeneratorConfig) (slot : ℤ) (elapsedMs : ℕ) : Prop :=
  slot * cfg.slotDurationSecs ≤ (elapsedMs : ℚ) / 1000

/-- A reading is at or past the end of the horizon. -/
def AtEnd (cfg : RequestGeneratorConfig) (elapsedMs : ℕ) : Prop :=
  Reached cfg cfg.totalSlots elapsedMs

/-- The reading is the first one that shows the slot, or a later one. -/
def FirstShows (cfg : RequestGeneratorConfig) (readings : List ℕ) (slot : ℤ)
    (elapsedMs : ℕ) : Prop :=
  ∃ earlier later, readings = earlier ++ elapsedMs :: later ∧
    (∀ earlierMs ∈ earlier, rawSlot cfg earlierMs < slot) ∧
      slot ≤ rawSlot cfg elapsedMs

/-- Two ways to split a list at an entry. -/
private theorem split_cases {earlier later first rest : List ℕ} {left right : ℕ}
    (same : earlier ++ left :: later = first ++ right :: rest) :
    left ∈ first ∨ right ∈ earlier ∨
      earlier = first ∧ left = right ∧ later = rest := by
  rcases List.append_eq_append_iff.mp same with
    ⟨between, rfl, behind⟩ | ⟨between, rfl, behind⟩
  · cases between with
    | nil =>
        obtain ⟨rfl, rfl⟩ := List.cons.inj behind
        exact Or.inr (Or.inr ⟨(List.append_nil _).symm, rfl, rfl⟩)
    | cons entry between =>
        obtain ⟨rfl, -⟩ := List.cons.inj behind
        exact Or.inl (List.mem_append_right _ List.mem_cons_self)
  · cases between with
    | nil =>
        obtain ⟨rfl, rfl⟩ := List.cons.inj behind
        exact Or.inr (Or.inr ⟨List.append_nil _, rfl, rfl⟩)
    | cons entry between =>
        obtain ⟨rfl, -⟩ := List.cons.inj behind
        exact Or.inr (Or.inl (List.mem_append_right _ List.mem_cons_self))

namespace FirstShows

variable {readings : List ℕ} {slot : ℤ} {elapsedMs : ℕ}

theorem mem (shows_ : FirstShows cfg readings slot elapsedMs) :
    elapsedMs ∈ readings := by
  obtain ⟨earlier, later, rfl, _⟩ := shows_
  exact List.mem_append_right _ List.mem_cons_self

theorem append (shows_ : FirstShows cfg readings slot elapsedMs)
    (more : List ℕ) : FirstShows cfg (readings ++ more) slot elapsedMs := by
  obtain ⟨earlier, later, rfl, before, shown⟩ := shows_
  exact ⟨earlier, later ++ more, by simp, before, shown⟩

/-- There is one first reading. -/
theorem unique (shows_ : FirstShows cfg readings slot elapsedMs)
    {otherMs : ℕ} (other : FirstShows cfg readings slot otherMs) :
    elapsedMs = otherMs := by
  obtain ⟨earlier, later, readings_eq, before, shown⟩ := shows_
  obtain ⟨first, rest, other_eq, beforeOther, shownOther⟩ := other
  rcases split_cases (readings_eq.symm.trans other_eq) with
    inside | inside | ⟨_, same, _⟩
  · exact absurd shown (not_le.mpr (beforeOther elapsedMs inside))
  · exact absurd shownOther (not_le.mpr (before otherMs inside))
  · exact same

end FirstShows

/-! ## Chunks -/

theorem flatten_chunksAfter {α : Type} (size : ℕ) (begun items : List α) :
    (chunksAfter size begun items).flatten = begun ++ items := by
  induction items generalizing begun with
  | nil =>
      rw [chunksAfter]
      split
      · rename_i empty
        rw [List.isEmpty_iff.mp empty]
        rfl
      · simp
  | cons item rest inductionHypothesis =>
      rw [chunksAfter]
      split
      · rw [List.flatten_cons, inductionHypothesis, List.nil_append,
          List.append_assoc, List.singleton_append]
      · rw [inductionHypothesis, List.append_assoc, List.singleton_append]

theorem flatten_chunks {α : Type} (size : ℕ) (items : List α) :
    (chunks size items).flatten = items :=
  flatten_chunksAfter size [] items

/-- There are no empty pieces only. -/
theorem flatten_chunks_ne_nil {α : Type} {size : ℕ} {items : List α}
    (some_ : chunks size items ≠ []) : (chunks size items).flatten ≠ [] := by
  rw [flatten_chunks]
  rintro rfl
  exact some_ rfl

/-! ## One slot -/

theorem emitPaced_of_unstopped (unstopped : ∀ look, running look = true)
    (elapsedMs : ℕ) (slot : ℤ) (pieces : List (List Request))
    (state : GeneratorState) :
    (emitPaced running elapsedMs slot pieces state).events =
        state.events ++ pieces.map (.added elapsedMs slot) ∧
      (emitPaced running elapsedMs slot pieces state).counter =
        state.counter := by
  induction pieces generalizing state with
  | nil => exact ⟨(List.append_nil _).symm, rfl⟩
  | cons chunk rest inductionHypothesis =>
      rw [emitPaced, if_pos (unstopped _), List.map_cons]
      obtain ⟨events_eq, counter_eq⟩ := inductionHypothesis
        (GeneratorState.emit { state with looks := state.looks + 1 }
          (.added elapsedMs slot chunk))
      refine ⟨?_, counter_eq⟩
      rw [events_eq, GeneratorState.emit, List.append_assoc,
        List.singleton_append]

theorem emitBurst_events (elapsedMs : ℕ) (slot : ℤ)
    (pieces : List (List Request)) (state : GeneratorState) :
    (emitBurst elapsedMs slot pieces state).events =
        state.events ++ pieces.map (.added elapsedMs slot) ∧
      (emitBurst elapsedMs slot pieces state).counter = state.counter := by
  induction pieces generalizing state with
  | nil => exact ⟨(List.append_nil _).symm, rfl⟩
  | cons chunk rest inductionHypothesis =>
      obtain ⟨events_eq, counter_eq⟩ := inductionHypothesis
        (state.emit (.added elapsedMs slot chunk))
      refine ⟨?_, counter_eq⟩
      rw [emitBurst, List.foldl_cons, ← emitBurst, events_eq,
        GeneratorState.emit, List.append_assoc, List.map_cons,
        List.singleton_append]

/-- A slot is emitted in pieces and then marked as processed. -/
theorem processSlot_events (unstopped : ∀ look, running look = true)
    (elapsedMs : ℕ) (state : GeneratorState) (slot : ℤ) :
    ∃ pieces : List (List Request),
      pieces.flatten =
          byArrivalTime (fetchRequests cfg runtime scenario slot
            state.counter).1 ∧
        (pieces ≠ [] → pieces.flatten ≠ []) ∧
        (processSlot cfg runtime scenario running elapsedMs state slot).events =
          state.events ++
            (pieces.map (.added elapsedMs slot) ++ [.processed slot]) ∧
        (processSlot cfg runtime scenario running elapsedMs state
            slot).counter =
          (fetchRequests cfg runtime scenario slot state.counter).2 := by
  unfold processSlot
  dsimp only
  split
  · refine ⟨_, flatten_chunks (max cfg.realtimeChunkSize 1) _,
      flatten_chunks_ne_nil, ?_⟩
    obtain ⟨events_eq, counter_eq⟩ := emitPaced_of_unstopped unstopped elapsedMs
      slot (chunks (max cfg.realtimeChunkSize 1)
        (byArrivalTime (fetchRequests cfg runtime scenario slot
          state.counter).1))
      { state with
        counter := (fetchRequests cfg runtime scenario slot state.counter).2 }
    refine ⟨?_, counter_eq⟩
    rw [GeneratorState.emit, events_eq, List.append_assoc]
  · refine ⟨_, flatten_chunks 50 _, flatten_chunks_ne_nil, ?_⟩
    obtain ⟨events_eq, counter_eq⟩ := emitBurst_events elapsedMs
      slot (chunks 50
        (byArrivalTime (fetchRequests cfg runtime scenario slot
          state.counter).1))
      { state with
        counter := (fetchRequests cfg runtime scenario slot state.counter).2 }
    refine ⟨?_, counter_eq⟩
    rw [GeneratorState.emit, events_eq, List.append_assoc]

/-! ## All slots so far -/

/-- The next identifier before a slot. -/
def counterBefore (cfg : RequestGeneratorConfig) (runtime : GeneratorRuntime)
    (scenario : Option (List (List Request))) : ℕ → ℕ
  | 0 => 0
  | slot + 1 =>
      (fetchRequests cfg runtime scenario slot
        (counterBefore cfg runtime scenario slot)).2

/-- The requests of a slot, in the order of their arrival. -/
def slotRequests (cfg : RequestGeneratorConfig) (runtime : GeneratorRuntime)
    (scenario : Option (List (List Request))) (slot : ℤ) : List Request :=
  byArrivalTime (fetchRequests cfg runtime scenario slot
    (counterBefore cfg runtime scenario slot.toNat)).1

/-- A trace is replayed slot by slot. -/
theorem slotRequests_of_scenario (bySlot : List (List Request)) (slot : ℤ) :
    slotRequests cfg runtime (some bySlot) slot =
      byArrivalTime (bySlot.getD slot.toNat []) := rfl

/-- The requests that an event adds, with their slot. -/
def GeneratorEvent.emitted : GeneratorEvent → List (ℤ × Request)
  | .added _ slot chunk => chunk.map fun request => (slot, request)
  | .processed _ => []

/-- The slot that an event marks as processed. -/
def GeneratorEvent.processedSlot : GeneratorEvent → Option ℤ
  | .added _ _ _ => none
  | .processed slot => some slot

/-- The requests of the slots up to the last one, with their slots. -/
def requestsThrough (cfg : RequestGeneratorConfig) (runtime : GeneratorRuntime)
    (scenario : Option (List (List Request))) (last : ℤ) :
    List (ℤ × Request) :=
  (slotRange 0 last).flatMap fun slot =>
    (slotRequests cfg runtime scenario slot).map fun request => (slot, request)

/-- The slots up to one have been emitted, each once and in order. -/
structure EmittedThrough (cfg : RequestGeneratorConfig)
    (runtime : GeneratorRuntime) (scenario : Option (List (List Request)))
    (readings : List ℕ) (last : ℤ) (state : GeneratorState) : Prop where
  last_ge : -1 ≤ last
  last_lt : last < 2 ^ 31
  counter_eq : state.counter =
    counterBefore cfg runtime scenario (last + 1).toNat
  emitted_eq : state.events.flatMap GeneratorEvent.emitted =
    requestsThrough cfg runtime scenario last
  processed_eq : state.events.filterMap GeneratorEvent.processedSlot =
    slotRange 0 last
  /-- The requests of a slot are added when a reading first shows it. -/
  entered : ∀ elapsedMs slot chunk,
    GeneratorEvent.added elapsedMs slot chunk ∈ state.events →
      0 ≤ slot ∧ slot < cfg.totalSlots ∧
        FirstShows cfg readings slot elapsedMs ∧
          slotRequests cfg runtime scenario slot ≠ []

private theorem flatMap_emitted_added (elapsedMs : ℕ) (slot : ℤ)
    (pieces : List (List Request)) :
    (pieces.map (GeneratorEvent.added elapsedMs slot)).flatMap
        GeneratorEvent.emitted =
      pieces.flatten.map fun request => (slot, request) := by
  induction pieces with
  | nil => rfl
  | cons chunk rest inductionHypothesis =>
      rw [List.map_cons, List.flatMap_cons, inductionHypothesis,
        List.flatten_cons, List.map_append, GeneratorEvent.emitted]

private theorem filterMap_processedSlot_added (elapsedMs : ℕ) (slot : ℤ)
    (pieces : List (List Request)) :
    (pieces.map (GeneratorEvent.added elapsedMs slot)).filterMap
        GeneratorEvent.processedSlot = [] := by
  rw [List.filterMap_map, List.filterMap_eq_nil_iff]
  exact fun chunk _ => rfl

namespace EmittedThrough

variable {readings : List ℕ} {last : ℤ} {state : GeneratorState}

theorem new (cfg : RequestGeneratorConfig) (runtime : GeneratorRuntime)
    (scenario : Option (List (List Request))) :
    EmittedThrough cfg runtime scenario [] (-1) GeneratorState.new :=
  ⟨le_rfl, by norm_num, rfl, rfl, rfl, fun _ _ _ => nofun⟩

/-- The next slot follows. -/
theorem processSlot
    (emitted : EmittedThrough cfg runtime scenario readings last state)
    (unstopped : ∀ look, running look = true) {elapsedMs : ℕ}
    (inside : last + 1 < cfg.totalSlots)
    (shows_ : FirstShows cfg readings (last + 1) elapsedMs) :
    EmittedThrough cfg runtime scenario readings (last + 1)
      (processSlot cfg runtime scenario running elapsedMs state
        (last + 1)) := by
  have nonneg := emitted.last_ge
  have narrow := cfg.totalSlots_lt
  obtain ⟨pieces, whole, someRequest, events_eq, counter_eq⟩ :=
    @processSlot_events cfg runtime scenario running unstopped elapsedMs state
      (last + 1)
  rw [emitted.counter_eq] at whole counter_eq
  refine ⟨by omega, by omega, ?_, ?_, ?_, ?_⟩
  · have next : (last + 1 + 1).toNat = (last + 1).toNat + 1 := by omega
    have cast : (((last + 1).toNat : ℕ) : ℤ) = last + 1 :=
      Int.toNat_of_nonneg (by omega)
    rw [counter_eq, next, counterBefore, cast]
  · rw [events_eq, List.flatMap_append, List.flatMap_append,
      flatMap_emitted_added, whole, emitted.emitted_eq, requestsThrough,
      requestsThrough, slotRange_concat (by omega), List.flatMap_append,
      List.flatMap_singleton, List.flatMap_singleton, GeneratorEvent.emitted,
      List.append_nil, slotRequests]
  · rw [events_eq, List.filterMap_append, List.filterMap_append,
      filterMap_processedSlot_added, emitted.processed_eq,
      slotRange_concat (by omega), List.nil_append]
    rfl
  · intro readingMs slot chunk member
    rw [events_eq] at member
    rcases List.mem_append.mp member with earlier | later
    · exact emitted.entered readingMs slot chunk earlier
    · rcases List.mem_append.mp later with added | marked
      · obtain ⟨piece, listed, same⟩ := List.mem_map.mp added
        cases same
        refine ⟨by omega, inside, shows_, ?_⟩
        rw [slotRequests, ← whole]
        exact someRequest (List.ne_nil_of_mem listed)
      · cases List.mem_singleton.mp marked

/-- All slots up to a later one follow. -/
theorem processSlots
    (emitted : EmittedThrough cfg runtime scenario readings last state)
    (unstopped : ∀ look, running look = true) {elapsedMs : ℕ} {target : ℤ}
    (ahead : last ≤ target) (inside : target < cfg.totalSlots)
    (shows_ : ∀ slot, last < slot → slot ≤ target →
      FirstShows cfg readings slot elapsedMs) :
    EmittedThrough cfg runtime scenario readings target
      ((slotRange (last + 1) target).foldl
        (Generator.processSlot cfg runtime scenario running elapsedMs)
        state) := by
  induction target, ahead using Int.leInduction with
  | base =>
      rw [slotRange_of_lt (by omega)]
      exact emitted
  | succ target ahead inductionHypothesis =>
      rw [slotRange_concat (by omega), List.foldl_append]
      have through := inductionHypothesis (by omega) fun slot after before =>
        shows_ slot after (by omega)
      exact through.processSlot unstopped inside
        (shows_ (target + 1) (by omega) le_rfl)

/-- Looking whether to go on emits nothing. -/
theorem looked
    (emitted : EmittedThrough cfg runtime scenario readings last state) :
    EmittedThrough cfg runtime scenario readings last
      { state with looks := state.looks + 1 } :=
  ⟨emitted.last_ge, emitted.last_lt, emitted.counter_eq, emitted.emitted_eq,
    emitted.processed_eq, emitted.entered⟩

/-- More readings do no harm. -/
theorem append
    (emitted : EmittedThrough cfg runtime scenario readings last state)
    (more : List ℕ) :
    EmittedThrough cfg runtime scenario (readings ++ more) last state := by
  refine ⟨emitted.last_ge, emitted.last_lt, emitted.counter_eq,
    emitted.emitted_eq, emitted.processed_eq, ?_⟩
  intro readingMs slot chunk member
  obtain ⟨nonneg, inside, shows_, someRequest⟩ :=
    emitted.entered readingMs slot chunk member
  exact ⟨nonneg, inside, shows_.append more, someRequest⟩

/-- A reading shows the slots that no earlier one has shown. -/
theorem catchUp
    (emitted : EmittedThrough cfg runtime scenario readings state.lastSlot
      state)
    (unstopped : ∀ look, running look = true)
    (shown : ∀ earlierMs ∈ readings, rawSlot cfg earlierMs ≤ state.lastSlot)
    (elapsedMs : ℕ) :
    (Generator.catchUp cfg runtime scenario running elapsedMs state).lastSlot =
        max state.lastSlot (currentSlotOf cfg elapsedMs) ∧
      EmittedThrough cfg runtime scenario (readings ++ [elapsedMs])
        (max state.lastSlot (currentSlotOf cfg elapsedMs))
        (Generator.catchUp cfg runtime scenario running elapsedMs state) := by
  have reached : currentSlotOf cfg elapsedMs ≤ rawSlot cfg elapsedMs :=
    min_le_left _ _
  have inside : currentSlotOf cfg elapsedMs ≤ cfg.totalSlots - 1 :=
    min_le_right _ _
  unfold Generator.catchUp
  dsimp only
  by_cases behind : state.lastSlot < currentSlotOf cfg elapsedMs
  · rw [if_pos behind, max_eq_right behind.le]
    have through := (emitted.append [elapsedMs]).processSlots unstopped
      behind.le (by omega) fun slot after before =>
        ⟨readings, [], rfl, fun earlierMs member =>
          lt_of_le_of_lt (shown earlierMs member) after, before.trans reached⟩
    exact ⟨rfl, through.last_ge, through.last_lt, through.counter_eq,
      through.emitted_eq, through.processed_eq, through.entered⟩
  · rw [if_neg behind, max_eq_left (not_lt.mp behind)]
    exact ⟨rfl, emitted.append [elapsedMs]⟩

end EmittedThrough

/-! ## The whole loop -/

/-- The loop ends at the first reading that is at the end, by some way of
telling it, and has emitted every slot by then.  Until then it is not behind
what the readings show. -/
inductive EndsAtHorizon (cfg : RequestGeneratorConfig) (atEnd : ℕ → Prop)
    (readings : List ℕ) (lastSlot : ℤ) : LoopEnd → Prop where
  | waiting
      (before : ∀ elapsedMs ∈ readings, ¬ atEnd elapsedMs)
      (caughtUp : ∀ elapsedMs ∈ readings,
        rawSlot cfg elapsedMs ≤ lastSlot) :
      EndsAtHorizon cfg atEnd readings lastSlot .waiting
  | finished {earlier unread : List ℕ} {elapsedMs : ℕ}
      (readings_eq : readings = earlier ++ elapsedMs :: unread)
      (before : ∀ earlierMs ∈ earlier, ¬ atEnd earlierMs)
      (ends : atEnd elapsedMs)
      (everySlot : lastSlot = max (-1) (cfg.totalSlots - 1)) :
      EndsAtHorizon cfg atEnd readings lastSlot (.finished unread)

/-- The reading shows the end of the horizon. -/
def ShowsEnd (cfg : RequestGeneratorConfig) (elapsedMs : ℕ) : Prop :=
  cfg.totalSlots ≤ rawSlot cfg elapsedMs

theorem loop_of_emitted (unstopped : ∀ look, running look = true)
    (remaining seen : List ℕ) (state : GeneratorState)
    (emitted : EmittedThrough cfg runtime scenario seen state.lastSlot state)
    (behind : state.lastSlot < max 0 cfg.totalSlots)
    (shown : ∀ elapsedMs ∈ seen, rawSlot cfg elapsedMs ≤ state.lastSlot) :
    EmittedThrough cfg runtime scenario (seen ++ remaining)
        (generatorLoop cfg runtime scenario running remaining
          state).1.lastSlot
        (generatorLoop cfg runtime scenario running remaining state).1 ∧
      EndsAtHorizon cfg (ShowsEnd cfg) remaining
        (generatorLoop cfg runtime scenario running remaining
          state).1.lastSlot
        (generatorLoop cfg runtime scenario running remaining state).2 ∧
      state.lastSlot ≤
        (generatorLoop cfg runtime scenario running remaining
          state).1.lastSlot := by
  induction remaining generalizing seen state with
  | nil =>
      rw [generatorLoop, List.append_nil]
      exact ⟨emitted, .waiting nofun nofun, le_rfl⟩
  | cons elapsedMs rest inductionHypothesis =>
      rw [generatorLoop, if_pos (unstopped _)]
      dsimp only
      obtain ⟨last_eq, through⟩ :=
        @EmittedThrough.catchUp cfg runtime scenario running seen
          { state with looks := state.looks + 1 } emitted.looked unstopped
          shown elapsedMs
      dsimp only at last_eq through
      have lower := emitted.last_ge
      have clamped : currentSlotOf cfg elapsedMs ≤ cfg.totalSlots - 1 :=
        min_le_right _ _
      have splitEq : seen ++ elapsedMs :: rest =
          seen ++ [elapsedMs] ++ rest := by
        rw [List.append_assoc, List.singleton_append]
      rw [← last_eq] at through
      by_cases ends : cfg.totalSlots ≤ rawSlot cfg elapsedMs
      · rw [if_pos ends]
        have current : currentSlotOf cfg elapsedMs = cfg.totalSlots - 1 :=
          min_eq_right (by omega)
        have ending : EndsAtHorizon cfg (ShowsEnd cfg) (elapsedMs :: rest)
            (max (-1) (cfg.totalSlots - 1)) (.finished rest) :=
          .finished (List.nil_append _).symm nofun ends rfl
        have final : (catchUp cfg runtime scenario running elapsedMs
            { state with looks := state.looks + 1 }).lastSlot =
              max (-1) (cfg.totalSlots - 1) := by
          rw [last_eq, current]
          omega
        refine ⟨?_, ?_, ?_⟩
        · rw [splitEq]
          exact through.append rest
        · rw [final]
          exact ending
        · rw [last_eq]
          exact le_max_left _ _
      · rw [if_neg ends]
        have current : currentSlotOf cfg elapsedMs = rawSlot cfg elapsedMs :=
          min_eq_left (by omega)
        have shownNow : ∀ earlierMs ∈ seen ++ [elapsedMs],
            rawSlot cfg earlierMs ≤ (catchUp cfg runtime scenario running
              elapsedMs { state with looks := state.looks + 1 }).lastSlot := by
          intro earlierMs member
          rw [last_eq]
          rcases List.mem_append.mp member with earlier | last
          · exact (shown earlierMs earlier).trans (le_max_left _ _)
          · rw [List.mem_singleton.mp last, current]
            exact le_max_right _ _
        obtain ⟨after, ending, grown⟩ := inductionHypothesis
          (seen ++ [elapsedMs]) _ through (by rw [last_eq]; omega) shownNow
        rw [splitEq]
        rw [last_eq, current] at grown
        refine ⟨after, ?_, (le_max_left _ _).trans grown⟩
        generalize (generatorLoop cfg runtime scenario running rest _).2 =
          outcome at ending ⊢
        cases ending with
        | waiting before caughtUp =>
            exact .waiting (List.forall_mem_cons.mpr ⟨ends, before⟩)
              (List.forall_mem_cons.mpr
                ⟨(le_max_right _ _).trans grown, caughtUp⟩)
        | @finished earlier unread reading readings_eq before atEnd everySlot =>
            have split : elapsedMs :: rest =
                elapsedMs :: earlier ++ reading :: unread := by
              rw [readings_eq, List.cons_append]
            exact .finished split (List.forall_mem_cons.mpr ⟨ends, before⟩)
              atEnd everySlot

/-- What the generator has done after the readings. -/
structure EmitsInOrder (cfg : RequestGeneratorConfig)
    (runtime : GeneratorRuntime) (scenario : Option (List (List Request)))
    (readings : List ℕ) (final : GeneratorState) (ending : LoopEnd) :
    Prop where
  /-- Every slot once, in slot order. -/
  emitted_eq : final.events.flatMap GeneratorEvent.emitted =
    requestsThrough cfg runtime scenario final.lastSlot
  processed_eq : final.events.filterMap GeneratorEvent.processedSlot =
    slotRange 0 final.lastSlot
  /-- No request before its slot has started. -/
  timely : ∀ elapsedMs slot chunk,
    GeneratorEvent.added elapsedMs slot chunk ∈ final.events →
      elapsedMs ∈ readings ∧ Reached cfg slot elapsedMs
  ends : EndsAtHorizon cfg (AtEnd cfg) readings final.lastSlot ending

/-- The readings show no slot with requests before its time, and the end
exactly when it is there. -/
structure KeepsTime (cfg : RequestGeneratorConfig)
    (runtime : GeneratorRuntime) (scenario : Option (List (List Request)))
    (readings : List ℕ) : Prop where
  starts : ∀ slot elapsedMs, 0 ≤ slot → slot < cfg.totalSlots →
    FirstShows cfg readings slot elapsedMs →
      slotRequests cfg runtime scenario slot ≠ [] →
        Reached cfg slot elapsedMs
  ends : ∀ earlier elapsedMs later,
    readings = earlier ++ elapsedMs :: later →
      (∀ earlierMs ∈ earlier, ¬ ShowsEnd cfg earlierMs) →
        (ShowsEnd cfg elapsedMs ↔ AtEnd cfg elapsedMs)

/-- The requests of a slot have been added when a reading first showed it. -/
theorem EmittedThrough.exists_added {readings : List ℕ} {last : ℤ}
    {state : GeneratorState}
    (emitted : EmittedThrough cfg runtime scenario readings last state)
    {slot : ℤ} {elapsedMs : ℕ} (nonneg : 0 ≤ slot) (through : slot ≤ last)
    (shows_ : FirstShows cfg readings slot elapsedMs)
    (someRequest : slotRequests cfg runtime scenario slot ≠ []) :
    ∃ chunk, GeneratorEvent.added elapsedMs slot chunk ∈ state.events := by
  obtain ⟨request, listed⟩ := List.exists_mem_of_ne_nil _ someRequest
  have wanted : (slot, request) ∈
      requestsThrough cfg runtime scenario last :=
    List.mem_flatMap.mpr ⟨slot, mem_slotRange.mpr ⟨nonneg, through⟩,
      List.mem_map_of_mem listed⟩
  rw [← emitted.emitted_eq] at wanted
  obtain ⟨event, happened, adds⟩ := List.mem_flatMap.mp wanted
  cases event with
  | processed other => cases adds
  | added readingMs other chunk =>
      obtain ⟨_, _, same⟩ := List.mem_map.mp adds
      cases same
      obtain ⟨_, _, first, _⟩ := emitted.entered readingMs slot chunk happened
      rw [shows_.unique first]
      exact ⟨chunk, happened⟩

/-- Two ways of telling the end agree on the loop exactly if they agree at
every reading up to it. -/
private theorem endsAtHorizon_iff {readings : List ℕ} {lastSlot : ℤ}
    {ending : LoopEnd} {shown atEnd : ℕ → Prop}
    (ends : EndsAtHorizon cfg shown readings lastSlot ending) :
    EndsAtHorizon cfg atEnd readings lastSlot ending ↔
      ∀ earlier elapsedMs later, readings = earlier ++ elapsedMs :: later →
        (∀ earlierMs ∈ earlier, ¬ shown earlierMs) →
          (shown elapsedMs ↔ atEnd elapsedMs) := by
  cases ends with
  | waiting unshown caughtUp =>
      constructor
      · rintro (⟨before, _⟩ | _) earlier elapsedMs later rfl _
        have member : elapsedMs ∈ earlier ++ elapsedMs :: later :=
          List.mem_append_right _ List.mem_cons_self
        exact iff_of_false (unshown elapsedMs member) (before elapsedMs member)
      · intro agree
        refine .waiting (fun elapsedMs member atEnd_ => ?_) caughtUp
        obtain ⟨earlier, later, readings_eq⟩ := List.append_of_mem member
        refine unshown elapsedMs member
          ((agree earlier elapsedMs later readings_eq ?_).mpr atEnd_)
        intro earlierMs inside
        refine unshown earlierMs ?_
        rw [readings_eq]
        exact List.mem_append_left _ inside
  | @finished first unread shownMs readings_eq unshown shows_ everySlot =>
      constructor
      · intro ending
        cases ending with
        | @finished other _ endMs other_eq before atEnd_ _ =>
            rw [readings_eq] at other_eq
            have same := List.append_inj' other_eq (by simp)
            obtain ⟨rfl, tail⟩ := same
            obtain ⟨rfl, -⟩ := List.cons.inj tail
            intro earlier elapsedMs later split_eq earlierUnshown
            rw [readings_eq] at split_eq
            rcases split_cases split_eq with inside | inside | ⟨_, same, _⟩
            · exact absurd shows_ (earlierUnshown _ inside)
            · exact iff_of_false (unshown _ inside) (before _ inside)
            · rw [← same]
              exact iff_of_true shows_ atEnd_
      · intro agree
        refine .finished readings_eq (fun earlierMs member atEnd_ => ?_)
          ((agree first shownMs unread readings_eq unshown).mp shows_)
          everySlot
        obtain ⟨front, back, first_eq⟩ := List.append_of_mem member
        refine unshown earlierMs member ((agree front earlierMs
          (back ++ shownMs :: unread) ?_ ?_).mpr atEnd_)
        · rw [readings_eq, first_eq, List.append_assoc, List.cons_append]
        · intro frontMs inside
          refine unshown frontMs ?_
          rw [first_eq]
          exact List.mem_append_left _ inside

/-- While nobody stops it, the generator emits every slot in order and in time
exactly if the readings keep time. -/
theorem generator_emits_in_order_iff
    (cfg : RequestGeneratorConfig) (runtime : GeneratorRuntime)
    (scenario : Option (List (List Request))) (running : Running)
    (unstopped : ∀ look, running look = true) (readings : List ℕ) :
    EmitsInOrder cfg runtime scenario readings
        (generatorLoop cfg runtime scenario running readings .new).1
        (generatorLoop cfg runtime scenario running readings .new).2 ↔
      KeepsTime cfg runtime scenario readings := by
  have initially : GeneratorState.new.lastSlot < max 0 cfg.totalSlots :=
    lt_max_of_lt_left (by decide)
  obtain ⟨emitted, ends, _⟩ := loop_of_emitted unstopped readings []
    GeneratorState.new (.new cfg runtime scenario) initially nofun
  rw [List.nil_append] at emitted
  constructor
  · intro inOrder
    refine ⟨fun slot elapsedMs nonneg inside shows_ someRequest => ?_,
      (endsAtHorizon_iff ends).mp inOrder.ends⟩
    have through : slot ≤ (generatorLoop cfg runtime scenario running readings
        .new).1.lastSlot := by
      obtain ⟨_, _, _, _, shown⟩ := id shows_
      generalize (generatorLoop cfg runtime scenario running readings
        .new).2 = ending at ends
      cases ends with
      | waiting _ caughtUp => exact shown.trans (caughtUp _ shows_.mem)
      | finished _ _ _ everySlot =>
          rw [everySlot]
          exact le_max_of_le_right (by omega)
    obtain ⟨chunk, added⟩ :=
      emitted.exists_added nonneg through shows_ someRequest
    exact (inOrder.timely elapsedMs slot chunk added).2
  · intro keeps
    refine ⟨emitted.emitted_eq, emitted.processed_eq, ?_,
      (endsAtHorizon_iff ends).mpr keeps.ends⟩
    intro elapsedMs slot chunk added
    obtain ⟨nonneg, inside, shows_, someRequest⟩ :=
      emitted.entered elapsedMs slot chunk added
    exact ⟨shows_.mem,
      keeps.starts slot elapsedMs nonneg inside shows_ someRequest⟩

/-- Readings that show what has begun keep time. -/
theorem keepsTime_of_exact {readings : List ℕ}
    (exact_ : ∀ elapsedMs ∈ readings, ∀ slot, slot ≤ cfg.totalSlots →
      (slot ≤ rawSlot cfg elapsedMs ↔ Reached cfg slot elapsedMs)) :
    KeepsTime cfg runtime scenario readings where
  starts slot elapsedMs _ inside shows_ _ := by
    obtain ⟨_, _, _, _, shown⟩ := id shows_
    exact (exact_ elapsedMs shows_.mem slot inside.le).mp shown
  ends earlier elapsedMs later readings_eq _ := by
    refine exact_ elapsedMs ?_ cfg.totalSlots le_rfl
    rw [readings_eq]
    exact List.mem_append_right _ List.mem_cons_self

/-- Slots of whole eighths of a second keep time. -/
theorem keepsTime_of_eighths {eighths : ℕ}
    (duration : cfg.slotDurationSecs = eighths / 8) {readings : List ℕ}
    (small : ∀ elapsedMs ∈ readings, elapsedMs + 125 * eighths < 2 ^ 51) :
    KeepsTime cfg runtime scenario readings := by
  have positive := cfg.slotDurationSecs_pos
  have narrow := cfg.totalSlots_lt
  have someTime : 0 < eighths := by
    rw [duration] at positive
    have scaled : (0 : ℚ) < eighths := by linarith
    exact_mod_cast scaled
  refine keepsTime_of_exact fun elapsedMs member slot inside => ?_
  have length : (0 : ℚ) < 125 * eighths := by positivity
  have divided : (((elapsedMs / (125 * eighths) : ℕ) : ℤ)) =
      (elapsedMs : ℤ) / (125 * eighths : ℤ) := by
    push_cast
    rfl
  rw [rawSlot, duration, clockSlot_eighths someTime (small elapsedMs member),
    le_min_iff, and_iff_left (by omega), divided,
    Int.le_ediv_iff_mul_le (by omega), Reached, duration]
  have scaled : ((slot * (125 * eighths : ℤ) : ℤ) : ℚ) ≤ (elapsedMs : ℤ) ↔
      slot * (eighths / 8 : ℚ) ≤ (elapsedMs : ℚ) / 1000 := by
    push_cast
    constructor <;> intro <;> linarith
  rw [← scaled]
  exact Int.cast_le.symm

/-! ## A jump of the clock -/

/-- Three slots of ten seconds, replayed in real time. -/
def threeSlots : RequestGeneratorConfig where
  slotDurationSecs := effectiveSlotDurationSecs 10 1
  slotDurationSecs_pos := effectiveSlotDurationSecs_pos 10 1
  totalSlots := 3
  totalSlots_lt := by norm_num
  requestsPerSlot := 2
  requestRateStdFactor := 1
  deadlineMinSlack := 1
  deadlineMaxSlack := 2
  skipEmptySlots := false
  realtimeChunkSize := 1
  prehistoryRandomSeed := 7

/-- A clock that stands still; nothing is drawn in a replay. -/
def replaying : GeneratorRuntime where
  sample _ _ _ := 1
  now _ := 0

/-- Two requests out of order, none, and one. -/
def shortTrace : List (List Request) :=
  [[.new 4 1 0 2, .new 3 2 0 1], [], [.new 21 3 2 2]]

/-- Slots of ten seconds keep time, though the clock jumps over one of them and
past the end. -/
theorem jumping_clock_emits_in_order :
    EmitsInOrder threeSlots replaying (some shortTrace) [0, 26000, 31000, 50000]
        (generatorLoop threeSlots replaying (some shortTrace) (fun _ => true)
          [0, 26000, 31000, 50000] .new).1
        (.finished [50000]) ∧
      (generatorLoop threeSlots replaying (some shortTrace) (fun _ => true)
          [0, 26000, 31000, 50000] .new).1.events.flatMap
            (fun event => event.emitted.map fun entry =>
              (entry.1, entry.2.id)) =
        [(0, 2), (0, 1), (2, 3)] := by
  have ended : (generatorLoop threeSlots replaying (some shortTrace)
      (fun _ => true) [0, 26000, 31000, 50000] .new).2 =
        .finished [50000] := by
    decide +kernel
  refine ⟨?_, by decide +kernel⟩
  have eighths : threeSlots.slotDurationSecs = ((80 : ℕ) : ℚ) / 8 := by
    decide +kernel
  rw [← ended]
  exact (generator_emits_in_order_iff threeSlots replaying (some shortTrace)
    (fun _ => true) (fun _ => rfl) [0, 26000, 31000, 50000]).mpr
      (keepsTime_of_eighths eighths (by decide))

/-! ## A quotient that is cut short -/

/-- Three slots of a tenth of a second. -/
def tenths : RequestGeneratorConfig :=
  { threeSlots with
    slotDurationSecs := effectiveSlotDurationSecs (1 / 10) 1
    slotDurationSecs_pos := effectiveSlotDurationSecs_pos (1 / 10) 1 }

/-- At the end of the horizon the double quotient is below three, so the loop
goes on. -/
theorem tenths_miss_the_end :
    AtEnd tenths 300 ∧ rawSlot tenths 300 = 2 ∧
      (generatorLoop tenths replaying (some shortTrace) (fun _ => true)
          [0, 150, 300] .new).2 = .waiting ∧
        ¬ EmitsInOrder tenths replaying (some shortTrace) [0, 150, 300]
          (generatorLoop tenths replaying (some shortTrace) (fun _ => true)
            [0, 150, 300] .new).1
          (generatorLoop tenths replaying (some shortTrace) (fun _ => true)
            [0, 150, 300] .new).2 := by
  have atEnd : AtEnd tenths 300 := by
    unfold AtEnd Reached
    decide +kernel
  have waits : (generatorLoop tenths replaying (some shortTrace)
      (fun _ => true) [0, 150, 300] .new).2 = .waiting := by
    decide +kernel
  refine ⟨atEnd, by decide +kernel, waits, fun inOrder => ?_⟩
  have ends := inOrder.ends
  rw [waits] at ends
  cases ends with
  | waiting before _ => exact before 300 (by decide) atEnd

end Generator

end Carbonshift
