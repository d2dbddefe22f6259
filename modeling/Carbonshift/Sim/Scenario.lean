import Carbonshift.Sim.EmissionOrder
import Mathlib.Data.List.GetD

/-!
# Scenarios

A scenario is a list of requests generated in advance.  Grouped by their
arrival, they are what the generator replays; a replay that comes to its end
has added every request of the scenario, each once.
-/

namespace Carbonshift

/-! ## The loader -/

/-- A request of a scenario file. -/
structure ScenarioRequest where
  requestId : ℕ
  arrivalSlot : ℤ
  deadlineSlot : ℤ

/-- A request starts to wait when the scenario is grouped. -/
def ScenarioRequest.toRequest (now : ℕ → ℚ) (request : ScenarioRequest) :
    Request :=
  .new (now request.requestId) request.requestId request.arrivalSlot
    request.deadlineSlot

structure Scenario where
  /-- The number of slots in the metadata. -/
  totalSlots : ℤ
  carbonForecast : List ℚ
  requests : List ScenarioRequest

namespace Scenario

/-- The slot of the table for an arrival.  A negative slot is a large index. -/
def slotIndex (totalSlots : ℕ) (arrivalSlot : ℤ) : ℕ :=
  if arrivalSlot < 0 then
    totalSlots - 1
  else
    min arrivalSlot.toNat (totalSlots - 1)

/-- Put a request behind those of its slot. -/
def place (now : ℕ → ℚ) (bySlot : List (List Request))
    (request : ScenarioRequest) : List (List Request) :=
  bySlot.modify (slotIndex bySlot.length request.arrivalSlot)
    fun requests => requests ++ [request.toRequest now]

/-- The requests of every slot; `none` is a panic, for a negative horizon or
for an empty one with requests. -/
def requestsBySlot (now : ℕ → ℚ) (scenario : Scenario) :
    Option (List (List Request)) :=
  if scenario.totalSlots < 0 then
    none
  else if scenario.totalSlots = 0 ∧ scenario.requests ≠ [] then
    none
  else
    some (scenario.requests.foldl (place now)
      (List.replicate scenario.totalSlots.toNat []))

variable {now : ℕ → ℚ} {scenario : Scenario} {bySlot : List (List Request)}

/-! ## Nothing is dropped -/

theorem slotIndex_lt {totalSlots : ℕ} (positive : 0 < totalSlots)
    (arrivalSlot : ℤ) : slotIndex totalSlots arrivalSlot < totalSlots := by
  unfold slotIndex
  split <;> omega

@[simp]
theorem length_place (request : ScenarioRequest) :
    (place now bySlot request).length = bySlot.length :=
  List.length_modify _ _ _

theorem flatten_place_perm (inhabited : 0 < bySlot.length)
    (request : ScenarioRequest) :
    (place now bySlot request).flatten.Perm
      (bySlot.flatten ++ [request.toRequest now]) := by
  have inside := slotIndex_lt inhabited request.arrivalSlot
  have parts := List.modify_eq_take_cons_drop
    (f := fun requests => requests ++ [request.toRequest now]) inside
  rw [place, parts, List.flatten_append, List.flatten_cons]
  conv_rhs =>
    rw [← List.take_append_drop
      (slotIndex bySlot.length request.arrivalSlot) bySlot,
      List.drop_eq_getElem_cons inside, List.flatten_append,
      List.flatten_cons]
  refine List.perm_iff_count.mpr fun other => ?_
  simp only [List.count_append]
  omega

theorem flatten_foldl_place_perm (now : ℕ → ℚ)
    (requests : List ScenarioRequest) (bySlot : List (List Request))
    (inhabited : requests ≠ [] → 0 < bySlot.length) :
    (requests.foldl (place now) bySlot).length = bySlot.length ∧
      (requests.foldl (place now) bySlot).flatten.Perm
        (bySlot.flatten ++ requests.map (ScenarioRequest.toRequest now)) := by
  induction requests generalizing bySlot with
  | nil => exact ⟨rfl, by rw [List.map_nil, List.append_nil]; rfl⟩
  | cons request rest inductionHypothesis =>
      have positive := inhabited (List.cons_ne_nil request rest)
      obtain ⟨length_eq, later⟩ :=
        inductionHypothesis (place now bySlot request)
          fun _ => by rw [length_place]; exact positive
      rw [length_place] at length_eq
      refine ⟨length_eq, later.trans ?_⟩
      rw [List.map_cons, List.append_cons]
      exact (flatten_place_perm positive request).append_right _

/-- Every request of the scenario is in one slot of the horizon. -/
theorem requestsBySlot_spec
    (grouped : scenario.requestsBySlot now = some bySlot) :
    0 ≤ scenario.totalSlots ∧ bySlot.length = scenario.totalSlots.toNat ∧
      bySlot.flatten.Perm
        (scenario.requests.map (ScenarioRequest.toRequest now)) := by
  unfold requestsBySlot at grouped
  split at grouped
  · cases grouped
  · rename_i horizon
    split at grouped
    · cases grouped
    · rename_i inhabited
      cases grouped
      have spec := flatten_foldl_place_perm now scenario.requests
        (List.replicate scenario.totalSlots.toNat []) fun some_request => by
          rw [List.length_replicate]
          have nonzero : scenario.totalSlots ≠ 0 := fun zero =>
            inhabited ⟨zero, some_request⟩
          omega
      rw [List.length_replicate, List.flatten_replicate_nil,
        List.nil_append] at spec
      exact ⟨not_lt.mp horizon, spec⟩

end Scenario

/-! ## A complete replay -/

namespace Generator

variable {cfg : RequestGeneratorConfig} {runtime : GeneratorRuntime}
variable {running : Running} {bySlot : List (List Request)}

/-- The requests that the generator has added, in their order. -/
def GeneratorState.added (state : GeneratorState) : List Request :=
  (state.events.flatMap GeneratorEvent.emitted).map Prod.snd

/-- A replay of the slots up to the end of the table adds the whole table. -/
theorem requestsThrough_perm :
    ((requestsThrough cfg runtime (some bySlot)
        (bySlot.length - 1)).map Prod.snd).Perm bySlot.flatten := by
  have sorted : ∀ requests : List Request,
      (byArrivalTime requests).Perm requests := fun requests =>
    List.perm_insertionSort _ requests
  have slots : slotRange 0 ((bySlot.length : ℤ) - 1) =
      (List.range bySlot.length).map fun index : ℕ => (index : ℤ) := by
    rw [slotRange, Int.range, sub_add_cancel, sub_zero, Int.toNat_natCast]
    exact List.map_congr_left fun index _ => by omega
  have table : bySlot =
      (List.range bySlot.length).map fun index => bySlot.getD index [] := by
    refine List.ext_getElem (by simp) fun index inside _ => ?_
    rw [List.getElem_map, List.getElem_range, List.getD_eq_getElem _ _ inside]
  rw [requestsThrough, slots, List.map_flatMap, List.flatMap_map]
  conv_rhs => rw [table, ← List.flatMap_def]
  refine List.Perm.flatMap_left _ fun index _ => ?_
  rw [slotRequests_of_scenario, Int.toNat_natCast, List.map_map]
  refine (List.Perm.of_eq ?_).trans (sorted _)
  exact List.map_id _

/-- A replay that nobody stops and that comes to its end has added every
request of the scenario, each once. -/
theorem added_perm_of_replay {scenario : Scenario}
    (grouped : scenario.requestsBySlot runtime.now = some bySlot)
    (horizon_eq : cfg.totalSlots = scenario.totalSlots)
    (unstopped : ∀ look, running look = true) {readings unread : List ℕ}
    (ended : (generatorLoop cfg runtime (some bySlot) running readings
      .new).2 = .finished unread) :
    (generatorLoop cfg runtime (some bySlot) running readings
        .new).1.added.Perm
      (scenario.requests.map (ScenarioRequest.toRequest runtime.now)) := by
  obtain ⟨horizon, length_eq, table⟩ := Scenario.requestsBySlot_spec grouped
  have initially : GeneratorState.new.lastSlot < max 0 cfg.totalSlots :=
    lt_max_of_lt_left (by decide)
  obtain ⟨emitted, ends, _⟩ := loop_of_emitted unstopped readings []
    GeneratorState.new (.new cfg runtime (some bySlot)) initially nofun
  rw [ended] at ends
  have lastSlot_eq : (generatorLoop cfg runtime (some bySlot) running readings
      .new).1.lastSlot = (bySlot.length : ℤ) - 1 := by
    cases ends with
    | finished _ _ _ everySlot =>
        rw [everySlot, length_eq]
        omega
  rw [GeneratorState.added, emitted.emitted_eq, lastSlot_eq]
  exact requestsThrough_perm.trans table

end Generator

end Carbonshift
