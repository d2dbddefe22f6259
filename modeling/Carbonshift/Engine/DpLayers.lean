import Carbonshift.Engine.DpWarmStart

/-!
# Pruned layers

Pruning keeps entries of the layer and never the warm-start state out of it,
so a layer stays sound and stays at least as cheap as the warm start.
Without pruning a layer stays complete.  The run over all requests carries
the three facts to the final layer.
-/

namespace Carbonshift

namespace DpSolver

variable {solver : DpSolver} {input : SolveBatchInput}

/-! ## Keeping ranked states -/

section Ranking

variable {warmKey : DpStateKey} {items : List DpEntry}

theorem mem_of_mem_keepRanked
    {warm : Option DpStateKey} {entry : DpEntry}
    (kept : entry ∈ solver.keepRanked warm items) : entry ∈ items := by
  unfold keepRanked at kept
  extract_lets warmIdx takeN trimmed rest at kept
  have fromTrimmed : ∀ early ∈ trimmed, early ∈ items :=
    fun _ => List.mem_of_mem_take
  cases located : warmIdx with
  | none =>
      simp only [located] at kept
      exact fromTrimmed entry kept
  | some index =>
      simp only [located] at kept
      split at kept
      · rcases List.mem_append.mp kept with early | injected
        · exact fromTrimmed entry early
        · exact List.mem_of_mem_drop
            (List.mem_of_getElem? (Option.mem_toList.mp injected))
      · exact fromTrimmed entry kept

/-- The place reserved for the warm-start state is enough, whatever its rank
and however few states are kept. -/
theorem exists_mem_keepRanked
    (present : ∃ entry ∈ items, entry.1 = warmKey) :
    ∃ entry ∈ solver.keepRanked (some warmKey) items,
      entry.1 = warmKey := by
  obtain ⟨index, located⟩ : ∃ index,
      items.findIdx? (fun entry => decide (some entry.1 = some warmKey)) =
        some index := by
    refine Option.isSome_iff_exists.mp (List.findIdx?_isSome.trans ?_)
    obtain ⟨entry, member, atKey⟩ := present
    exact List.any_eq_true.mpr ⟨entry, member, by simp [atKey]⟩
  obtain ⟨inside, matching, _⟩ :=
    List.findIdx?_eq_some_iff_getElem.mp located
  have atKey : items[index].1 = warmKey := by simpa using matching
  refine ⟨items[index], ?_, atKey⟩
  unfold keepRanked
  simp only [located, Option.any_some, decide_eq_true_eq]
  by_cases late : solver.pruningK ≤ index
  · -- The warm state ranks too late: it is injected into the reserved place.
    have room :
        min (solver.pruningK - 1) items.length = solver.pruningK - 1 := by
      omega
    have fits :
        index < solver.pruningK - 1 +
          (items.drop (solver.pruningK - 1)).length := by
      rw [List.length_drop]
      omega
    simp only [late, if_true, room, fits, and_self]
    refine List.mem_append_right _ (Option.mem_toList.mpr ?_)
    rw [List.getElem?_drop,
      Nat.add_sub_cancel' (by omega : solver.pruningK - 1 ≤ index),
      List.getElem?_eq_getElem inside]
  · have early : index < min solver.pruningK items.length := by omega
    simp only [late, if_false, false_and]
    exact List.mem_of_getElem?
      ((List.getElem?_take_of_lt early).trans
        (List.getElem?_eq_getElem inside))

end Ranking

/-! ## Trimming a layer -/

section Trimming

variable {order : IterationOrder DpEntry} {layer : DpLayer}

private theorem mem_ranked_iff {entry : DpEntry} :
    entry ∈ (order.arrange layer.toPairs).insertionSort solver.ranksBefore ↔
      layer.lookup entry.1 = some entry.2 := by
  rw [List.mem_insertionSort, IterationOrder.mem_arrange]
  exact Dictionary.mem_toPairs_iff

/-- A trimmed layer holds entries of the layer only. -/
theorem lookup_of_lookup_trimLayer
    {warm : Option DpStateKey} {key : DpStateKey}
    {kept : ℚ × List RequestAssignment}
    (found : (solver.trimLayer order warm layer).lookup key = some kept) :
    layer.lookup key = some kept := by
  unfold trimLayer at found
  split at found
  · have member := Dictionary.mem_of_lookup_ofPairs found
    exact mem_ranked_iff.mp (mem_of_mem_keepRanked member)
  · exact found

/-- Trimming keeps the warm-start entry. -/
theorem lookup_trimLayer_warm
    {warmKey : DpStateKey} {kept : ℚ × List RequestAssignment}
    (found : layer.lookup warmKey = some kept) :
    (solver.trimLayer order (some warmKey) layer).lookup warmKey =
      some kept := by
  have present :
      ∃ stored,
        (solver.trimLayer order (some warmKey) layer).lookup warmKey =
          some stored := by
    unfold trimLayer
    split
    · obtain ⟨entry, member, rfl⟩ : ∃ entry ∈
          solver.keepRanked (some warmKey)
            ((order.arrange layer.toPairs).insertionSort solver.ranksBefore),
          entry.1 = warmKey :=
        exists_mem_keepRanked ⟨(warmKey, kept), mem_ranked_iff.mpr found, rfl⟩
      exact Dictionary.exists_lookup_ofPairs member
    · exact ⟨kept, found⟩
  obtain ⟨stored, there⟩ := present
  rw [there, ← lookup_of_lookup_trimLayer there, found]

theorem trimLayer_eq_self
    (unpruned : solver.pruning = "none") (warm : Option DpStateKey) :
    solver.trimLayer order warm layer = layer := by
  simp [trimLayer, unpruned]

theorem sound_trimLayer
    {start : DpStateKey} {stages : List (List Choice)}
    (sound : (solver.dpSearch input).Sound start stages layer)
    (warm : Option DpStateKey) :
    (solver.dpSearch input).Sound start stages
      (solver.trimLayer order warm layer) :=
  sound.of_lookup_subset fun _ _ => lookup_of_lookup_trimLayer

theorem covers_trimLayer
    {warmKey : DpStateKey} {bound : ℚ}
    (covers : LayeredSearch.Covers layer warmKey bound) :
    LayeredSearch.Covers (solver.trimLayer order (some warmKey) layer)
      warmKey bound := by
  obtain ⟨kept, found, small⟩ := covers
  exact ⟨kept, lookup_trimLayer_warm found, small⟩

end Trimming

/-! ## The run over all requests -/

section Run

variable {oracle : SearchOracle} {incumbent : List RequestAssignment}
variable {warmKeys : List DpStateKey} {index : ℕ}
variable {done remaining : List SolveRequest} {layer final : DpLayer}

private theorem stored_of_visited {order : IterationOrder DpEntry} :
    ∀ entry ∈ order.arrange layer.toPairs,
      layer.lookup entry.1 = some entry.2 :=
  fun _ visited => Dictionary.mem_toPairs_iff.mp
    ((IterationOrder.mem_arrange order).mp visited)

private theorem visited_of_stored {order : IterationOrder DpEntry} :
    ∀ key kept, layer.lookup key = some kept →
      (key, kept) ∈ order.arrange layer.toPairs :=
  fun _ _ found => (IterationOrder.mem_arrange order).mpr
    (Dictionary.mem_toPairs_iff.mpr found)

/-- Every early exit answers with the incumbent. -/
theorem searchLayers_error
    {answer : List RequestAssignment}
    (exited : solver.searchLayers input oracle incumbent warmKeys index
      remaining layer = .error answer) :
    answer = incumbent := by
  induction remaining generalizing index layer with
  | nil => cases exited
  | cons request rest inductionHypothesis =>
      simp only [searchLayers] at exited
      split at exited
      · exact (Except.error.inj exited).symm
      · split at exited
        · exact (Except.error.inj exited).symm
        · exact inductionHypothesis exited

/-- The final layer holds only real choice sequences of all requests. -/
theorem searchLayers_sound
    (sound : (solver.dpSearch input).Sound (solver.initialKey input)
      (done.map (solver.stageFor input)) layer)
    (finished : solver.searchLayers input oracle incumbent warmKeys index
      remaining layer = .ok final) :
    (solver.dpSearch input).Sound (solver.initialKey input)
      ((done ++ remaining).map (solver.stageFor input)) final := by
  induction remaining generalizing index layer done with
  | nil =>
      cases finished
      simpa using sound
  | cons request rest inductionHypothesis =>
      simp only [searchLayers] at finished
      split at finished
      · cases finished
      · split at finished
        · cases finished
        · have expanded :
              (solver.dpSearch input).Sound (solver.initialKey input)
                ((done ++ [request]).map (solver.stageFor input))
                (solver.expandLayer input request
                  ((oracle.visit index).arrange layer.toPairs)) := by
            rw [expandLayer_eq_expand, List.map_append, List.map_singleton]
            exact sound.expand _ stored_of_visited
          rw [List.append_cons done request rest]
          exact inductionHypothesis (sound_trimLayer expanded _) finished

/-- The final layer is at least as cheap at the warm-start key as the warm
start. -/
theorem searchLayers_covers
    {start : DpStateKey} {earlier choices : List Choice}
    (position : earlier.length = index)
    (warm : ∀ offset ≤ choices.length,
      warmKeys[index + offset]? =
        some ((solver.dpSearch input).target start
          (earlier ++ choices.take offset)))
    (legal : List.Forall₂ (solver.LegalChoice input) remaining choices)
    (covers : LayeredSearch.Covers layer
      ((solver.dpSearch input).target start earlier)
      ((solver.dpSearch input).total start earlier))
    (finished : solver.searchLayers input oracle incumbent warmKeys index
      remaining layer = .ok final) :
    LayeredSearch.Covers final
      ((solver.dpSearch input).target start (earlier ++ choices))
      ((solver.dpSearch input).total start (earlier ++ choices)) := by
  induction legal generalizing index layer earlier with
  | nil =>
      cases finished
      simpa using covers
  | @cons request choice rest others legalChoice _ inductionHypothesis =>
      simp only [searchLayers] at finished
      split at finished
      · cases finished
      · split at finished
        · cases finished
        · have expanded :
              LayeredSearch.Covers
                (solver.expandLayer input request
                  ((oracle.visit index).arrange layer.toPairs))
                ((solver.dpSearch input).target start (earlier ++ [choice]))
                ((solver.dpSearch input).total start
                  (earlier ++ [choice])) := by
            rw [expandLayer_eq_expand, LayeredSearch.target_concat,
              LayeredSearch.total_concat]
            exact covers.expand
              ((solver.mem_stageFor_iff input).mpr legalChoice)
              visited_of_stored
          have atWarm := warm 1 (by simp)
          rw [List.take_succ_cons, List.take_zero] at atWarm
          rw [atWarm] at finished
          rw [List.append_cons earlier choice others]
          refine inductionHypothesis (by simp [position]) ?_
            (covers_trimLayer expanded) finished
          intro offset bounded
          have shifted := warm (offset + 1) (by simpa using bounded)
          rw [List.take_succ_cons] at shifted
          rw [← List.append_cons, ← shifted]
          congr 1
          omega

/-- Without pruning, and as long as time lasts, the search finishes with a
complete layer. -/
theorem searchLayers_complete
    (unpruned : solver.pruning = "none")
    (inTime : ∀ layer, oracle.elapsed layer ≤ solver.timeout)
    {start : DpStateKey} {earlier : List Choice}
    (placeable : ∀ request ∈ remaining, solver.Placeable input request)
    (reached : LayeredSearch.Admissible
      (done.map (solver.stageFor input)) earlier)
    (complete : (solver.dpSearch input).Complete start
      (done.map (solver.stageFor input)) layer) :
    ∃ final,
      solver.searchLayers input oracle incumbent warmKeys index remaining
          layer = .ok final ∧
        (solver.dpSearch input).Complete start
          ((done ++ remaining).map (solver.stageFor input)) final := by
  induction remaining generalizing index layer done earlier with
  | nil => exact ⟨layer, rfl, by simpa using complete⟩
  | cons request rest inductionHypothesis =>
      have expanded :
          (solver.dpSearch input).Complete start
            ((done ++ [request]).map (solver.stageFor input))
            (solver.expandLayer input request
              ((oracle.visit index).arrange layer.toPairs)) := by
        rw [expandLayer_eq_expand, List.map_append, List.map_singleton]
        exact complete.expand _ visited_of_stored
      have someChoice := placeable request List.mem_cons_self
      obtain ⟨flavour, flavourMember⟩ :=
        List.exists_mem_of_ne_nil _ someChoice.flavours_ne_nil
      have legalChoice :
          solver.LegalChoice input request
            ⟨request, flavour, earliestFor input request⟩ :=
        ⟨rfl, flavourMember, le_rfl, someChoice.earliest_le_deadline⟩
      have reachedNext :
          LayeredSearch.Admissible
            ((done ++ [request]).map (solver.stageFor input))
            (earlier ++ [⟨request, flavour, earliestFor input request⟩]) := by
        rw [List.map_append, List.map_singleton]
        exact LayeredSearch.admissible_concat_iff.mpr
          ⟨earlier, _, rfl, reached,
            (solver.mem_stageFor_iff input).mpr legalChoice⟩
      have nonempty :
          (solver.expandLayer input request
            ((oracle.visit index).arrange layer.toPairs)).entries.isEmpty =
              false := by
        obtain ⟨kept, found, _⟩ := expanded _ reachedNext
        exact Dictionary.isEmpty_entries_of_lookup found
      simp only [searchLayers, nonempty, Bool.false_eq_true, if_false,
        trimLayer_eq_self unpruned, not_lt.mpr (inTime index)]
      rw [List.append_cons done request rest]
      exact inductionHypothesis
        (fun other member =>
          placeable other (List.mem_cons_of_mem request member))
        reachedNext expanded

end Run

end DpSolver

end Carbonshift
