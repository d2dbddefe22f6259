import Carbonshift.Nshift.OutputRows

/-!
# Positions of the output rows

The committed rows of a slot take its positions from the first one on, and so
do the late rows.  A slot with rows of both kinds uses its first positions
twice.
-/

namespace Carbonshift

namespace Nshift

/-! ## Positions of a slot -/

/-- The positions at which the rows of a slot are priced. -/
def positionsIn (slot : ℤ) (rows : List PricedRequest) : List (Option ℤ) :=
  (rows.filter fun row => row.scheduledSlot = slot).map PricedRequest.position

/-- The first positions of a slot. -/
def firstPositions (count : ℕ) : List (Option ℤ) :=
  (List.range count).map fun index : ℕ => some ((index : ℤ) + 1)

theorem length_firstPositions (count : ℕ) :
    (firstPositions count).length = count := by
  rw [firstPositions, List.length_map, List.length_range]

theorem firstPositions_nodup (count : ℕ) : (firstPositions count).Nodup := by
  refine List.nodup_range.map fun left right same => ?_
  have equal := Option.some.inj same
  omega

theorem mem_firstPositions {count : ℕ} (positive : 0 < count) :
    some 1 ∈ firstPositions count :=
  List.mem_map.mpr ⟨0, List.mem_range.mpr positive, rfl⟩

/-- Two runs of first positions are one only if one of them is empty. -/
theorem firstPositions_append_perm_iff (left right : ℕ) :
    (firstPositions left ++ firstPositions right).Perm
        (firstPositions (left + right)) ↔
      left = 0 ∨ right = 0 := by
  constructor
  · intro same
    have distinct := same.nodup_iff.mpr (firstPositions_nodup (left + right))
    have apart := List.disjoint_of_nodup_append distinct
    by_contra both
    have first : some 1 ∈ firstPositions left := mem_firstPositions (by omega)
    have second : some 1 ∈ firstPositions right := mem_firstPositions (by omega)
    exact apart first second
  · rintro (rfl | rfl)
    · rw [Nat.zero_add]
      exact List.Perm.refl _
    · rw [Nat.add_zero]
      exact List.Perm.of_eq (List.append_nil _)

theorem positionsIn_append (slot : ℤ) (rows others : List PricedRequest) :
    positionsIn slot (rows ++ others) =
      positionsIn slot rows ++ positionsIn slot others := by
  rw [positionsIn, List.filter_append, List.map_append, positionsIn,
    positionsIn]

/-! ## Late rows -/

section Late

variable (policy : AssignmentPolicy) (carbonForecast : List ℚ) (slotDur : ℚ)
variable (fallback : Flavour)

/-- Late rows of a slot take the positions after those counted so far. -/
theorem positionsIn_lateRows_after (slot : ℤ) (requests : List Request)
    (slotCount : Dictionary ℤ ℤ) :
    positionsIn slot
        (lateRows policy carbonForecast slotDur fallback slotCount requests) =
      (List.range (requests.countP fun request =>
          lateSlot policy.totalSlots request = slot)).map
        fun index : ℕ => some (slotCount.getD slot 0 + index + 1) := by
  induction requests generalizing slotCount with
  | nil => rfl
  | cons request rest inductionHypothesis =>
      rw [lateRows, ← List.singleton_append, positionsIn_append,
        inductionHypothesis]
      by_cases here : lateSlot policy.totalSlots request = slot
      · have counted : (request :: rest).countP
            (fun request => lateSlot policy.totalSlots request = slot) =
              rest.countP
                (fun request => lateSlot policy.totalSlots request = slot) +
                  1 := by
          rw [List.countP_cons_of_pos]
          exact decide_eq_true here
        rw [counted, List.range_succ_eq_map, List.map_cons, List.map_map, here,
          Dictionary.getD_upsert_self]
        have own : positionsIn slot
            [lateRow policy carbonForecast slotDur fallback request
              (slotCount.getD slot 0 + 1)] =
                [some (slotCount.getD slot 0 + 1)] := by
          rw [positionsIn, List.filter_cons_of_pos]
          · rfl
          · exact decide_eq_true here
        rw [own, List.singleton_append, Nat.cast_zero, add_zero]
        refine congrArg _ (List.map_congr_left fun index _ => ?_)
        rw [Function.comp_apply, Nat.cast_succ]
        exact congrArg some (by omega)
      · have counted : (request :: rest).countP
            (fun request => lateSlot policy.totalSlots request = slot) =
              rest.countP
                (fun request =>
                  lateSlot policy.totalSlots request = slot) := by
          rw [List.countP_cons_of_neg]
          exact decide_eq_true_iff.not.mpr here
        have elsewhere : positionsIn slot
            [lateRow policy carbonForecast slotDur fallback request
              (slotCount.getD (lateSlot policy.totalSlots request) 0 + 1)] =
                [] := by
          rw [positionsIn, List.filter_cons_of_neg]
          · rfl
          · exact decide_eq_true_iff.not.mpr here
        rw [counted, elsewhere, List.nil_append,
          Dictionary.getD_upsert_of_ne (Ne.symm here)]

variable {policy carbonForecast slotDur}

/-- How many drained requests a slot is given. -/
def lateCount (totalSlots slot : ℤ) (remaining : List Request) : ℕ :=
  remaining.countP fun request => lateSlot totalSlots request = slot

/-- The late rows of a slot take its first positions. -/
theorem positionsIn_late {remaining : List Request}
    {late : List PricedRequest}
    (scheduled : scheduleLateRequests policy carbonForecast slotDur
      remaining = some late) (slot : ℤ) :
    positionsIn slot late =
      firstPositions (lateCount policy.totalSlots slot remaining) := by
  unfold scheduleLateRequests at scheduled
  split at scheduled
  · rename_i nothing
    cases scheduled
    rw [nothing]
    rfl
  · obtain ⟨fallback, _, rfl⟩ := Option.map_eq_some_iff.mp scheduled
    rw [positionsIn_lateRows_after, firstPositions, lateCount,
      (List.perm_insertionSort lateOrder remaining).countP_eq]
    refine List.map_congr_left fun index _ => ?_
    rw [Dictionary.getD_empty, zero_add]

end Late

/-! ## Prices of the committed requests -/

section Committed

variable {policy : AssignmentPolicy} {carbonForecast : List ℚ}
variable {finalAssignments : Dictionary ℕ Assignment}

/-- Assignments are stored under their own identifiers. -/
def KeyedById (finalAssignments : Dictionary ℕ Assignment) : Prop :=
  ∀ requestId assignment,
    finalAssignments.lookup requestId = some assignment →
      assignment.requestId = requestId

/-- The assignments of a slot. -/
def assignedTo (finalAssignments : Dictionary ℕ Assignment) (slot : ℤ) :
    List Assignment :=
  finalAssignments.values.filter fun assignment =>
    assignment.scheduledSlot = slot

theorem mem_assignedTo {slot : ℤ} {assignment : Assignment} :
    assignment ∈ assignedTo finalAssignments slot ↔
      assignment ∈ finalAssignments.values ∧
        assignment.scheduledSlot = slot := by
  rw [assignedTo, List.mem_filter, decide_eq_true_eq]

theorem KeyedById.ids_eq_keys (keyed : KeyedById finalAssignments) :
    assignmentIds finalAssignments.values = finalAssignments.keys := by
  rw [assignmentIds, Dictionary.values, AList.keys, List.keys, List.map_map]
  refine List.map_congr_left fun entry member => ?_
  exact keyed _ _ (AList.mem_lookup_iff.mpr member)

theorem KeyedById.nodup (keyed : KeyedById finalAssignments) :
    (assignmentIds finalAssignments.values).Nodup := by
  rw [keyed.ids_eq_keys]
  exact finalAssignments.keys_nodup

theorem KeyedById.nodup_assignedTo (keyed : KeyedById finalAssignments)
    (slot : ℤ) :
    (assignmentIds (assignedTo finalAssignments slot)).Nodup :=
  keyed.nodup.sublist (List.filter_sublist.map _)

theorem getD_slotRequests (slot : ℤ) :
    (slotRequests finalAssignments).getD slot [] =
      (assignedTo finalAssignments slot).map fun assignment =>
        (assignment.requestId, assignment.flavourDuration) := by
  have grouped : ∀ (assignments : List Assignment)
      (groups : Dictionary ℤ (List (ℕ × ℚ))),
      (assignments.foldl
          (fun groups assignment =>
            groups.upsert assignment.scheduledSlot [] fun requests =>
              requests ++ [(assignment.requestId, assignment.flavourDuration)])
          groups).getD slot [] =
        groups.getD slot [] ++
          (assignments.filter fun assignment =>
              assignment.scheduledSlot = slot).map fun assignment =>
            (assignment.requestId, assignment.flavourDuration) := by
    intro assignments
    induction assignments with
    | nil => exact fun groups => (List.append_nil _).symm
    | cons assignment rest inductionHypothesis =>
        intro groups
        rw [List.foldl_cons, inductionHypothesis]
        by_cases here : assignment.scheduledSlot = slot
        · subst here
          rw [List.filter_cons_of_pos (by simp), Dictionary.getD_upsert_self,
            List.map_cons, List.append_assoc, List.singleton_append]
        · rw [List.filter_cons_of_neg (by simpa using here),
            Dictionary.getD_upsert_of_ne (Ne.symm here)]
  rw [slotRequests, grouped, Dictionary.getD_empty, List.nil_append,
    assignedTo]

/-- The requests of a slot in the order in which they are priced. -/
def rankedIn (finalAssignments : Dictionary ℕ Assignment) (slot : ℤ) :
    List (ℕ × ℚ) :=
  ((assignedTo finalAssignments slot).map fun assignment =>
      (assignment.requestId, assignment.flavourDuration)).insertionSort
    fun left right => left.1 ≤ right.1

theorem rankedIn_ids_perm (slot : ℤ) :
    ((rankedIn finalAssignments slot).map Prod.fst).Perm
      (assignmentIds (assignedTo finalAssignments slot)) := by
  have sorted := (List.perm_insertionSort
    (fun left right : ℕ × ℚ => left.1 ≤ right.1)
    ((assignedTo finalAssignments slot).map fun assignment =>
      (assignment.requestId, assignment.flavourDuration))).map Prod.fst
  rwa [List.map_map] at sorted

/-- All prices, slot by slot. -/
def allPrices (policy : AssignmentPolicy) (carbonForecast : List ℚ)
    (finalAssignments : Dictionary ℕ Assignment) :
    List (ℕ × PositionPrice) :=
  (slotRequests finalAssignments).toPairs.flatMap fun group =>
    slotPrices policy carbonForecast group.1 group.2

theorem slotPrices_ids (slot : ℤ) (requests : List (ℕ × ℚ)) :
    (slotPrices policy carbonForecast slot requests).map Prod.fst =
      (requests.insertionSort fun left right => left.1 ≤ right.1).map
        Prod.fst := by
  rw [slotPrices, List.map_map]
  refine Eq.trans ?_ (congrArg (List.map Prod.fst) (List.zipIdx_map_fst 0
    (requests.insertionSort fun left right => left.1 ≤ right.1)))
  rw [List.map_map]
  rfl

/-- The group of a slot are its assignments. -/
theorem group_eq {group : ℤ × List (ℕ × ℚ)}
    (member : group ∈ (slotRequests finalAssignments).toPairs) :
    group.2 =
      (assignedTo finalAssignments group.1).map fun assignment =>
        (assignment.requestId, assignment.flavourDuration) := by
  have found := Dictionary.mem_toPairs_iff.mp member
  rw [← getD_slotRequests, Dictionary.getD_of_lookup found]

theorem group_ids {group : ℤ × List (ℕ × ℚ)}
    (member : group ∈ (slotRequests finalAssignments).toPairs) :
    (slotPrices policy carbonForecast group.1 group.2).map Prod.fst =
      (rankedIn finalAssignments group.1).map Prod.fst := by
  rw [slotPrices_ids, group_eq member, rankedIn]

theorem mem_of_mem_rankedIn {slot : ℤ} {requestId : ℕ}
    (member : requestId ∈ (rankedIn finalAssignments slot).map Prod.fst) :
    ∃ assignment ∈ finalAssignments.values,
      assignment.scheduledSlot = slot ∧ assignment.requestId = requestId := by
  have present := (rankedIn_ids_perm slot).mem_iff.mp member
  obtain ⟨assignment, stored, same⟩ := List.mem_map.mp present
  have located := mem_assignedTo.mp stored
  exact ⟨assignment, located.1, located.2, same⟩

/-- No request is priced twice. -/
theorem allPrices_nodup (keyed : KeyedById finalAssignments) :
    ((allPrices policy carbonForecast finalAssignments).map
      Prod.fst).Nodup := by
  rw [allPrices, List.map_flatMap, List.nodup_flatMap]
  constructor
  · intro group member
    rw [group_ids member]
    exact (rankedIn_ids_perm group.1).nodup_iff.mpr
      (keyed.nodup_assignedTo group.1)
  · have distinctSlots :
        (slotRequests finalAssignments).toPairs.Pairwise
          fun left right => left.1 ≠ right.1 := by
      have keys := (slotRequests finalAssignments).keys_nodup
      rw [AList.keys, List.keys, List.Nodup, List.pairwise_map] at keys
      rw [Dictionary.toPairs, List.pairwise_map]
      exact keys
    refine distinctSlots.imp_of_mem ?_
    intro left right inLeft inRight apart requestId inFirst inSecond
    have first : requestId ∈ (rankedIn finalAssignments left.1).map Prod.fst :=
      group_ids inLeft ▸ inFirst
    have second : requestId ∈
        (rankedIn finalAssignments right.1).map Prod.fst :=
      group_ids inRight ▸ inSecond
    obtain ⟨assignment, stored, slot_eq, same⟩ := mem_of_mem_rankedIn first
    obtain ⟨other, otherStored, otherSlot_eq, otherSame⟩ :=
      mem_of_mem_rankedIn second
    obtain ⟨key, found⟩ := Dictionary.mem_values_iff.mp stored
    obtain ⟨otherKey, otherFound⟩ := Dictionary.mem_values_iff.mp otherStored
    have sameKey : key = otherKey := by
      rw [← keyed _ _ found, ← keyed _ _ otherFound, same, otherSame]
    rw [sameKey, otherFound, Option.some.injEq] at found
    rw [found] at otherSlot_eq
    exact apart (slot_eq.symm.trans otherSlot_eq)

/-- The price of a committed request is that of its rank. -/
theorem lookup_reqCost (keyed : KeyedById finalAssignments) {slot : ℤ}
    {ranked : ℕ × ℚ} {index : ℕ}
    (member : (ranked, index) ∈ (rankedIn finalAssignments slot).zipIdx) :
    (reqCost policy carbonForecast finalAssignments).lookup ranked.1 =
      some
        { position := index + 1
          cost :=
            (slotEntry carbonForecast slot).getD 0 *
                getCapacityMultiplier policy.capacityTiers (index + 1) *
              ranked.2 * policy.carbonCostDurationScale } := by
  refine Dictionary.lookup_foldl_insert (allPrices_nodup keyed) ?_ ∅
  have inhabited : (slotRequests finalAssignments).getD slot [] ≠ [] := by
    intro empty
    rw [getD_slotRequests] at empty
    rw [rankedIn, empty] at member
    cases member
  have found : (slotRequests finalAssignments).lookup slot =
      some ((slotRequests finalAssignments).getD slot []) := by
    rw [Dictionary.getD] at inhabited ⊢
    cases stored : (slotRequests finalAssignments).lookup slot with
    | none =>
        rw [stored] at inhabited
        exact absurd rfl inhabited
    | some group => rfl
  refine List.mem_flatMap.mpr
    ⟨_, Dictionary.mem_toPairs_iff.mpr found, ?_⟩
  rw [getD_slotRequests, slotPrices, ← rankedIn]
  exact List.mem_map.mpr ⟨(ranked, index), member, rfl⟩

/-- Only committed requests have a price. -/
theorem lookup_reqCost_of_absent (keyed : KeyedById finalAssignments)
    {requestId : ℕ} (absent : requestId ∉ finalAssignments) :
    (reqCost policy carbonForecast finalAssignments).lookup requestId =
      none := by
  have unpriced : requestId ∉
      (allPrices policy carbonForecast finalAssignments).map Prod.fst := by
    intro member
    rw [allPrices, List.map_flatMap] at member
    obtain ⟨group, inside, priced⟩ := List.mem_flatMap.mp member
    rw [group_ids inside] at priced
    obtain ⟨assignment, stored, _, same⟩ := mem_of_mem_rankedIn priced
    obtain ⟨key, found⟩ := Dictionary.mem_values_iff.mp stored
    rw [← same, keyed _ _ found] at absent
    exact absent (Dictionary.mem_of_lookup found)
  have lookup_eq := Dictionary.lookup_foldl_insert_of_absent unpriced
    (∅ : Dictionary ℕ PositionPrice)
  rw [reqCost, ← allPrices, lookup_eq, AList.lookup_empty]

/-- The position at which a request is priced. -/
def pricedPosition (policy : AssignmentPolicy) (carbonForecast : List ℚ)
    (finalAssignments : Dictionary ℕ Assignment) (requestId : ℕ) :
    Option ℤ :=
  ((reqCost policy carbonForecast finalAssignments).lookup requestId).map
    PositionPrice.position

/-- The requests of a slot are priced at its first positions. -/
theorem rankedIn_positions (keyed : KeyedById finalAssignments) (slot : ℤ) :
    ((rankedIn finalAssignments slot).map Prod.fst).map
        (pricedPosition policy carbonForecast finalAssignments) =
      firstPositions (assignedTo finalAssignments slot).length := by
  have indices : (rankedIn finalAssignments slot).zipIdx.map Prod.snd =
      List.range (assignedTo finalAssignments slot).length := by
    rw [List.zipIdx_map_snd, ← List.range_eq_range', rankedIn,
      List.length_insertionSort, List.length_map]
  have ranks := List.zipIdx_map_fst 0 (rankedIn finalAssignments slot)
  rw [firstPositions, ← indices]
  conv_lhs => rw [← ranks]
  rw [List.map_map, List.map_map, List.map_map]
  refine List.map_congr_left fun entry member => ?_
  rw [Function.comp_apply, Function.comp_apply, Function.comp_apply,
    pricedPosition, lookup_reqCost keyed member]
  rfl

end Committed

/-! ## Committed rows -/

section Rows

variable {runs : Dictionary String SolverRunRow} {slotDur : ℚ}
variable {rolledBackIds : List ℕ}

/-- What the rows read so far have left. -/
structure Seen (runs : Dictionary String SolverRunRow) (slotDur : ℚ)
    (rolledBackIds : List ℕ) (rows : List AssignmentRow)
    (seen : Dictionary ℕ PerRequest) : Prop where
  stored : ∀ {requestId perRequest},
    seen.lookup requestId = some perRequest →
      ∃ row ∈ rows, row.requestId = requestId ∧
        perRequest = row.perRequest runs slotDur rolledBackIds
  complete : ∀ row ∈ rows, row.requestId ∈ seen

theorem Seen.step {rows : List AssignmentRow}
    {seen : Dictionary ℕ PerRequest}
    (before : Seen runs slotDur rolledBackIds rows seen)
    (row : AssignmentRow) :
    Seen runs slotDur rolledBackIds (rows ++ [row])
      (if row.requestId ∈ seen then
        seen
      else
        seen.insert row.requestId
          (row.perRequest runs slotDur rolledBackIds)) := by
  have keeps : ∀ {requestId perRequest},
      seen.lookup requestId = some perRequest →
        ∃ source ∈ rows ++ [row], source.requestId = requestId ∧
          perRequest = source.perRequest runs slotDur rolledBackIds := by
    intro requestId perRequest found
    obtain ⟨source, member, same, made⟩ := before.stored found
    exact ⟨source, List.mem_append_left _ member, same, made⟩
  by_cases present : row.requestId ∈ seen
  · rw [if_pos present]
    refine ⟨keeps, fun other member => ?_⟩
    rcases List.mem_append.mp member with earlier | last
    · exact before.complete other earlier
    · rw [List.mem_singleton.mp last]
      exact present
  · rw [if_neg present]
    refine ⟨fun {requestId perRequest} found => ?_, fun other member => ?_⟩
    · by_cases own : requestId = row.requestId
      · rw [own, AList.lookup_insert, Option.some.injEq] at found
        exact ⟨row, List.mem_append_right _ (List.mem_singleton_self row),
          own.symm, found.symm⟩
      · rw [AList.lookup_insert_ne own] at found
        exact keeps found
    · rw [AList.mem_insert]
      rcases List.mem_append.mp member with earlier | last
      · exact Or.inr (before.complete other earlier)
      · rw [List.mem_singleton.mp last]
        exact Or.inl rfl

theorem seen_seenRows (rows : List AssignmentRow) :
    Seen runs slotDur rolledBackIds
      (rows.filter AssignmentRow.isNewAssignmentInRun)
      (seenRows runs slotDur rolledBackIds rows) := by
  rw [seenRows]
  induction rows.filter AssignmentRow.isNewAssignmentInRun
    using List.reverseRecOn with
  | nil =>
      refine ⟨fun found => ?_, nofun⟩
      exact absurd (found.symm.trans (AList.lookup_empty _)) nofun
  | append_singleton earlier row inductionHypothesis =>
      rw [List.foldl_append]
      exact inductionHypothesis.step row

/-- There is one row for each identifier. -/
theorem computePerRequest_nodup (rows : List AssignmentRow) :
    ((computePerRequest runs slotDur rolledBackIds rows).map
      PerRequest.requestId).Nodup := by
  have seen : Seen runs slotDur rolledBackIds
      (rows.filter AssignmentRow.isNewAssignmentInRun)
      (seenRows runs slotDur rolledBackIds rows) := seen_seenRows rows
  have sorted := (List.perm_insertionSort
    (fun left right : PerRequest => left.requestId ≤ right.requestId)
    (seenRows runs slotDur rolledBackIds rows).values).map PerRequest.requestId
  refine sorted.nodup_iff.mpr ?_
  have ids : (seenRows runs slotDur rolledBackIds rows).values.map
      PerRequest.requestId =
        (seenRows runs slotDur rolledBackIds rows).keys := by
    rw [Dictionary.values, AList.keys, List.keys, List.map_map]
    refine List.map_congr_left fun entry member => ?_
    obtain ⟨row, _, same, made⟩ :=
      seen.stored (AList.mem_lookup_iff.mpr member)
    rw [Function.comp_apply, made, ← same]
    rfl
  rw [ids]
  exact AList.keys_nodup _

theorem mem_computePerRequest {rows : List AssignmentRow}
    {perRequest : PerRequest} :
    perRequest ∈ computePerRequest runs slotDur rolledBackIds rows ↔
      ∃ requestId, (seenRows runs slotDur rolledBackIds rows).lookup
        requestId = some perRequest :=
  (List.mem_insertionSort _).trans Dictionary.mem_values_iff

end Rows

/-! ## All output rows -/

/-- The log has the rows of the committed requests and of no others, and the
drained requests are not committed. -/
structure RunRecord.Consistent (record : RunRecord) : Prop where
  keyed : KeyedById record.finalAssignments
  /-- Every new row is that of a committed request, in its slot. -/
  logged : ∀ row ∈ record.assignmentRows, row.isNewAssignmentInRun = true →
    ∃ assignment,
      record.finalAssignments.lookup row.requestId = some assignment ∧
        assignment.scheduledSlot = row.scheduledSlot
  committed : ∀ requestId ∈ record.finalAssignments,
    ∃ row ∈ record.assignmentRows,
      row.isNewAssignmentInRun = true ∧ row.requestId = requestId
  drained : ∀ request ∈ record.remaining,
    request.id ∉ record.finalAssignments

section Output

variable {policy : AssignmentPolicy} {carbonForecast : List ℚ} {slotDur : ℚ}
variable {record : RunRecord}

/-- The committed rows of the record. -/
def RunRecord.committedRows (record : RunRecord) (slotDur : ℚ) :
    List PerRequest :=
  computePerRequest (runsById record.runs) slotDur record.rolledBackIds
    record.assignmentRows

/-- The committed rows of a slot are those of its assignments. -/
theorem RunRecord.Consistent.ids_perm (consistent : record.Consistent)
    (slotDur : ℚ) (slot : ℤ) :
    (((record.committedRows slotDur).filter fun row =>
          row.scheduledSlot = slot).map PerRequest.requestId).Perm
      (assignmentIds (assignedTo record.finalAssignments slot)) := by
  have seen : Seen (runsById record.runs) slotDur record.rolledBackIds
      (record.assignmentRows.filter AssignmentRow.isNewAssignmentInRun)
      (seenRows (runsById record.runs) slotDur record.rolledBackIds
        record.assignmentRows) := seen_seenRows _
  have distinct : (((record.committedRows slotDur).filter fun row =>
      row.scheduledSlot = slot).map PerRequest.requestId).Nodup :=
    (computePerRequest_nodup record.assignmentRows).sublist
      (List.filter_sublist.map _)
  refine (List.perm_ext_iff_of_nodup distinct
    (consistent.keyed.nodup_assignedTo slot)).mpr fun requestId => ?_
  constructor
  · intro member
    obtain ⟨perRequest, inside, rfl⟩ := List.mem_map.mp member
    obtain ⟨present, here⟩ := List.mem_filter.mp inside
    obtain ⟨key, found⟩ := mem_computePerRequest.mp present
    obtain ⟨row, read, _, rfl⟩ := seen.stored found
    obtain ⟨logged, isNew⟩ := List.mem_filter.mp read
    obtain ⟨assignment, stored, sameSlot⟩ :=
      consistent.logged row logged isNew
    refine List.mem_map.mpr ⟨assignment, mem_assignedTo.mpr ⟨?_, ?_⟩,
      consistent.keyed _ _ stored⟩
    · exact Dictionary.mem_values_iff.mpr ⟨_, stored⟩
    · exact sameSlot.trans (of_decide_eq_true here)
  · intro member
    obtain ⟨assignment, inside, rfl⟩ := List.mem_map.mp member
    obtain ⟨present, here⟩ := mem_assignedTo.mp inside
    obtain ⟨key, stored⟩ := Dictionary.mem_values_iff.mp present
    have own := consistent.keyed _ _ stored
    obtain ⟨row, logged, isNew, same⟩ :=
      consistent.committed key (Dictionary.mem_of_lookup stored)
    have read := List.mem_filter.mpr ⟨logged, isNew⟩
    obtain ⟨perRequest, found⟩ :=
      Dictionary.exists_lookup_of_mem (seen.complete row read)
    obtain ⟨source, sourceRead, sourceSame, made⟩ := seen.stored found
    obtain ⟨sourceLogged, sourceNew⟩ := List.mem_filter.mp sourceRead
    obtain ⟨other, otherStored, sameSlot⟩ :=
      consistent.logged source sourceLogged sourceNew
    rw [sourceSame, same, stored, Option.some.injEq] at otherStored
    subst otherStored
    refine List.mem_map.mpr ⟨perRequest, List.mem_filter.mpr ⟨?_, ?_⟩, ?_⟩
    · exact mem_computePerRequest.mpr ⟨_, found⟩
    · rw [made, decide_eq_true_eq]
      exact sameSlot.symm.trans here
    · rw [made, own, ← same, ← sourceSame]
      rfl

@[simp]
theorem reprice_scheduledSlot (costs : Dictionary ℕ PositionPrice)
    (row : PricedRequest) :
    (row.reprice costs).scheduledSlot = row.scheduledSlot := by
  unfold PricedRequest.reprice
  split <;> rfl

theorem reprice_position (row : PricedRequest)
    (finalAssignments : Dictionary ℕ Assignment) :
    (row.reprice (reqCost policy carbonForecast finalAssignments)).position =
      (pricedPosition policy carbonForecast finalAssignments
        row.requestId).or row.position := by
  rw [PricedRequest.reprice, pricedPosition]
  split
  · rename_i unpriced
    rw [unpriced]
    rfl
  · rename_i price priced
    rw [priced]
    rfl

/-- Pricing the rows again keeps their slots. -/
theorem positionsIn_recompute (finalAssignments : Dictionary ℕ Assignment)
    (slot : ℤ) (rows : List PricedRequest) :
    positionsIn slot
        (recomputeCarbonCosts policy carbonForecast finalAssignments rows) =
      (rows.filter fun row => row.scheduledSlot = slot).map fun row =>
        (pricedPosition policy carbonForecast finalAssignments
          row.requestId).or row.position := by
  rw [positionsIn, recomputeCarbonCosts, List.filter_map, List.map_map]
  have sameSlot : ∀ row ∈ rows,
      ((fun row : PricedRequest => decide (row.scheduledSlot = slot)) ∘
          PricedRequest.reprice (reqCost policy carbonForecast
            finalAssignments)) row =
        decide (row.scheduledSlot = slot) := by
    intro row _
    rw [Function.comp_apply, reprice_scheduledSlot]
  rw [List.filter_congr sameSlot]
  exact List.map_congr_left fun row _ => reprice_position row finalAssignments

private theorem requestId_of_lateRows {fallback : Flavour}
    {requests : List Request} (slotCount : Dictionary ℤ ℤ)
    {row : PricedRequest}
    (member : row ∈ lateRows policy carbonForecast slotDur fallback slotCount
      requests) :
    ∃ request ∈ requests, row.requestId = request.id := by
  induction requests generalizing slotCount with
  | nil => cases member
  | cons request rest inductionHypothesis =>
      rcases List.mem_cons.mp member with rfl | later
      · exact ⟨request, List.mem_cons_self, rfl⟩
      · obtain ⟨source, inside, same⟩ := inductionHypothesis _ later
        exact ⟨source, List.mem_cons_of_mem _ inside, same⟩

/-- Late rows are those of drained requests. -/
theorem requestId_of_late {remaining : List Request}
    {late : List PricedRequest}
    (scheduled : scheduleLateRequests policy carbonForecast slotDur
      remaining = some late)
    {row : PricedRequest} (member : row ∈ late) :
    ∃ request ∈ remaining, row.requestId = request.id := by
  unfold scheduleLateRequests at scheduled
  split at scheduled
  · cases scheduled
    cases member
  · obtain ⟨fallback, _, rfl⟩ := Option.map_eq_some_iff.mp scheduled
    obtain ⟨request, inside, same⟩ := requestId_of_lateRows _ member
    exact ⟨request, (List.mem_insertionSort lateOrder).mp inside, same⟩

/-- Committed rows take the first positions of their slot. -/
theorem positionsIn_committed (consistent : record.Consistent) (slot : ℤ) :
    (positionsIn slot
        (recomputeCarbonCosts policy carbonForecast record.finalAssignments
          ((record.committedRows slotDur).map fun row =>
            { row with position := none }))).Perm
      (firstPositions (assignedTo record.finalAssignments slot).length) := by
  have byIds :
      positionsIn slot
          (recomputeCarbonCosts policy carbonForecast record.finalAssignments
            ((record.committedRows slotDur).map fun row =>
              { row with position := none })) =
        (((record.committedRows slotDur).filter fun row =>
            row.scheduledSlot = slot).map PerRequest.requestId).map
          (pricedPosition policy carbonForecast record.finalAssignments) := by
    rw [positionsIn_recompute, List.filter_map, List.map_map, List.map_map]
    exact List.map_congr_left fun row _ => Option.or_none
  rw [byIds, ← rankedIn_positions consistent.keyed slot]
  refine List.Perm.map _ ?_
  exact (consistent.ids_perm slotDur slot).trans (rankedIn_ids_perm slot).symm

/-- Late rows keep the positions they were given. -/
theorem positionsIn_recompute_late (consistent : record.Consistent)
    {late : List PricedRequest}
    (scheduled : scheduleLateRequests policy carbonForecast slotDur
      record.remaining = some late) (slot : ℤ) :
    positionsIn slot
        (recomputeCarbonCosts policy carbonForecast record.finalAssignments
          late) =
      firstPositions (lateCount policy.totalSlots slot record.remaining) := by
  rw [positionsIn_recompute, ← positionsIn_late scheduled slot, positionsIn]
  refine List.map_congr_left fun row member => ?_
  obtain ⟨request, drained, same⟩ :=
    requestId_of_late scheduled (List.mem_of_mem_filter member)
  rw [same, pricedPosition, lookup_reqCost_of_absent consistent.keyed
    (consistent.drained request drained), Option.map_none, Option.none_or]

/-- The positions of a slot are used once each. -/
def PricedOnce (slot : ℤ) (rows : List PricedRequest) : Prop :=
  (positionsIn slot rows).Perm
    (firstPositions
      (rows.filter fun row => row.scheduledSlot = slot).length)

/-- A slot is priced right unless it has committed and late rows. -/
theorem pricedOnce_iff (consistent : record.Consistent)
    {rows : List PricedRequest}
    (finished : outputRows policy carbonForecast slotDur record = some rows)
    (slot : ℤ) :
    PricedOnce slot rows ↔
      (assignedTo record.finalAssignments slot).length = 0 ∨
        lateCount policy.totalSlots slot record.remaining = 0 := by
  obtain ⟨late, scheduled, rfl⟩ := Option.map_eq_some_iff.mp finished
  have parts := positionsIn_append slot
    (recomputeCarbonCosts policy carbonForecast record.finalAssignments
      ((record.committedRows slotDur).map fun row =>
        { row with position := none }))
    (recomputeCarbonCosts policy carbonForecast record.finalAssignments late)
  rw [positionsIn_recompute_late consistent scheduled slot,
    recomputeCarbonCosts, recomputeCarbonCosts, ← List.map_append,
    ← recomputeCarbonCosts, ← recomputeCarbonCosts] at parts
  have committed :
      (positionsIn slot
          (recomputeCarbonCosts policy carbonForecast record.finalAssignments
            ((record.committedRows slotDur).map fun row =>
              { row with position := none }))).Perm
        (firstPositions (assignedTo record.finalAssignments slot).length) :=
    positionsIn_committed consistent slot
  have shape := committed.append_right
    (firstPositions (lateCount policy.totalSlots slot record.remaining))
  rw [← parts] at shape
  have count := shape.length_eq
  rw [List.length_append, length_firstPositions, length_firstPositions,
    positionsIn, List.length_map] at count
  rw [PricedOnce, ← RunRecord.committedRows, count,
    ← firstPositions_append_perm_iff]
  exact ⟨shape.symm.trans, shape.trans⟩

/-- The price of a row is that of a position. -/
def PricedAt (policy : AssignmentPolicy) (row : PricedRequest)
    (position : ℤ) : Prop :=
  ∃ carbon duration, row.carbonCost =
    carbon * getCapacityMultiplier policy.capacityTiers position * duration *
      policy.carbonCostDurationScale

private theorem pricedAt_of_lateRows {fallback : Flavour}
    {requests : List Request} (slotCount : Dictionary ℤ ℤ)
    {row : PricedRequest}
    (member : row ∈ lateRows policy carbonForecast slotDur fallback slotCount
      requests) :
    ∃ position, row.position = some position ∧
      PricedAt policy row position := by
  induction requests generalizing slotCount with
  | nil => cases member
  | cons request rest inductionHypothesis =>
      rcases List.mem_cons.mp member with rfl | later
      · exact ⟨_, rfl, _, _, rfl⟩
      · exact inductionHypothesis _ later

/-- Every output row has the price of its position. -/
theorem pricedAt_of_outputRows (consistent : record.Consistent)
    {rows : List PricedRequest}
    (finished : outputRows policy carbonForecast slotDur record = some rows)
    {row : PricedRequest} (member : row ∈ rows) :
    ∃ position, row.position = some position ∧
      PricedAt policy row position := by
  obtain ⟨late, scheduled, rfl⟩ := Option.map_eq_some_iff.mp finished
  obtain ⟨source, inside, rfl⟩ := List.mem_map.mp member
  rcases List.mem_append.mp inside with committed | drained
  · obtain ⟨perRequest, read, rfl⟩ := List.mem_map.mp committed
    have located : perRequest.requestId ∈
        ((record.committedRows slotDur).filter fun row =>
          row.scheduledSlot = perRequest.scheduledSlot).map
            PerRequest.requestId :=
      List.mem_map_of_mem (List.mem_filter.mpr ⟨read, decide_eq_true rfl⟩)
    have ranked := (rankedIn_ids_perm perRequest.scheduledSlot).mem_iff.mpr
      ((consistent.ids_perm slotDur perRequest.scheduledSlot).mem_iff.mp
        located)
    rw [← List.zipIdx_map_fst 0 (rankedIn record.finalAssignments
      perRequest.scheduledSlot), List.map_map] at ranked
    obtain ⟨entry, placed, same⟩ := List.mem_map.mp ranked
    have sameId : entry.1.1 = perRequest.requestId := same
    rw [PricedRequest.reprice]
    dsimp only
    rw [← sameId, lookup_reqCost consistent.keyed placed]
    exact ⟨_, rfl, _, _, rfl⟩
  · obtain ⟨request, left, same⟩ := requestId_of_late scheduled drained
    rw [PricedRequest.reprice, same, lookup_reqCost_of_absent consistent.keyed
      (consistent.drained request left)]
    unfold scheduleLateRequests at scheduled
    split at scheduled
    · cases scheduled
      cases drained
    · obtain ⟨fallback, _, rfl⟩ := Option.map_eq_some_iff.mp scheduled
      exact pricedAt_of_lateRows _ drained

/-- Every slot of the output is priced position by position exactly if no
drained request is given the slot of a committed one. -/
theorem slots_priced_once_iff
    (policy : AssignmentPolicy) (carbonForecast : List ℚ) (slotDur : ℚ)
    (record : RunRecord) (rows : List PricedRequest)
    (consistent : record.Consistent)
    (finished : outputRows policy carbonForecast slotDur record = some rows) :
    (∀ slot, PricedOnce slot rows) ↔
      ∀ request ∈ record.remaining,
        ∀ assignment ∈ record.finalAssignments.values,
          lateSlot policy.totalSlots request ≠ assignment.scheduledSlot := by
  constructor
  · intro once request drained assignment stored same
    rcases (pricedOnce_iff consistent finished assignment.scheduledSlot).mp
      (once _) with nobody | nobody
    · have member := mem_assignedTo.mpr ⟨stored, rfl⟩
      rw [List.eq_nil_of_length_eq_zero nobody] at member
      cases member
    · exact List.countP_eq_zero.mp nobody request drained
        (decide_eq_true same)
  · intro apart slot
    refine (pricedOnce_iff consistent finished slot).mpr ?_
    by_contra both
    rw [not_or] at both
    obtain ⟨assignment, inside⟩ :=
      List.exists_mem_of_ne_nil _ (List.ne_nil_of_length_pos
        (Nat.pos_of_ne_zero both.1))
    obtain ⟨request, drained, here⟩ :=
      List.countP_pos_iff.mp (Nat.pos_of_ne_zero both.2)
    obtain ⟨stored, slot_eq⟩ := mem_assignedTo.mp inside
    exact apart request drained assignment stored
      ((of_decide_eq_true here).trans slot_eq.symm)

end Output

/-! ## One committed and one late request -/

/-- The default policy of a horizon of four slots. -/
def fourSlotPolicy : AssignmentPolicy :=
  { Config.default.assignmentPolicy with totalSlots := 4 }

/-- The first request has been committed to slot two. -/
def committedToTwo : Dictionary ℕ Assignment :=
  AList.singleton 1 (.new 1 2 "Fast" 1 5 10 (some 0) (some 3))

/-- The second request is left over, with a deadline. -/
def leftOver (deadlineSlot : ℤ) : RunRecord where
  assignmentRows := [⟨"run", 1, 0, true, 2, "Fast", 5, 1, 0, 3⟩]
  runs := [⟨"run", 1, "optimal", "dp"⟩]
  rolledBackIds := []
  remaining := [.new 0 2 0 deadlineSlot]
  finalAssignments := committedToTwo

theorem leftOver_consistent (deadlineSlot : ℤ) :
    (leftOver deadlineSlot).Consistent := by
  refine ⟨?_, ?_, ?_, ?_⟩
  · intro requestId assignment found
    obtain ⟨rfl, rfl⟩ := Dictionary.lookup_singleton_eq_some_iff.mp found
    rfl
  · intro row member _
    rw [List.mem_singleton.mp member]
    exact ⟨_, Dictionary.lookup_singleton_eq_some_iff.mpr ⟨rfl, rfl⟩, rfl⟩
  · intro requestId present
    obtain ⟨assignment, found⟩ := Dictionary.exists_lookup_of_mem present
    obtain ⟨rfl, _⟩ := Dictionary.lookup_singleton_eq_some_iff.mp found
    exact ⟨_, List.mem_singleton_self _, rfl, rfl⟩
  · intro request member present
    rw [List.mem_singleton.mp member] at present
    obtain ⟨assignment, found⟩ := Dictionary.exists_lookup_of_mem present
    cases (Dictionary.lookup_singleton_eq_some_iff.mp found).1

/-- In a slot of its own, the late request is priced right. -/
theorem late_alone_is_priced_once :
    ∃ rows,
      outputRows fourSlotPolicy [1, 1, 1, 1] 60 (leftOver 1) = some rows ∧
        ∀ slot, PricedOnce slot rows := by
  have some_rows : (outputRows fourSlotPolicy [1, 1, 1, 1] 60
      (leftOver 1)).isSome = true := by
    decide +kernel
  obtain ⟨rows, finished⟩ := Option.isSome_iff_exists.mp some_rows
  refine ⟨rows, finished, ?_⟩
  refine (slots_priced_once_iff fourSlotPolicy [1, 1, 1, 1] 60 (leftOver 1)
    rows (leftOver_consistent 1) finished).mpr ?_
  intro request drained assignment stored
  rw [List.mem_singleton.mp drained]
  obtain ⟨key, found⟩ := Dictionary.mem_values_iff.mp stored
  obtain ⟨_, rfl⟩ := Dictionary.lookup_singleton_eq_some_iff.mp found
  decide

/-- In the slot of the committed request, both are priced at the first
position. -/
theorem late_beside_committed_is_underpriced :
    ¬ ∀ (policy : AssignmentPolicy) (carbonForecast : List ℚ) (slotDur : ℚ)
        (record : RunRecord) (rows : List PricedRequest),
      record.Consistent →
      outputRows policy carbonForecast slotDur record = some rows →
      ∀ slot, PricedOnce slot rows := by
  intro always
  have some_rows : (outputRows fourSlotPolicy [1, 1, 1, 1] 60
      (leftOver 2)).isSome = true := by
    decide +kernel
  obtain ⟨rows, finished⟩ := Option.isSome_iff_exists.mp some_rows
  have once := always fourSlotPolicy [1, 1, 1, 1] 60 (leftOver 2) rows
    (leftOver_consistent 2) finished 2
  have apart := (pricedOnce_iff (leftOver_consistent 2) finished 2).mp once
  revert apart
  decide +kernel

end Nshift

end Carbonshift
