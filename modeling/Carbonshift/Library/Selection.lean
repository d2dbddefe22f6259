import Mathlib.Data.List.MinMax
import Mathlib.Data.List.Nodup
import Mathlib.Data.List.Sort

/-!
# Selected entries of a list

A filter may come before or after a stable sort or the choice of a least
entry.  Groups that are selected one after another are the selection of all of
them.
-/

universe u v

namespace List

variable {α : Type u}

/-! ## Stable sorting -/

section Sorting

variable {r : α → α → Prop} [DecidableRel r] [IsTrans α r]

theorem filter_orderedInsert (keep : α → Bool) (value : α) {values : List α}
    (sorted : values.Pairwise r) :
    (values.orderedInsert r value).filter keep =
      if keep value then (values.filter keep).orderedInsert r value
      else values.filter keep := by
  induction values with
  | nil => rw [orderedInsert_nil, filter_cons, filter_nil, orderedInsert_nil]
  | cons head tail inductionHypothesis =>
      have rest := inductionHypothesis (pairwise_cons.mp sorted).2
      by_cases before : r value head
      · have ahead : ∀ other ∈ (head :: tail).filter keep, r value other := by
          intro other member
          rcases mem_cons.mp (mem_filter.mp member).1 with rfl | later
          · exact before
          · exact IsTrans.trans _ _ _ before
              ((pairwise_cons.mp sorted).1 other later)
        rw [orderedInsert_cons_of_le r tail before, filter_cons]
        refine if_congr Iff.rfl ?_ rfl
        cases remaining : (head :: tail).filter keep with
        | nil => rw [orderedInsert_nil]
        | cons first others =>
            rw [orderedInsert_cons_of_le]
            exact ahead first (remaining ▸ mem_cons_self)
      · rw [orderedInsert_of_not_le r tail before, filter_cons, filter_cons,
          rest]
        by_cases first : keep head = true
        · rw [if_pos first, if_pos first]
          by_cases kept : keep value = true
          · rw [if_pos kept, if_pos kept, orderedInsert_of_not_le r _ before]
          · rw [if_neg kept, if_neg kept]
        · rw [if_neg first, if_neg first]

/-- Sorting keeps the order of equal entries, so a filter may come first. -/
theorem filter_insertionSort [Std.Total r] (keep : α → Bool)
    (values : List α) :
    (values.insertionSort r).filter keep =
      (values.filter keep).insertionSort r := by
  induction values with
  | nil => rfl
  | cons head tail inductionHypothesis =>
      rw [insertionSort_cons,
        filter_orderedInsert keep head (pairwise_insertionSort r tail),
        inductionHypothesis, filter_cons]
      by_cases kept : keep head = true
      · rw [if_pos kept, if_pos kept, insertionSort_cons]
      · rw [if_neg kept, if_neg kept]

end Sorting

/-! ## Least entries -/

/-- A filter that keeps whatever is below a kept entry keeps the least entry,
or nothing. -/
theorem argmin_filter {γ : Type v} [LinearOrder γ] {f : α → γ}
    {keep : α → Bool}
    (lower : ∀ {value other}, f other ≤ f value → keep value = true →
      keep other = true)
    (values : List α) :
    (values.filter keep).argmin f = (values.argmin f).filter keep := by
  induction values using List.reverseRecOn with
  | nil => rfl
  | append_singleton earlier last inductionHypothesis =>
      rw [filter_append, argmin_concat, filter_singleton]
      cases least : earlier.argmin f with
      | none =>
          rw [argmin_eq_none.mp least, filter_nil, nil_append]
          cases kept : keep last with
          | false => exact (Option.filter_some_neg kept).symm
          | true => exact (Option.filter_some_pos kept).symm
      | some value =>
          rw [least] at inductionHypothesis
          dsimp only
          cases kept : keep last with
          | false =>
              rw [cond_false, append_nil, inductionHypothesis]
              split_ifs with smaller
              · have dropped : keep value = false :=
                  Bool.eq_false_of_not_eq_true fun stays => by
                    rw [lower smaller.le stays] at kept
                    cases kept
                rw [Option.filter_some_neg kept, Option.filter_some_neg dropped]
              · rfl
          | true =>
              rw [cond_true, argmin_concat, inductionHypothesis]
              cases stays : keep value with
              | false =>
                  have smaller : f last < f value :=
                    lt_of_not_ge fun above => by
                      rw [lower above kept] at stays
                      cases stays
                  rw [Option.filter_some_neg stays, if_pos smaller,
                    Option.filter_some_pos kept]
              | true =>
                  rw [Option.filter_some_pos stays]
                  dsimp only
                  split_ifs with smaller
                  · exact (Option.filter_some_pos kept).symm
                  · exact (Option.filter_some_pos stays).symm

/-! ## Groups -/

/-- Groups of distinct keys, one after another, hold what is in one of them. -/
theorem flatMap_filter_perm {κ : Type v} [DecidableEq κ] (group : α → κ)
    (items : List α) {keys : List κ} (distinct : keys.Nodup) :
    (keys.flatMap fun key =>
      items.filter fun item => decide (group item = key)).Perm
        (items.filter fun item => decide (group item ∈ keys)) := by
  induction keys with
  | nil => simp
  | cons key rest inductionHypothesis =>
      obtain ⟨absent, distinctRest⟩ := nodup_cons.mp distinct
      have own :
          (items.filter fun item =>
            decide (group item ∈ key :: rest)).filter
              (fun item => decide (group item = key)) =
            items.filter fun item => decide (group item = key) := by
        rw [filter_filter]
        refine filter_congr fun item _ => ?_
        by_cases same : group item = key
        · simp [same]
        · simp [same]
      have others :
          (items.filter fun item =>
            decide (group item ∈ key :: rest)).filter
              (fun item => !decide (group item = key)) =
            items.filter fun item => decide (group item ∈ rest) := by
        rw [filter_filter]
        refine filter_congr fun item _ => ?_
        by_cases same : group item = key
        · simp [same, absent]
        · simp [same]
      rw [flatMap_cons]
      refine ((inductionHypothesis distinctRest).append_left _).trans ?_
      rw [← own, ← others]
      exact filter_append_perm _ _

end List
