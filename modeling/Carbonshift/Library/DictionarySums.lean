import Carbonshift.Library.Dictionary
import Mathlib.Algebra.BigOperators.Group.List.Basic

/-!
# Sums over a dictionary

How the sum of a quantity over the stored values changes with one entry.
-/

universe u v w

namespace Dictionary

variable {κ : Type u} {ν : Type v} {M : Type w} [DecidableEq κ]
variable [AddCommMonoid M]

theorem sum_map_insert_of_lookup
    {table : Dictionary κ ν} {key : κ} {old : ν}
    (found : table.lookup key = some old) (f : ν → M) (value : ν) :
    ((values (table.insert key value)).map f).sum + f old =
      (table.values.map f).sum + f value := by
  obtain ⟨others, before, after⟩ := values_insert_of_lookup found value
  rw [after, (before.map f).sum_eq, List.map_cons, List.map_cons,
    List.sum_cons, List.sum_cons]
  ac_rfl

theorem sum_map_insert_of_absent
    {table : Dictionary κ ν} {key : κ} (absent : key ∉ table) (f : ν → M)
    (value : ν) :
    ((values (table.insert key value)).map f).sum =
      f value + (table.values.map f).sum := by
  rw [values_insert_of_absent absent, List.map_cons, List.sum_cons]

/-- An absent entry counts as its default, which must be worth nothing. -/
theorem sum_map_upsert
    {f : ν → M} {default : ν} (worthless : f default = 0)
    (table : Dictionary κ ν) (key : κ) (update : ν → ν) :
    ((table.upsert key default update).values.map f).sum +
        f (table.getD key default) =
      (table.values.map f).sum + f (update (table.getD key default)) := by
  unfold upsert
  cases found : table.lookup key with
  | none =>
      have absent : key ∉ table := AList.lookup_eq_none.mp found
      have missing : table.getD key default = default := by
        simp [getD, found]
      rw [sum_map_insert_of_absent absent, missing, worthless, add_zero,
        add_comm]
  | some old =>
      rw [getD_of_lookup found]
      exact sum_map_insert_of_lookup found f (update old)

theorem sum_map_adjust
    {table : Dictionary κ ν} {key : κ} {old : ν}
    (found : table.lookup key = some old) (f : ν → M) (update : ν → ν) :
    ((table.adjust key update).values.map f).sum + f old =
      (table.values.map f).sum + f (update old) := by
  unfold adjust
  rw [found]
  exact sum_map_insert_of_lookup found f (update old)

theorem getD_adjust_self
    {table : Dictionary κ ν} {key : κ} {old : ν}
    (found : table.lookup key = some old) (update : ν → ν) (default : ν) :
    (table.adjust key update).getD key default = update old := by
  rw [getD, lookup_adjust_self, found]
  rfl

omit [AddCommMonoid M] in
/-- Adjusting an entry changes no quantity the update preserves. -/
theorem map_getD_adjust {f : ν → M} {update : ν → ν}
    (preserves : ∀ value, f (update value) = f value)
    (table : Dictionary κ ν) (key other : κ) (default : ν) :
    f ((table.adjust other update).getD key default) =
      f (table.getD key default) := by
  by_cases here : key = other
  · subst here
    rw [getD, lookup_adjust_self, getD]
    cases table.lookup key with
    | none => rfl
    | some value => exact preserves value
  · rw [getD, lookup_adjust_of_ne here, getD]

theorem getD_adjust_of_ne
    {table : Dictionary κ ν} {key other : κ} (different : key ≠ other)
    (update : ν → ν) (default : ν) :
    (table.adjust other update).getD key default = table.getD key default := by
  rw [getD, lookup_adjust_of_ne different, getD]

omit [AddCommMonoid M] in
/-- The stored values, looked up key by key. -/
theorem map_values_eq_map_keys
    (table : Dictionary κ ν) (f : ν → M) (default : ν) :
    table.values.map f =
      table.keys.map fun key => f (table.getD key default) := by
  rw [values, AList.keys, List.keys, List.map_map, List.map_map]
  refine List.map_congr_left fun entry member => ?_
  have found : table.lookup entry.1 = some entry.2 :=
    AList.mem_lookup_iff.mpr member
  exact congrArg f (getD_of_lookup found default).symm

end Dictionary

/-- Sums per group add up to the sum over all groups. -/
theorem List.sum_map_sum_groups {α : Type u} {κ : Type v} {G : Type w}
    [AddCommGroup G] [DecidableEq κ]
    (group : α → κ) (f : α → G) {keys : List κ} (distinct : keys.Nodup)
    {items : List α} (covered : ∀ item ∈ items, group item ∈ keys) :
    (keys.map fun key =>
        (items.map fun item => if group item = key then f item else 0).sum).sum =
      (items.map f).sum := by
  induction items with
  | nil => simp
  | cons item rest inductionHypothesis =>
      have once : keys.count (group item) = 1 :=
        List.count_eq_one_of_mem distinct (covered item List.mem_cons_self)
      have own :
          (keys.map fun key => if group item = key then f item else 0).sum =
            f item := by
        simp only [eq_comm (a := group item)]
        rw [List.sum_map_ite_eq, once, one_nsmul]
        simp
      simp only [List.map_cons, List.sum_cons, List.sum_map_add, own]
      rw [inductionHypothesis fun other member =>
        covered other (List.mem_cons_of_mem _ member)]
