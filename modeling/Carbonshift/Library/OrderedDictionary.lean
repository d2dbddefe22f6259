import Mathlib.Data.List.Nodup

/-!
# Dictionaries in insertion order

A new key goes to the end, an assignment to a known key leaves it in its
place.  Iteration follows the order in which the keys were first assigned.
-/

universe u v

/-- Key/value pairs without repeated keys, oldest first. -/
structure OrderedDictionary (κ : Type u) (ν : Type v) where
  pairs : List (κ × ν)
  distinct : (pairs.map Prod.fst).Nodup

namespace OrderedDictionary

variable {κ : Type u} {ν : Type v}

def keys (table : OrderedDictionary κ ν) : List κ :=
  table.pairs.map Prod.fst

instance : EmptyCollection (OrderedDictionary κ ν) :=
  ⟨⟨[], List.nodup_nil⟩⟩

variable [DecidableEq κ]

def lookup (table : OrderedDictionary κ ν) (key : κ) : Option ν :=
  table.pairs.lookup key

/-- Change the value of a key; an absent key changes nothing. -/
def adjust (table : OrderedDictionary κ ν) (key : κ) (update : ν → ν) :
    OrderedDictionary κ ν where
  pairs := table.pairs.map fun pair =>
    if pair.1 = key then (pair.1, update pair.2) else pair
  distinct := by
    have same : (table.pairs.map fun pair =>
        if pair.1 = key then (pair.1, update pair.2) else pair).map
          Prod.fst = table.pairs.map Prod.fst := by
      rw [List.map_map]
      refine List.map_congr_left fun pair _ => ?_
      rw [Function.comp_apply]
      split <;> rfl
    rw [same]
    exact table.distinct

/-- Assign a value to a key. -/
def insert (table : OrderedDictionary κ ν) (key : κ) (value : ν) :
    OrderedDictionary κ ν :=
  if known : key ∈ table.keys then
    table.adjust key fun _ => value
  else
    { pairs := table.pairs ++ [(key, value)]
      distinct := by
        rw [List.map_append, List.nodup_append']
        refine ⟨table.distinct, List.nodup_singleton _, ?_⟩
        intro other earlier last
        have same : other = key := List.mem_singleton.mp last
        exact known (same ▸ earlier) }

@[simp]
theorem keys_adjust (table : OrderedDictionary κ ν) (key : κ)
    (update : ν → ν) : (table.adjust key update).keys = table.keys := by
  rw [keys, adjust, List.map_map, keys]
  refine List.map_congr_left fun pair _ => ?_
  rw [Function.comp_apply]
  split <;> rfl

theorem mem_keys_insert_iff {table : OrderedDictionary κ ν} {key other : κ}
    {value : ν} :
    other ∈ (table.insert key value).keys ↔
      other ∈ table.keys ∨ other = key := by
  unfold insert
  split
  · rename_i known
    rw [keys_adjust]
    constructor
    · exact Or.inl
    · rintro (member | rfl)
      · exact member
      · exact known
  · rw [keys, List.map_append, List.mem_append, List.map_singleton,
      List.mem_singleton, keys]

@[simp]
theorem lookup_empty (key : κ) :
    (∅ : OrderedDictionary κ ν).lookup key = none := rfl

theorem mem_pairs_iff {table : OrderedDictionary κ ν} {key : κ} {value : ν} :
    (key, value) ∈ table.pairs ↔ table.lookup key = some value := by
  obtain ⟨pairs, distinct⟩ := table
  change (key, value) ∈ pairs ↔ pairs.lookup key = some value
  induction pairs with
  | nil => simp
  | cons pair rest inductionHypothesis =>
      obtain ⟨first, stored⟩ := pair
      rw [List.map_cons, List.nodup_cons] at distinct
      rw [List.mem_cons, List.lookup_cons]
      by_cases same : key = first
      · subst same
        rw [beq_self_eq_true, Prod.mk.injEq]
        constructor
        · rintro (⟨-, rfl⟩ | later)
          · rfl
          · exact absurd (List.mem_map_of_mem later) distinct.1
        · intro found
          exact Or.inl ⟨rfl, (Option.some.inj found).symm⟩
      · rw [beq_eq_false_iff_ne.mpr same,
          ← inductionHypothesis distinct.2, Prod.mk.injEq]
        constructor
        · rintro (⟨equal, -⟩ | later)
          · exact absurd equal same
          · exact later
        · exact Or.inr

theorem lookup_eq_none_iff {table : OrderedDictionary κ ν} {key : κ} :
    table.lookup key = none ↔ key ∉ table.keys := by
  constructor
  · intro absent member
    obtain ⟨⟨_, value⟩, stored, rfl⟩ := List.mem_map.mp member
    rw [mem_pairs_iff.mp stored] at absent
    cases absent
  · intro unknown
    cases found : table.lookup key with
    | none => rfl
    | some value =>
        exact absurd (List.mem_map_of_mem (mem_pairs_iff.mpr found)) unknown

theorem mem_keys_of_lookup {table : OrderedDictionary κ ν} {key : κ}
    {value : ν} (found : table.lookup key = some value) :
    key ∈ table.keys :=
  List.mem_map_of_mem (mem_pairs_iff.mpr found)

@[simp]
theorem lookup_adjust_self (table : OrderedDictionary κ ν) (key : κ)
    (update : ν → ν) :
    (table.adjust key update).lookup key =
      (table.lookup key).map update := by
  obtain ⟨pairs, distinct⟩ := table
  change (pairs.map _).lookup key = (pairs.lookup key).map update
  clear distinct
  induction pairs with
  | nil => rfl
  | cons pair rest inductionHypothesis =>
      obtain ⟨first, stored⟩ := pair
      rw [List.map_cons]
      by_cases same : first = key
      · subst same
        simp
      · have different : (key == first) = false :=
          beq_eq_false_iff_ne.mpr (Ne.symm same)
        simp only [same, if_false, List.lookup_cons, different]
        exact inductionHypothesis

theorem lookup_adjust_of_ne (table : OrderedDictionary κ ν) {key other : κ}
    (update : ν → ν) (different : other ≠ key) :
    (table.adjust key update).lookup other = table.lookup other := by
  obtain ⟨pairs, distinct⟩ := table
  change (pairs.map _).lookup other = pairs.lookup other
  clear distinct
  induction pairs with
  | nil => rfl
  | cons pair rest inductionHypothesis =>
      obtain ⟨first, stored⟩ := pair
      rw [List.map_cons, List.lookup_cons, List.lookup_cons,
        inductionHypothesis]
      by_cases same : first = key
      · subst same
        simp [beq_eq_false_iff_ne.mpr different]
      · simp only [same, if_false]

/-- Only the stored value matters to a change. -/
theorem adjust_eq_of_lookup {table : OrderedDictionary κ ν} {key : κ}
    {value : ν} (found : table.lookup key = some value) (update : ν → ν) :
    table.adjust key update = table.adjust key fun _ => update value := by
  unfold adjust
  congr 1
  refine List.map_congr_left fun pair member => ?_
  obtain ⟨first, stored⟩ := pair
  by_cases same : first = key
  · subst same
    have equal : stored = value :=
      Option.some.inj ((mem_pairs_iff.mp member).symm.trans found)
    rw [equal]
  · rw [if_neg same, if_neg same]

@[simp]
theorem lookup_insert_self (table : OrderedDictionary κ ν) (key : κ)
    (value : ν) : (table.insert key value).lookup key = some value := by
  unfold insert
  split
  · rename_i known
    rw [lookup_adjust_self]
    cases found : table.lookup key with
    | none => exact absurd known (lookup_eq_none_iff.mp found)
    | some old => rfl
  · rename_i unknown
    have absent := lookup_eq_none_iff.mpr unknown
    exact mem_pairs_iff.mp (List.mem_append_right _ List.mem_cons_self)

theorem lookup_insert_of_ne (table : OrderedDictionary κ ν) {key other : κ}
    (value : ν) (different : other ≠ key) :
    (table.insert key value).lookup other = table.lookup other := by
  unfold insert
  split
  · exact lookup_adjust_of_ne table _ different
  · refine Option.ext fun found => ?_
    rw [← mem_pairs_iff, ← mem_pairs_iff, List.mem_append,
      List.mem_singleton, Prod.mk.injEq]
    constructor
    · rintro (earlier | ⟨equal, -⟩)
      · exact earlier
      · exact absurd equal different
    · exact Or.inl

end OrderedDictionary
