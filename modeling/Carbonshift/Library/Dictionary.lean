import Mathlib.Data.List.AList

/-!
# Finite dictionaries

A dictionary is an association list without repeated keys.  This module adds
the few operations a program performs through an entry of a hash map, and the
facts about the list of stored values on which counting arguments rest.
-/

universe u v w

/-- Finite maps from keys to values. -/
abbrev Dictionary (κ : Type u) (ν : Type v) :=
  AList (fun _ : κ => ν)

namespace Dictionary

variable {κ : Type u} {ν : Type v}

/-- The stored values, in entry order. -/
def values (table : Dictionary κ ν) : List ν :=
  table.entries.map Sigma.snd

/-- The stored key/value pairs, in entry order. -/
def toPairs (table : Dictionary κ ν) : List (κ × ν) :=
  table.entries.map fun entry => (entry.1, entry.2)

@[simp]
theorem values_empty : values (∅ : Dictionary κ ν) = [] := rfl

@[simp]
theorem toPairs_empty : toPairs (∅ : Dictionary κ ν) = [] := rfl

theorem values_eq_map_toPairs (table : Dictionary κ ν) :
    table.values = table.toPairs.map Prod.snd := by
  simp [values, toPairs]

variable [DecidableEq κ]

/-- Look a key up, with a default for an absent key. -/
def getD (table : Dictionary κ ν) (key : κ) (default : ν) : ν :=
  (table.lookup key).getD default

/-- Update the entry of a key in place, starting from a default when the key
is absent. -/
def upsert (table : Dictionary κ ν) (key : κ) (default : ν) (update : ν → ν) :
    Dictionary κ ν :=
  table.insert key (update (table.getD key default))

/-- Update the entry of a key in place; an absent key changes nothing. -/
def adjust (table : Dictionary κ ν) (key : κ) (update : ν → ν) :
    Dictionary κ ν :=
  match table.lookup key with
  | none => table
  | some value => table.insert key (update value)

/-- Collect pairs into a dictionary; the first pair of a key wins. -/
def ofPairs (pairs : List (κ × ν)) : Dictionary κ ν :=
  List.toAList (pairs.map fun pair => ⟨pair.1, pair.2⟩)

@[simp]
theorem getD_empty (key : κ) (default : ν) :
    getD (∅ : Dictionary κ ν) key default = default := rfl

theorem getD_of_lookup {table : Dictionary κ ν} {key : κ} {value : ν}
    (found : table.lookup key = some value) (default : ν) :
    table.getD key default = value := by
  simp [getD, found]

@[simp]
theorem getD_insert (table : Dictionary κ ν) (key : κ) (value default : ν) :
    getD (table.insert key value) key default = value := by
  simp [getD]

theorem getD_insert_of_ne
    {table : Dictionary κ ν} {key other : κ} {value : ν}
    (different : key ≠ other) (default : ν) :
    getD (table.insert other value) key default = table.getD key default := by
  simp [getD, AList.lookup_insert_ne different]

@[simp]
theorem getD_upsert_self
    (table : Dictionary κ ν) (key : κ) (default : ν) (update : ν → ν) :
    (table.upsert key default update).getD key default =
      update (table.getD key default) := by
  simp [upsert]

theorem getD_upsert_of_ne
    {table : Dictionary κ ν} {key other : κ}
    (different : key ≠ other) (default fallback : ν) (update : ν → ν) :
    (table.upsert other fallback update).getD key default =
      table.getD key default := by
  simp [upsert, getD_insert_of_ne different]

theorem lookup_adjust_self
    {table : Dictionary κ ν} {key : κ} (update : ν → ν) :
    (table.adjust key update).lookup key =
      (table.lookup key).map update := by
  unfold adjust
  cases found : table.lookup key with
  | none => simp [found]
  | some value => simp

theorem lookup_adjust_of_ne
    {table : Dictionary κ ν} {key other : κ}
    (different : key ≠ other) (update : ν → ν) :
    (table.adjust other update).lookup key = table.lookup key := by
  unfold adjust
  cases found : table.lookup other with
  | none => rfl
  | some value => exact AList.lookup_insert_ne different

/-- An update that keeps a property of the entry keeps it in the dictionary. -/
theorem exists_lookup_adjust {holds : ν → Prop}
    {table : Dictionary κ ν} {key other : κ} {update : ν → ν}
    (stored : ∃ value, table.lookup key = some value ∧ holds value)
    (keeps : ∀ value, key = other → table.lookup key = some value →
      holds value → holds (update value)) :
    ∃ value, (table.adjust other update).lookup key = some value ∧
      holds value := by
  obtain ⟨value, found, holding⟩ := stored
  by_cases here : key = other
  · refine ⟨update value, ?_, keeps value here found holding⟩
    rw [← here, lookup_adjust_self, found]
    rfl
  · refine ⟨value, ?_, holding⟩
    rw [lookup_adjust_of_ne here, found]

theorem mem_toPairs_iff {table : Dictionary κ ν} {key : κ} {value : ν} :
    (key, value) ∈ table.toPairs ↔ table.lookup key = some value := by
  rw [← Option.mem_def, AList.mem_lookup_iff]
  constructor
  · intro member
    obtain ⟨⟨storedKey, stored⟩, inside, same⟩ := List.mem_map.mp member
    cases same
    exact inside
  · intro inside
    exact List.mem_map.mpr ⟨⟨key, value⟩, inside, rfl⟩

theorem isEmpty_entries_of_lookup
    {table : Dictionary κ ν} {key : κ} {value : ν}
    (found : table.lookup key = some value) :
    table.entries.isEmpty = false := by
  rw [List.isEmpty_eq_false_iff]
  intro empty
  have stored := mem_toPairs_iff.mpr found
  simp [toPairs, empty] at stored

theorem mem_values_iff {table : Dictionary κ ν} {value : ν} :
    value ∈ table.values ↔ ∃ key, table.lookup key = some value := by
  rw [values_eq_map_toPairs, List.mem_map]
  constructor
  · rintro ⟨⟨key, stored⟩, inside, same⟩
    cases same
    exact ⟨key, mem_toPairs_iff.mp inside⟩
  · rintro ⟨key, found⟩
    exact ⟨(key, value), mem_toPairs_iff.mpr found, rfl⟩

@[simp]
theorem lookup_singleton_eq_some_iff {key stored : κ} {value found : ν} :
    AList.lookup key (AList.singleton stored value : Dictionary κ ν) =
        some found ↔
      key = stored ∧ value = found := by
  rw [← mem_toPairs_iff]
  simp only [toPairs, AList.singleton_entries, List.map_cons, List.map_nil,
    List.mem_singleton, Prod.mk.injEq, eq_comm (a := found)]

/-- A dictionary collected from pairs stores one of the pairs at each key. -/
theorem mem_of_lookup_ofPairs
    {pairs : List (κ × ν)} {key : κ} {value : ν}
    (found : (ofPairs pairs).lookup key = some value) :
    (key, value) ∈ pairs := by
  rw [ofPairs, AList.lookup_to_alist] at found
  obtain ⟨⟨storedKey, stored⟩, inside, same⟩ :=
    List.mem_map.mp (List.of_mem_dlookup found)
  cases same
  exact inside

theorem exists_lookup_ofPairs
    {pairs : List (κ × ν)} {key : κ} {value : ν}
    (member : (key, value) ∈ pairs) :
    ∃ stored, (ofPairs pairs).lookup key = some stored := by
  rw [ofPairs, AList.lookup_to_alist]
  refine Option.isSome_iff_exists.mp (List.dlookup_isSome.mpr ?_)
  exact List.mem_map.mpr ⟨⟨key, value⟩, List.mem_map.mpr ⟨_, member, rfl⟩, rfl⟩

theorem values_insert_of_absent
    {table : Dictionary κ ν} {key : κ} (absent : key ∉ table) (value : ν) :
    values (table.insert key value) = value :: table.values := by
  simp only [values, AList.entries_insert_of_notMem absent, List.map_cons]

/-- The entry of a present key, set apart from the others. -/
private theorem exists_split_of_lookup
    {table : Dictionary κ ν} {key : κ} {old : ν}
    (found : table.lookup key = some old) :
    ∃ before after : List (Sigma fun _ : κ => ν),
      table.entries = before ++ ⟨key, old⟩ :: after ∧
        table.entries.kerase key = before ++ after := by
  have present : key ∈ List.keys table.entries :=
    AList.lookup_isSome.mp (by simp [found])
  obtain ⟨stored, before, after, fresh, split, erased⟩ :=
    List.exists_of_kerase present
  have looked : table.lookup key = some stored := by
    rw [AList.lookup, split, List.dlookup_append]
    simp [List.dlookup_eq_none.mpr fresh]
  cases looked.symm.trans found
  exact ⟨before, after, split, erased⟩

/-- Overwriting a present key exchanges exactly one stored value. -/
theorem values_insert_of_lookup
    {table : Dictionary κ ν} {key : κ} {old : ν}
    (found : table.lookup key = some old) (value : ν) :
    ∃ others : List ν,
      table.values.Perm (old :: others) ∧
        values (table.insert key value) = value :: others := by
  obtain ⟨before, after, split, erased⟩ := exists_split_of_lookup found
  refine ⟨(before ++ after).map Sigma.snd, ?_, ?_⟩
  · rw [values, split]
    simp
  · rw [values, AList.entries_insert, erased]
    simp

/-- Erasing a present key drops exactly one stored value. -/
theorem values_erase_of_lookup
    {table : Dictionary κ ν} {key : κ} {old : ν}
    (found : table.lookup key = some old) :
    table.values.Perm (old :: values (table.erase key)) := by
  obtain ⟨before, after, split, erased⟩ := exists_split_of_lookup found
  have rest : values (table.erase key) = (before ++ after).map Sigma.snd := by
    rw [← erased]
    rfl
  rw [rest, values, split]
  simp

/-! ### Lists as values -/

/-- Appending to the list of a key adds one element to all of them. -/
theorem flatten_values_upsert_perm (table : Dictionary κ (List ν)) (key : κ)
    (value : ν) :
    (table.upsert key [] fun stored => stored ++ [value]).values.flatten.Perm
      (value :: table.values.flatten) := by
  unfold upsert
  cases found : table.lookup key with
  | none =>
      have absent : key ∉ table := AList.lookup_eq_none.mp found
      rw [values_insert_of_absent absent, getD, found]
      exact List.Perm.refl _
  | some stored =>
      obtain ⟨others, before, after⟩ :=
        values_insert_of_lookup found (stored ++ [value])
      rw [getD_of_lookup found, after, List.flatten_cons, List.append_assoc]
      refine List.perm_middle.trans (List.Perm.cons value ?_)
      exact (before.flatten).symm

/-- Taking the first element of a list leaves the others. -/
theorem flatten_values_insert_perm {table : Dictionary κ (List ν)} {key : κ}
    {value : ν} {rest : List ν}
    (found : table.lookup key = some (value :: rest)) :
    table.values.flatten.Perm
      (value :: (values (table.insert key rest)).flatten) := by
  obtain ⟨others, before, after⟩ := values_insert_of_lookup found rest
  rw [after]
  exact before.flatten

theorem flatten_values_erase_perm {table : Dictionary κ (List ν)} {key : κ}
    {value : ν} (found : table.lookup key = some [value]) :
    table.values.flatten.Perm
      (value :: (values (table.erase key)).flatten) :=
  (values_erase_of_lookup found).flatten

theorem mem_of_lookup
    {table : Dictionary κ ν} {key : κ} {value : ν}
    (found : table.lookup key = some value) : key ∈ table :=
  AList.lookup_isSome.mp (by simp [found])

theorem exists_lookup_of_mem
    {table : Dictionary κ ν} {key : κ} (present : key ∈ table) :
    ∃ value, table.lookup key = some value :=
  Option.isSome_iff_exists.mp (AList.lookup_isSome.mpr present)

/-- Adjusting an entry keeps the keys in place. -/
theorem keys_adjust_perm
    (table : Dictionary κ ν) (key : κ) (update : ν → ν) :
    (table.adjust key update).keys.Perm table.keys := by
  unfold adjust
  cases found : table.lookup key with
  | none => exact List.Perm.refl _
  | some value =>
      rw [AList.keys_insert]
      exact (List.perm_cons_erase (AList.mem_keys.mp
        (mem_of_lookup found))).symm

/-- Adjusting an entry changes no quantity the update preserves. -/
theorem map_values_adjust_perm {β : Type w} {f : ν → β} {update : ν → ν}
    (preserves : ∀ value, f (update value) = f value)
    (table : Dictionary κ ν) (key : κ) :
    ((table.adjust key update).values.map f).Perm (table.values.map f) := by
  unfold adjust
  cases found : table.lookup key with
  | none => exact List.Perm.refl _
  | some value =>
      obtain ⟨others, before, after⟩ :=
        values_insert_of_lookup found (update value)
      dsimp only
      rw [after, List.map_cons, preserves, ← List.map_cons]
      exact (before.map f).symm

theorem mem_adjust_iff
    {table : Dictionary κ ν} {key other : κ} {update : ν → ν} :
    key ∈ table.adjust other update ↔ key ∈ table :=
  AList.mem_keys.trans
    ((keys_adjust_perm table other update).mem_iff.trans AList.mem_keys.symm)

/-! ### Inserting many entries -/

theorem lookup_foldl_insert_of_absent
    {entries : List (κ × ν)} {key : κ}
    (absent : key ∉ entries.map Prod.fst) (table : Dictionary κ ν) :
    (entries.foldl (fun table entry => table.insert entry.1 entry.2)
      table).lookup key = table.lookup key := by
  induction entries generalizing table with
  | nil => rfl
  | cons entry rest inductionHypothesis =>
      rw [List.map_cons, List.mem_cons, not_or] at absent
      rw [List.foldl_cons, inductionHypothesis absent.2,
        AList.lookup_insert_ne absent.1]

/-- Entries with distinct keys are all there afterwards. -/
theorem lookup_foldl_insert
    {entries : List (κ × ν)} (distinct : (entries.map Prod.fst).Nodup)
    {key : κ} {value : ν} (member : (key, value) ∈ entries)
    (table : Dictionary κ ν) :
    (entries.foldl (fun table entry => table.insert entry.1 entry.2)
      table).lookup key = some value := by
  induction entries generalizing table with
  | nil => cases member
  | cons entry rest inductionHypothesis =>
      rw [List.map_cons, List.nodup_cons] at distinct
      rw [List.foldl_cons]
      rcases List.mem_cons.mp member with rfl | later
      · rw [lookup_foldl_insert_of_absent distinct.1, AList.lookup_insert]
      · exact inductionHypothesis distinct.2 later _

end Dictionary
