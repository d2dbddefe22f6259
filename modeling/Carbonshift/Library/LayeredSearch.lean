import Carbonshift.Library.Dictionary
import Mathlib.Algebra.Order.Monoid.Defs
import Mathlib.Data.List.Forall2
import Mathlib.Tactic.GCongr

/-!
# Layered dynamic programming

A layered search extends every kept partial solution by every option of the
next stage and merges the solutions that reach the same key, keeping a
cheapest one.  The key decides which key an option leads to and what the
option costs, so one representative per key is enough.

The module is generic in the keys, the options, the recorded trace entries
and the ordered cost monoid.  `Sound` says that a layer holds only real
partial solutions, `Covers` that a layer is at least as cheap at a key as a
given cost; a full expansion preserves both, and a layer that lost entries
keeps the first one.
-/

universe u v w x

/-- What one option does to a key, what it costs there, and what is recorded
for it. -/
structure LayeredSearch
    (κ : Type u) (χ : Type v) (π : Type w) (C : Type x) where
  next : κ → χ → κ
  price : κ → χ → C
  record : κ → χ → π

/-- A layer maps each reached key to the cost and the trace of one solution. -/
abbrev SearchLayer
    (κ : Type u) (π : Type w) (C : Type x) :=
  Dictionary κ (C × List π)

namespace LayeredSearch

variable {κ : Type u} {χ : Type v} {π : Type w} {C : Type x}

section Solutions

variable (search : LayeredSearch κ χ π C)

/-- The key reached by a sequence of options. -/
def target (start : κ) (options : List χ) : κ :=
  options.foldl search.next start

/-- The entries recorded along a sequence of options. -/
def trace : κ → List χ → List π
  | _, [] => []
  | key, option :: options =>
      search.record key option :: trace (search.next key option) options

/-- The keys reached after each option of a sequence. -/
def visited : κ → List χ → List κ
  | _, [] => []
  | key, option :: options =>
      search.next key option :: visited (search.next key option) options

/-- The accumulated cost of a sequence of options. -/
def total [AddCommMonoid C] : κ → List χ → C
  | _, [] => 0
  | key, option :: options =>
      search.price key option + total (search.next key option) options

/-- One option of every stage, in stage order. -/
def Admissible (stages : List (List χ)) (options : List χ) : Prop :=
  List.Forall₂ (fun stage option => option ∈ stage) stages options

@[simp]
theorem target_nil (start : κ) : search.target start [] = start := rfl

@[simp]
theorem target_cons (start : κ) (option : χ) (options : List χ) :
    search.target start (option :: options) =
      search.target (search.next start option) options := rfl

theorem target_concat (start : κ) (options : List χ) (option : χ) :
    search.target start (options ++ [option]) =
      search.next (search.target start options) option := by
  simp [target]

theorem trace_concat (start : κ) (options : List χ) (option : χ) :
    search.trace start (options ++ [option]) =
      search.trace start options ++
        [search.record (search.target start options) option] := by
  induction options generalizing start with
  | nil => rfl
  | cons head tail inductionHypothesis =>
      simp only [List.cons_append, trace, target_cons,
        inductionHypothesis]

@[simp]
theorem length_trace (start : κ) (options : List χ) :
    (search.trace start options).length = options.length := by
  induction options generalizing start with
  | nil => rfl
  | cons head tail inductionHypothesis =>
      simp [trace, inductionHypothesis]

/-- Position `index` of the visited keys, the start included, is the key
reached by the first `index` options. -/
theorem getElem?_visited (start : κ) (options : List χ) {index : ℕ}
    (inside : index ≤ options.length) :
    (start :: search.visited start options)[index]? =
      some (search.target start (options.take index)) := by
  induction options generalizing start index with
  | nil =>
      cases Nat.le_zero.mp inside
      rfl
  | cons option rest inductionHypothesis =>
      cases index with
      | zero => rfl
      | succ earlier =>
          rw [visited, List.getElem?_cons_succ,
            inductionHypothesis (search.next start option)
              (Nat.le_of_succ_le_succ inside),
            List.take_succ_cons, target_cons]

theorem getLast?_visited (start : κ) (options : List χ) :
    (start :: search.visited start options).getLast? =
      some (search.target start options) := by
  induction options generalizing start with
  | nil => rfl
  | cons option rest inductionHypothesis =>
      rw [visited, List.getLast?_cons_cons, inductionHypothesis, target_cons]

theorem total_concat [AddCommMonoid C]
    (start : κ) (options : List χ) (option : χ) :
    search.total start (options ++ [option]) =
      search.total start options +
        search.price (search.target start options) option := by
  induction options generalizing start with
  | nil => simp [total]
  | cons head tail inductionHypothesis =>
      simp only [List.cons_append, total, target_cons,
        inductionHypothesis, add_assoc]

/-- When every recorded entry carries its price, the cost of a solution can
be read off its trace. -/
theorem total_eq_sum_trace [AddCommMonoid C]
    {cost : π → C}
    (carried : ∀ key option,
      cost (search.record key option) = search.price key option)
    (start : κ) (options : List χ) :
    search.total start options =
      ((search.trace start options).map cost).sum := by
  induction options generalizing start with
  | nil => rfl
  | cons head tail inductionHypothesis =>
      simp [total, trace, carried, inductionHypothesis]

theorem admissible_concat_iff
    {stages : List (List χ)} {stage : List χ} {options : List χ} :
    Admissible (stages ++ [stage]) options ↔
      ∃ earlier option,
        options = earlier ++ [option] ∧
          Admissible stages earlier ∧ option ∈ stage := by
  constructor
  · intro admissible
    induction stages generalizing options with
    | nil =>
        cases admissible with
        | @cons _ option _ rest member empty =>
            cases empty
            exact ⟨[], option, rfl, .nil, member⟩
    | cons first others inductionHypothesis =>
        cases admissible with
        | @cons _ option _ rest member remaining =>
            obtain ⟨earlier, last, rfl, before, inside⟩ :=
              inductionHypothesis remaining
            exact ⟨option :: earlier, last, rfl, .cons member before, inside⟩
  · rintro ⟨earlier, option, rfl, before, member⟩
    exact List.rel_append before (List.Forall₂.cons member .nil)

end Solutions

/-! ## Layers -/

section Layers

variable [DecidableEq κ]

/-- Offer one more solution to a layer: it enters at a new key, and replaces
the kept solution of its key only when it is strictly cheaper. -/
def relax [LT C] [DecidableLT C]
    (layer : SearchLayer κ π C) (key : κ) (cost : C) (path : List π) :
    SearchLayer κ π C :=
  match layer.lookup key with
  | none => layer.insert key (cost, path)
  | some kept =>
      if cost < kept.1 then
        layer.insert key (cost, path)
      else
        layer

/-- Extend one kept solution by every option of a stage. -/
def extend [LT C] [DecidableLT C] [Add C]
    (search : LayeredSearch κ χ π C) (stage : List χ)
    (layer : SearchLayer κ π C) (entry : κ × C × List π) :
    SearchLayer κ π C :=
  stage.foldl
    (fun grown option =>
      relax grown (search.next entry.1 option)
        (entry.2.1 + search.price entry.1 option)
        (entry.2.2 ++ [search.record entry.1 option]))
    layer

/-- Build the next layer from the kept solutions, in any order. -/
def expand [LT C] [DecidableLT C] [Add C]
    (search : LayeredSearch κ χ π C) (stage : List χ)
    (entries : List (κ × C × List π)) : SearchLayer κ π C :=
  entries.foldl (search.extend stage) ∅

/-- The layer reaches a key at no more than a given cost. -/
def Covers [LE C]
    (layer : SearchLayer κ π C) (key : κ) (cost : C) : Prop :=
  ∃ kept, layer.lookup key = some kept ∧ kept.1 ≤ cost

/-- Every kept entry is the cost and trace of a real partial solution. -/
def Sound [AddCommMonoid C]
    (search : LayeredSearch κ χ π C) (start : κ)
    (stages : List (List χ)) (layer : SearchLayer κ π C) : Prop :=
  ∀ key kept, layer.lookup key = some kept →
    ∃ options,
      Admissible stages options ∧
        search.target start options = key ∧
        search.total start options = kept.1 ∧
        search.trace start options = kept.2

/-- No partial solution is cheaper than the kept one of its key. -/
def Complete [AddCommMonoid C] [LE C]
    (search : LayeredSearch κ χ π C) (start : κ)
    (stages : List (List χ)) (layer : SearchLayer κ π C) : Prop :=
  ∀ options, Admissible stages options →
    Covers layer (search.target start options) (search.total start options)

/-- The layer that holds only the start, at cost zero. -/
theorem sound_singleton [AddCommMonoid C]
    {search : LayeredSearch κ χ π C} {start : κ} :
    search.Sound start [] (AList.singleton start (0, [])) := by
  intro key kept found
  obtain ⟨rfl, rfl⟩ := Dictionary.lookup_singleton_eq_some_iff.mp found
  exact ⟨[], .nil, rfl, rfl, rfl⟩

theorem Sound.of_lookup_subset [AddCommMonoid C]
    {search : LayeredSearch κ χ π C} {start : κ} {stages : List (List χ)}
    {layer smaller : SearchLayer κ π C}
    (sound : search.Sound start stages layer)
    (kept : ∀ key entry,
      smaller.lookup key = some entry → layer.lookup key = some entry) :
    search.Sound start stages smaller :=
  fun key entry found => sound key entry (kept key entry found)

section Relaxation

variable [LinearOrder C]

theorem lookup_relax_of_ne
    {layer : SearchLayer κ π C} {key other : κ} (different : key ≠ other)
    (cost : C) (path : List π) :
    (relax layer other cost path).lookup key = layer.lookup key := by
  unfold relax
  cases found : layer.lookup other with
  | none => exact AList.lookup_insert_ne different
  | some kept =>
      dsimp only
      split
      · exact AList.lookup_insert_ne different
      · rfl

/-- After an offer the key holds the offer or what it held before. -/
theorem lookup_relax_self
    (layer : SearchLayer κ π C) (key : κ) (cost : C) (path : List π) :
    (relax layer key cost path).lookup key = some (cost, path) ∨
      ((relax layer key cost path).lookup key = layer.lookup key ∧
        ∃ kept, layer.lookup key = some kept ∧ kept.1 ≤ cost) := by
  unfold relax
  cases found : layer.lookup key with
  | none => exact Or.inl (AList.lookup_insert layer)
  | some kept =>
      dsimp only
      split
      · exact Or.inl (AList.lookup_insert layer)
      · rename_i notCheaper
        exact Or.inr ⟨found, kept, rfl, not_lt.mp notCheaper⟩

theorem covers_relax_self
    (layer : SearchLayer κ π C) (key : κ) (cost : C) (path : List π) :
    Covers (relax layer key cost path) key cost := by
  rcases lookup_relax_self layer key cost path with
    offered | ⟨unchanged, kept, found, bound⟩
  · exact ⟨(cost, path), offered, le_rfl⟩
  · exact ⟨kept, unchanged.trans found, bound⟩

theorem Covers.relax
    {layer : SearchLayer κ π C} {key : κ} {bound : C}
    (covers : Covers layer key bound)
    (other : κ) (cost : C) (path : List π) :
    Covers (LayeredSearch.relax layer other cost path) key bound := by
  obtain ⟨kept, found, small⟩ := covers
  by_cases same : key = other
  · subst same
    unfold LayeredSearch.relax
    rw [found]
    dsimp only
    split
    · rename_i cheaper
      exact ⟨(cost, path), AList.lookup_insert layer,
        cheaper.le.trans small⟩
    · exact ⟨kept, found, small⟩
  · exact ⟨kept, (lookup_relax_of_ne same cost path).trans found, small⟩

end Relaxation

section Expansion

variable [AddCommMonoid C] [LinearOrder C]
variable (search : LayeredSearch κ χ π C)

theorem Covers.extend
    {layer : SearchLayer κ π C} {key : κ} {bound : C}
    (covers : Covers layer key bound)
    (stage : List χ) (entry : κ × C × List π) :
    Covers (search.extend stage layer entry) key bound := by
  unfold LayeredSearch.extend
  induction stage generalizing layer with
  | nil => exact covers
  | cons option options inductionHypothesis =>
      exact inductionHypothesis (covers.relax _ _ _)

theorem covers_extend
    (layer : SearchLayer κ π C) {stage : List χ} {option : χ}
    (member : option ∈ stage) (entry : κ × C × List π) :
    Covers (search.extend stage layer entry)
      (search.next entry.1 option)
      (entry.2.1 + search.price entry.1 option) := by
  induction stage generalizing layer with
  | nil => cases member
  | cons head tail inductionHypothesis =>
      rcases List.mem_cons.mp member with same | later
      · subst same
        exact Covers.extend search (covers_relax_self layer _ _ _) tail entry
      · exact inductionHypothesis _ later

private theorem Covers.foldlExtend
    {layer : SearchLayer κ π C} {key : κ} {bound : C}
    (covers : Covers layer key bound)
    (stage : List χ) (entries : List (κ × C × List π)) :
    Covers (entries.foldl (search.extend stage) layer) key bound := by
  induction entries generalizing layer with
  | nil => exact covers
  | cons head tail inductionHypothesis =>
      exact inductionHypothesis (covers.extend search stage head)

/-- Every option of every visited entry is accounted for. -/
theorem covers_expand
    {stage : List χ} {entries : List (κ × C × List π)}
    {entry : κ × C × List π} (visited : entry ∈ entries)
    {option : χ} (member : option ∈ stage) :
    Covers (search.expand stage entries)
      (search.next entry.1 option)
      (entry.2.1 + search.price entry.1 option) := by
  obtain ⟨before, after, rfl⟩ := List.append_of_mem visited
  simp only [expand, List.foldl_append, List.foldl_cons]
  exact (covers_extend search _ member entry).foldlExtend search stage after

/-- An expansion only offers one-option extensions of visited entries. -/
theorem lookup_expand
    {stage : List χ} {entries : List (κ × C × List π)}
    {key : κ} {kept : C × List π}
    (found : (search.expand stage entries).lookup key = some kept) :
    ∃ entry ∈ entries, ∃ option ∈ stage,
      search.next entry.1 option = key ∧
        kept = (entry.2.1 + search.price entry.1 option,
          entry.2.2 ++ [search.record entry.1 option]) := by
  let Offered : SearchLayer κ π C → Prop := fun layer =>
    ∀ key kept, layer.lookup key = some kept →
      ∃ entry ∈ entries, ∃ option ∈ stage,
        search.next entry.1 option = key ∧
          kept = (entry.2.1 + search.price entry.1 option,
            entry.2.2 ++ [search.record entry.1 option])
  have relaxed :
      ∀ layer, Offered layer → ∀ entry ∈ entries, ∀ option ∈ stage,
        Offered (relax layer (search.next entry.1 option)
          (entry.2.1 + search.price entry.1 option)
          (entry.2.2 ++ [search.record entry.1 option])) := by
    intro layer offered entry visited option member key kept found
    by_cases same : key = search.next entry.1 option
    · subst same
      rcases lookup_relax_self layer (search.next entry.1 option)
          (entry.2.1 + search.price entry.1 option)
          (entry.2.2 ++ [search.record entry.1 option]) with
        fresh | ⟨unchanged, _⟩
      · exact ⟨entry, visited, option, member, rfl,
          Option.some.inj (found.symm.trans fresh)⟩
      · exact offered _ kept (unchanged.symm.trans found)
    · rw [lookup_relax_of_ne same] at found
      exact offered key kept found
  have extended :
      ∀ layer, Offered layer → ∀ entry ∈ entries,
        Offered (search.extend stage layer entry) := by
    intro layer offered entry visited
    exact List.foldlRecOn stage _ offered fun grown holds option member =>
      relaxed grown holds entry visited option member
  have expanded : Offered (search.expand stage entries) :=
    List.foldlRecOn entries _ (by simp [Offered]) fun grown holds entry visited =>
      extended grown holds entry visited
  exact expanded key kept found

variable {search} {start : κ} {stages : List (List χ)}

theorem Sound.expand
    {layer : SearchLayer κ π C} (sound : search.Sound start stages layer)
    (stage : List χ) {entries : List (κ × C × List π)}
    (stored : ∀ entry ∈ entries, layer.lookup entry.1 = some entry.2) :
    search.Sound start (stages ++ [stage]) (search.expand stage entries) := by
  intro key kept found
  obtain ⟨entry, visited, option, member, reached, rfl⟩ :=
    lookup_expand search found
  obtain ⟨options, admissible, atKey, costs, traced⟩ :=
    sound entry.1 entry.2 (stored entry visited)
  refine ⟨options ++ [option], ?_, ?_, ?_, ?_⟩
  · exact admissible_concat_iff.mpr ⟨options, option, rfl, admissible, member⟩
  · rw [target_concat, atKey, reached]
  · rw [total_concat, atKey, costs]
  · rw [trace_concat, atKey, traced]

theorem complete_singleton :
    search.Complete start [] (AList.singleton start (0, [])) := by
  intro options admissible
  cases admissible
  exact ⟨(0, []), by simp, le_rfl⟩

variable [IsOrderedAddMonoid C]

/-- A covered key stays covered along any option of the next stage. -/
theorem Covers.expand
    {layer : SearchLayer κ π C} {key : κ} {bound : C}
    (covers : Covers layer key bound)
    {stage : List χ} {option : χ} (member : option ∈ stage)
    {entries : List (κ × C × List π)}
    (visits : ∀ key kept,
      layer.lookup key = some kept → (key, kept) ∈ entries) :
    Covers (search.expand stage entries)
      (search.next key option) (bound + search.price key option) := by
  obtain ⟨kept, found, small⟩ := covers
  obtain ⟨reached, there, cheap⟩ :=
    covers_expand search (visits key kept found) member
  exact ⟨reached, there, cheap.trans (by gcongr)⟩

theorem Complete.expand
    {layer : SearchLayer κ π C}
    (complete : search.Complete start stages layer)
    (stage : List χ) {entries : List (κ × C × List π)}
    (visits : ∀ key kept,
      layer.lookup key = some kept → (key, kept) ∈ entries) :
    search.Complete start (stages ++ [stage]) (search.expand stage entries) := by
  intro options admissible
  obtain ⟨earlier, option, rfl, before, member⟩ :=
    admissible_concat_iff.mp admissible
  rw [target_concat, total_concat]
  exact (complete earlier before).expand member visits

end Expansion

end Layers

end LayeredSearch
