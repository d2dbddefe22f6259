import Carbonshift.Library.Recency
import Carbonshift.Executor.Inference

/-!
# Loaded models

The executor keeps a bounded number of models loaded and drops the one that it
has not used longest.  A model that is needed again is loaded again.
-/

namespace Carbonshift

namespace Executor

/-- A task and a flavour. -/
abbrev PipelineKey := TaskKind × String

/-- The loaded pipelines, the least recently used one first. -/
structure PipelineCache (π : Type) where
  maxSize : ℤ
  entries : List (PipelineKey × π)

/-- A call of `get`, with what loading the model would give. -/
structure PipelineCall (π : Type) where
  key : PipelineKey
  loading : Except String π

namespace PipelineCache

variable {π : Type}

def new (maxSize : ℤ) : PipelineCache π := ⟨maxSize, []⟩

/-- Drop the oldest entries as long as there are too many.  A bound below zero
cannot be met. -/
def evictIfNeeded (maxSize : ℤ) :
    List (PipelineKey × π) → Except String Unit × List (PipelineKey × π)
  | [] => if maxSize < 0 then (.error "dictionary is empty", []) else (.ok (), [])
  | entry :: entries =>
      if maxSize < (entries.length + 1 : ℕ) then
        evictIfNeeded maxSize entries
      else
        (.ok (), entry :: entries)

/-- Move an entry to the end. -/
def moveToEnd (key : PipelineKey) (pipe : π)
    (entries : List (PipelineKey × π)) : List (PipelineKey × π) :=
  entries.filter (fun entry => !decide (entry.1 = key)) ++ [(key, pipe)]

/-- The pipeline of a task and flavour: the answer, and the cache after it. -/
def get (cache : PipelineCache π) (call : PipelineCall π) :
    Except String π × PipelineCache π :=
  match cache.entries.lookup call.key with
  | some pipe =>
      (.ok pipe,
        { cache with entries := moveToEnd call.key pipe cache.entries })
  | none =>
      match call.loading with
      | .error error => (.error error, cache)
      | .ok pipe =>
          let evicted := evictIfNeeded cache.maxSize
            (moveToEnd call.key pipe cache.entries)
          (evicted.1.map fun _ => pipe, { cache with entries := evicted.2 })

/-- Does the call load its model? -/
def loads (cache : PipelineCache π) (key : PipelineKey) : Bool :=
  (cache.entries.lookup key).isNone

/-- The cache after the calls. -/
def getAll (cache : PipelineCache π) (calls : List (PipelineCall π)) :
    PipelineCache π :=
  calls.foldl (fun cache call => (cache.get call).2) cache

/-- The keys of the calls that were answered with a pipeline. -/
def answered (cache : PipelineCache π) :
    List (PipelineCall π) → List PipelineKey
  | [] => []
  | call :: calls =>
      match (cache.get call).1 with
      | .ok _ => call.key :: (cache.get call).2.answered calls
      | .error _ => (cache.get call).2.answered calls

/-- The calls that load their models. -/
def loaded (cache : PipelineCache π) :
    List (PipelineCall π) → List (PipelineCall π)
  | [] => []
  | call :: calls =>
      if cache.loads call.key then
        call :: (cache.get call).2.loaded calls
      else
        (cache.get call).2.loaded calls

/-- The keys of the cache, the most recently used one first. -/
def recent (cache : PipelineCache π) : List PipelineKey :=
  (cache.entries.map Prod.fst).reverse

variable {cache : PipelineCache π} {call : PipelineCall π}
variable {calls : List (PipelineCall π)} {maxSize : ℤ}
variable {entries : List (PipelineKey × π)}

/-! ## One call -/

theorem loads_eq_false_iff {key : PipelineKey} :
    cache.loads key = false ↔ key ∈ cache.recent := by
  rw [loads, Option.isNone_eq_false_iff, recent, List.mem_reverse,
    List.mem_map]
  constructor
  · intro found
    obtain ⟨pipe, stored⟩ := Option.isSome_iff_exists.mp found
    obtain ⟨first, _, second⟩ := List.lookup_eq_some_iff.mp stored
    exact ⟨(key, pipe), by simp [second.1], rfl⟩
  · rintro ⟨entry, member, rfl⟩
    cases found : cache.entries.lookup entry.1 with
    | none =>
        have other := List.lookup_eq_none_iff.mp found entry member
        simp at other
    | some pipe => rfl

/-- The newest entries are kept. -/
theorem evictIfNeeded_eq (bound : ℕ) (entries : List (PipelineKey × π)) :
    evictIfNeeded bound entries =
      (.ok (), entries.drop (entries.length - bound)) := by
  induction entries with
  | nil =>
      rw [evictIfNeeded, if_neg (by omega), List.drop_nil]
  | cons entry entries inductionHypothesis =>
      rw [evictIfNeeded, List.length_cons]
      split
      · rename_i many
        have more : entries.length + 1 - bound =
            (entries.length - bound) + 1 := by
          omega
        rw [inductionHypothesis, more, List.drop_succ_cons]
      · rename_i few
        have none_ : entries.length + 1 - bound = 0 := by
          omega
        rw [none_, List.drop_zero]

theorem recent_moveToEnd (key : PipelineKey) (pipe : π) :
    ((moveToEnd key pipe entries).map Prod.fst).reverse =
      Recency.touch (entries.map Prod.fst).reverse key := by
  rw [moveToEnd, List.map_append, List.reverse_append, Recency.touch,
    ← List.filter_reverse.symm, List.filter_map]
  rfl

theorem recent_drop (bound : ℕ) :
    ((entries.drop (entries.length - bound)).map Prod.fst).reverse =
      (entries.map Prod.fst).reverse.take bound := by
  rw [List.map_drop, List.reverse_drop, List.length_map]
  rcases Nat.le_total bound entries.length with fits | short
  · rw [Nat.sub_sub_self fits]
  · have all : (entries.map Prod.fst).reverse.length ≤ bound := by simpa
    rw [Nat.sub_eq_zero_of_le short, Nat.sub_zero,
      List.take_of_length_le all, List.take_of_length_le (by simp)]

/-- The cache is within a bound, and no key is there twice. -/
structure Bounded (cache : PipelineCache π) (bound : ℕ) : Prop where
  maxSize_eq : cache.maxSize = bound
  length_le : cache.recent.length ≤ bound
  nodup : cache.recent.Nodup

theorem Bounded.new (bound : ℕ) :
    Bounded (PipelineCache.new bound : PipelineCache π) bound :=
  ⟨rfl, Nat.zero_le _, List.nodup_nil⟩

variable {bound : ℕ}

/-- What one call does: a key that is there or can be loaded becomes the most
recent one, and otherwise nothing happens. -/
theorem Bounded.get_cases (bounded : cache.Bounded bound)
    (call : PipelineCall π) :
    (∃ pipe, (cache.get call).1 = .ok pipe ∧
        ((cache.loads call.key = false ∧ (call.key, pipe) ∈ cache.entries) ∨
          (cache.loads call.key = true ∧ call.loading = .ok pipe)) ∧
        (cache.get call).2.maxSize = cache.maxSize ∧
        (cache.get call).2.recent =
          Recency.hold bound cache.recent call.key ∧
        ∀ entry ∈ (cache.get call).2.entries,
          entry ∈ cache.entries ∨ entry = (call.key, pipe)) ∨
      (cache.loads call.key = true ∧
        ∃ error, call.loading = .error error ∧
          cache.get call = (.error error, cache)) := by
  have moved : ∀ (pipe : π), ∀ entry ∈ moveToEnd call.key pipe cache.entries,
      entry ∈ cache.entries ∨ entry = (call.key, pipe) := by
    intro pipe entry member
    rcases List.mem_append.mp member with kept | last
    · exact Or.inl (List.mem_filter.mp kept).1
    · exact Or.inr (List.mem_singleton.mp last)
  cases found : cache.entries.lookup call.key with
  | some pipe =>
      have known : cache.loads call.key = false := by
        rw [loads, found]
        rfl
      have got : cache.get call = (.ok pipe,
          { cache with entries := moveToEnd call.key pipe cache.entries }) := by
        rw [get, found]
      refine Or.inl ⟨pipe, by rw [got], Or.inl ⟨known, ?_⟩, by rw [got], ?_, ?_⟩
      · obtain ⟨first, second, split, _⟩ := List.lookup_eq_some_iff.mp found
        rw [split]
        exact List.mem_append_right _ List.mem_cons_self
      · have member := loads_eq_false_iff.mp known
        rw [got, recent, recent_moveToEnd, Recency.hold]
        refine (List.take_of_length_le ?_).symm
        exact (Recency.length_touch_of_mem bounded.nodup member).le.trans
          bounded.length_le
      · rw [got]
        exact moved pipe
  | none =>
      have absent : cache.loads call.key = true := by
        rw [loads, found]
        rfl
      cases given : call.loading with
      | error error =>
          refine Or.inr ⟨absent, error, rfl, ?_⟩
          rw [get, found, given]
      | ok pipe =>
          have got : cache.get call = (.ok pipe,
              { cache with
                entries :=
                  (moveToEnd call.key pipe cache.entries).drop
                    ((moveToEnd call.key pipe cache.entries).length -
                      bound) }) := by
            have evicted := evictIfNeeded_eq bound
              (moveToEnd call.key pipe cache.entries)
            rw [← bounded.maxSize_eq] at evicted
            rw [get, found, given]
            dsimp only
            rw [evicted]
            rfl
          refine Or.inl ⟨pipe, by rw [got], Or.inr ⟨absent, rfl⟩, by rw [got],
            ?_, ?_⟩
          · rw [got, recent, recent_drop, recent_moveToEnd]
            rfl
          · rw [got]
            exact fun entry member => moved pipe entry
              (List.mem_of_mem_drop member)

theorem Bounded.get (bounded : cache.Bounded bound)
    (call : PipelineCall π) : (cache.get call).2.Bounded bound := by
  rcases bounded.get_cases call with
    ⟨pipe, _, _, size, recent_eq, _⟩ | ⟨_, error, _, same⟩
  · refine ⟨size.trans bounded.maxSize_eq, ?_, ?_⟩
    · rw [recent_eq]
      exact List.length_take_le _ _
    · rw [recent_eq]
      exact (Recency.nodup_touch bounded.nodup).sublist
        (List.take_sublist _ _)
  · rw [same]
    exact bounded

/-! ## Sequences of calls -/

/-- The keys follow the calls that were answered. -/
theorem Bounded.recent_getAll (bounded : cache.Bounded bound)
    (calls : List (PipelineCall π)) :
    (cache.getAll calls).Bounded bound ∧
      (cache.getAll calls).recent =
        (cache.answered calls).foldl (Recency.hold bound) cache.recent := by
  induction calls generalizing cache with
  | nil => exact ⟨bounded, rfl⟩
  | cons call calls inductionHypothesis =>
      obtain ⟨after, recent_eq⟩ := inductionHypothesis (bounded.get call)
      refine ⟨after, recent_eq.trans ?_⟩
      rcases bounded.get_cases call with
        ⟨pipe, answer, _, _, held, _⟩ | ⟨_, error, _, same⟩
      · rw [held, answered, answer, List.foldl_cons]
      · rw [answered, same]

/-- One of the calls missed its key and loaded the pipeline. -/
def LoadedBy (cache : PipelineCache π) (calls : List (PipelineCall π))
    (key : PipelineKey) (pipe : π) : Prop :=
  ∃ earlier source later,
    calls = earlier ++ source :: later ∧
      (cache.getAll earlier).loads source.key = true ∧
        source.key = key ∧ source.loading = .ok pipe

theorem LoadedBy.append {calls : List (PipelineCall π)}
    {key : PipelineKey} {pipe : π}
    (loaded : cache.LoadedBy calls key pipe) (more : List (PipelineCall π)) :
    cache.LoadedBy (calls ++ more) key pipe := by
  obtain ⟨earlier, source, later, split, misses⟩ := loaded
  refine ⟨earlier, source, later ++ more, ?_, misses⟩
  rw [split, List.append_assoc, List.cons_append]

/-- Every pipeline was loaded by a call that missed its key. -/
theorem Bounded.entries_getAll (bounded : cache.Bounded bound)
    (calls : List (PipelineCall π)) :
    ∀ entry ∈ (cache.getAll calls).entries,
      entry ∈ cache.entries ∨ cache.LoadedBy calls entry.1 entry.2 := by
  induction calls generalizing cache with
  | nil => exact fun entry member => Or.inl member
  | cons call calls inductionHypothesis =>
      intro entry member
      rcases inductionHypothesis (bounded.get call) entry member with
        before | ⟨earlier, source, later, split, misses⟩
      · rcases bounded.get_cases call with
          ⟨pipe, _, origin, _, _, known⟩ | ⟨_, error, _, same⟩
        · rcases known entry before with old | rfl
          · exact Or.inl old
          · rcases origin with ⟨_, stored⟩ | ⟨absent, given⟩
            · exact Or.inl stored
            · exact Or.inr ⟨[], call, calls, rfl, absent, rfl, given⟩
        · rw [same] at before
          exact Or.inl before
      · refine Or.inr ⟨call :: earlier, source, later, ?_, misses⟩
        rw [split, List.cons_append]

/-- After any calls the cache is within its bound.  A call finds its model
loaded exactly if fewer others than the bound have been used since its last
use; it is answered then, and always with a pipeline that a call for its task
and flavour has loaded. -/
theorem pipeline_cache_is_lru (bound : ℕ) (calls : List (PipelineCall π))
    (call : PipelineCall π) :
    ((PipelineCache.new bound).getAll calls).entries.length ≤ bound ∧
      (((PipelineCache.new bound).getAll calls).loads call.key = false ↔
        ∃ earlier later,
          (PipelineCache.new bound).answered calls =
              earlier ++ call.key :: later ∧
            call.key ∉ later ∧ later.dedup.length < bound) ∧
      (((PipelineCache.new bound).getAll calls).loads call.key = false →
        ∃ pipe, (((PipelineCache.new bound).getAll calls).get call).1 =
          .ok pipe) ∧
      ∀ pipe, (((PipelineCache.new bound).getAll calls).get call).1 =
          .ok pipe →
        (PipelineCache.new bound).LoadedBy (calls ++ [call]) call.key
          pipe := by
  obtain ⟨bounded, recent_eq⟩ :=
    (Bounded.new (π := π) bound).recent_getAll calls
  have held : ((PipelineCache.new bound).getAll calls).recent =
      (Recency.ofUses ((PipelineCache.new bound).answered calls)).take
        bound := by
    rw [recent_eq]
    exact Recency.foldl_hold bound _
  refine ⟨?_, ?_, ?_, ?_⟩
  · have length_le := bounded.length_le
    rwa [recent, List.length_reverse, List.length_map] at length_le
  · rw [loads_eq_false_iff, held]
    exact Recency.mem_take_ofUses
  · intro found
    rcases bounded.get_cases call with
      ⟨pipe, answer, _⟩ | ⟨absent, _⟩
    · exact ⟨pipe, answer⟩
    · rw [found] at absent
      cases absent
  · intro pipe answer
    rcases bounded.get_cases call with
      ⟨other, same, origin, _⟩ | ⟨_, error, _, same⟩
    · rw [same, Except.ok.injEq] at answer
      subst answer
      rcases origin with ⟨_, stored⟩ | ⟨absent, given⟩
      · rcases (Bounded.new (π := π) bound).entries_getAll calls _ stored with
          none_ | loaded
        · exact absurd none_ List.not_mem_nil
        · exact loaded.append [call]
      · exact ⟨calls, call, [], rfl, absent, rfl, given⟩
    · rw [same] at answer
      cases answer

/-! ## Caches of two sizes -/

/-- A call keeps the smaller cache within the larger one. -/
theorem get_within {less more : ℕ} {smaller larger : PipelineCache π}
    (le : less ≤ more) (small : smaller.Bounded less)
    (large : larger.Bounded more)
    (within : Recency.Within less more smaller.recent larger.recent)
    (call : PipelineCall π) :
    Recency.Within less more (smaller.get call).2.recent
      (larger.get call).2.recent := by
  rcases small.get_cases call with
    ⟨_, _, origin, _, held, _⟩ | ⟨absent, error, failed, same⟩
  · rcases large.get_cases call with
      ⟨_, _, _, _, largerHeld, _⟩ | ⟨largerAbsent, error, failed, _⟩
    · rw [held, largerHeld]
      exact within.hold le call.key
    · -- the larger cache lacks no model that the smaller one has
      rcases origin with ⟨known, _⟩ | ⟨_, given⟩
      · have member := within.sublist.subset (loads_eq_false_iff.mp known)
        rw [loads_eq_false_iff.mpr member] at largerAbsent
        cases largerAbsent
      · rw [given] at failed
        cases failed
  · rw [same]
    have missing : call.key ∉ smaller.recent := by
      intro member
      rw [loads_eq_false_iff.mpr member] at absent
      cases absent
    rcases large.get_cases call with
      ⟨_, _, origin, _, largerHeld, _⟩ | ⟨_, _, _, largerSame⟩
    · rcases origin with ⟨known, _⟩ | ⟨_, given⟩
      · rw [largerHeld]
        exact within.touch_larger (loads_eq_false_iff.mp known) missing
      · rw [given] at failed
        cases failed
    · rw [largerSame]
      exact within

/-- Keeping more models loaded never makes a call load its model. -/
theorem larger_cache_loads_no_more {less more : ℕ} (le : less ≤ more)
    (calls : List (PipelineCall π)) :
    ((PipelineCache.new more).loaded calls).Sublist
      ((PipelineCache.new less).loaded calls) := by
  suffices step : ∀ smaller larger : PipelineCache π,
      smaller.Bounded less → larger.Bounded more →
      Recency.Within less more smaller.recent larger.recent →
        (larger.loaded calls).Sublist (smaller.loaded calls) from
    step _ _ (Bounded.new less) (Bounded.new more) Recency.Within.nil
  induction calls with
  | nil => exact fun _ _ _ _ _ => List.Sublist.refl _
  | cons call calls inductionHypothesis =>
      intro smaller larger small large within
      have rest := inductionHypothesis _ _ (small.get call) (large.get call)
        (get_within le small large within call)
      rw [loaded, loaded]
      by_cases needed : larger.loads call.key = true
      · have also : smaller.loads call.key = true := by
          by_contra known
          have member := within.sublist.subset
            (loads_eq_false_iff.mp (Bool.eq_false_of_not_eq_true known))
          rw [loads_eq_false_iff.mpr member] at needed
          cases needed
        rw [if_pos needed, if_pos also]
        exact rest.cons_cons call
      · rw [if_neg needed]
        split
        · exact rest.cons call
        · exact rest

theorem larger_cache_loads_no_more_three :
    ((PipelineCache.new 2).loaded
        [⟨(.ner, "fast"), .ok "dslim/distilbert-NER"⟩,
          ⟨(.ner, "accurate"), .ok "dslim/bert-large-NER"⟩,
          ⟨(.ner, "fast"), .ok "dslim/distilbert-NER"⟩]).Sublist
      ((PipelineCache.new 1).loaded
        [⟨(.ner, "fast"), .ok "dslim/distilbert-NER"⟩,
          ⟨(.ner, "accurate"), .ok "dslim/bert-large-NER"⟩,
          ⟨(.ner, "fast"), .ok "dslim/distilbert-NER"⟩]) :=
  larger_cache_loads_no_more (by decide) _

end PipelineCache

end Executor

end Carbonshift
