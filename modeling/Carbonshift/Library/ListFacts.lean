import Mathlib.Data.List.Forall2
import Mathlib.Data.List.MinMax

/-!
# Facts about lists

Positions of lists related entry by entry, and least entries.
-/

universe u v w

namespace List

variable {α : Type u} {β : Type v} {R : α → β → Prop}

/-- An entry on the right of related lists has a related partner at the same
position on the left. -/
theorem Forall₂.getElem?_right
    {left : List α} {right : List β} (related : Forall₂ R left right)
    {index : ℕ} {entry : β} (located : right[index]? = some entry) :
    ∃ partner, left[index]? = some partner ∧ R partner entry := by
  induction related generalizing index with
  | nil => simp at located
  | @cons first second _ _ here _ inductionHypothesis =>
      cases index with
      | zero =>
          cases Option.some.inj located
          exact ⟨first, rfl, here⟩
      | succ earlier => exact inductionHypothesis located

theorem Forall₂.exists_left_of_mem
    {left : List α} {right : List β} (related : Forall₂ R left right)
    {entry : β} (member : entry ∈ right) :
    ∃ partner ∈ left, R partner entry := by
  obtain ⟨index, located⟩ := List.getElem?_of_mem member
  obtain ⟨partner, there, holds⟩ := related.getElem?_right located
  exact ⟨partner, List.mem_of_getElem? there, holds⟩

/-- A quantity shared by related entries is shared by the lists. -/
theorem Forall₂.map_eq_map {γ : Type w} {f : α → γ} {g : β → γ}
    {left : List α} {right : List β} (related : Forall₂ R left right)
    (shared : ∀ first second, R first second → g second = f first) :
    right.map g = left.map f := by
  induction related with
  | nil => rfl
  | cons here _ inductionHypothesis =>
      rw [List.map_cons, List.map_cons, shared _ _ here, inductionHypothesis]

/-- Inside a list, an entry of its image is the image of its entry, whatever
the defaults. -/
theorem getD_map_of_lt {values : List α} (f : α → β) {position : ℕ}
    (inside : position < values.length) (default : α) {other : β} :
    (values.map f).getD position other = f (values.getD position default) := by
  rw [getD_eq_getElem?_getD, getElem?_map, getElem?_eq_getElem inside,
    getD_eq_getElem?_getD, getElem?_eq_getElem inside]
  rfl

/-- A list with an entry has a least one. -/
theorem exists_argmin {γ : Type*} [LinearOrder γ] (f : α → γ)
    {values : List α} (someValue : values ≠ []) :
    ∃ value, values.argmin f = some value :=
  Option.ne_none_iff_exists'.mp (mt argmin_eq_none.mp someValue)

/-- A least entry depends on the order of the entries' values only. -/
theorem argmin_congr [DecidableEq α] {γ δ : Type*} [LinearOrder γ]
    [LinearOrder δ] {f : α → γ} {g : α → δ} {values : List α}
    (same : ∀ first ∈ values, ∀ second ∈ values,
      f first ≤ f second ↔ g first ≤ g second) :
    values.argmin f = values.argmin g := by
  cases least : values.argmin f with
  | none =>
      rw [argmin_eq_none.mp least]
      rfl
  | some value =>
      obtain ⟨member, below, first⟩ := argmin_eq_some_iff.mp least
      refine (argmin_eq_some_iff.mpr ⟨member, ?_, ?_⟩).symm
      · intro other inside
        exact (same value member other inside).mp (below other inside)
      · intro other inside equal
        exact first other inside ((same other inside value member).mpr equal)

/-- An entry of a longer list is the new last one, or was there before. -/
theorem concat_eq_split {values earlier later : List α} {last entry : α}
    (same : values ++ [last] = earlier ++ entry :: later) :
    (later = [] ∧ earlier = values ∧ entry = last) ∨
      ∃ rest, later = rest ++ [last] ∧ values = earlier ++ entry :: rest := by
  rcases List.eq_nil_or_concat later with rfl | ⟨rest, other, rfl⟩
  · obtain ⟨rfl, ended⟩ := List.append_inj' same rfl
    exact Or.inl ⟨rfl, rfl, (List.singleton_inj.mp ended).symm⟩
  · rw [List.concat_eq_append] at same ⊢
    rw [← List.cons_append, ← List.append_assoc] at same
    obtain ⟨rfl, ended⟩ := List.append_inj' same rfl
    exact Or.inr ⟨rest, by rw [List.singleton_inj.mp ended], rfl⟩

/-- An entry of a tabulated function. -/
theorem getD_map_range (f : ℕ → α) {length position : ℕ}
    (inside : position < length) (default : α) :
    ((range length).map f).getD position default = f position := by
  rw [getD_eq_getElem?_getD, getElem?_map, getElem?_range inside]
  rfl

end List
