import Mathlib.Data.List.Perm.Basic

/-!
# Unspecified iteration orders

A hash map hands out its entries in an order the program cannot rely on.  An
`IterationOrder` is one such order: any rearrangement that keeps every entry.
-/

universe u

/-- A rearrangement that neither drops nor repeats an entry. -/
structure IterationOrder (α : Type u) where
  arrange : List α → List α
  perm : ∀ entries, (arrange entries).Perm entries

namespace IterationOrder

variable {α : Type u}

/-- Entry order itself. -/
def entryOrder : IterationOrder α where
  arrange := id
  perm := List.Perm.refl

instance : Inhabited (IterationOrder α) := ⟨entryOrder⟩

@[simp]
theorem mem_arrange (order : IterationOrder α) {entries : List α} {entry : α} :
    entry ∈ order.arrange entries ↔ entry ∈ entries :=
  (order.perm entries).mem_iff

end IterationOrder
