import Mathlib.Data.List.Basic
import Mathlib.Algebra.Order.Ring.Int

/-!
# Items placed into boxes one after another

Each item of a list goes into one box.  Its position there is the number of
items the box held before the list, plus its rank among the items of the list
that share the box.
-/

universe u v w

namespace Ranking

variable {ι : Type u} {κ : Type v} [DecidableEq κ] (box : ι → κ)

/-- Number of items in a box. -/
def boxCount (items : List ι) (target : κ) : ℕ :=
  items.countP fun item => box item = target

@[simp]
theorem boxCount_nil (target : κ) : boxCount box [] target = 0 := rfl

theorem boxCount_cons (item : ι) (items : List ι) (target : κ) :
    boxCount box (item :: items) target =
      boxCount box items target + if box item = target then 1 else 0 := by
  simp [boxCount, List.countP_cons]

theorem boxCount_append (items others : List ι) (target : κ) :
    boxCount box (items ++ others) target =
      boxCount box items target + boxCount box others target :=
  List.countP_append

/-- One more item in a box. -/
def occupy (occupied : κ → ℤ) (target : κ) : κ → ℤ :=
  fun other => occupied other + if target = other then 1 else 0

@[simp]
theorem occupy_self (occupied : κ → ℤ) (target : κ) :
    occupy occupied target target = occupied target + 1 := by
  simp [occupy]

theorem occupy_of_ne {target other : κ} (different : target ≠ other)
    (occupied : κ → ℤ) :
    occupy occupied target other = occupied other := by
  simp [occupy, different]

/-- Counting the first item in the box or in the list is the same. -/
theorem occupy_add_boxCount (occupied : κ → ℤ) (item : ι) (items : List ι)
    (target : κ) :
    occupy occupied (box item) target + boxCount box items target =
      occupied target + boxCount box (item :: items) target := by
  rw [boxCount_cons, occupy]
  split
  · push_cast
    omega
  · simp

/-- Every item stands in the relation to the position it takes in its box. -/
def Ranked (holds : ι → ℤ → Prop) : (κ → ℤ) → List ι → Prop
  | _, [] => True
  | occupied, item :: items =>
      holds item (occupied (box item) + 1) ∧
        Ranked holds (occupy occupied (box item)) items

/-- The positions of a list can be checked one after another. -/
instance decidableRanked (holds : ι → ℤ → Prop)
    [∀ item position, Decidable (holds item position)] :
    ∀ (occupied : κ → ℤ) (items : List ι),
      Decidable (Ranked box holds occupied items)
  | _, [] => isTrue trivial
  | occupied, item :: items =>
      have := decidableRanked holds (occupy occupied (box item)) items
      inferInstanceAs (Decidable (_ ∧ _))

variable {box} {holds : ι → ℤ → Prop} {occupied : κ → ℤ} {items : List ι}

@[simp]
theorem ranked_nil : Ranked box holds occupied [] := trivial

@[simp]
theorem ranked_cons_iff {item : ι} :
    Ranked box holds occupied (item :: items) ↔
      holds item (occupied (box item) + 1) ∧
        Ranked box holds (occupy occupied (box item)) items :=
  Iff.rfl

theorem Ranked.mono {weaker : ι → ℤ → Prop}
    (ranked : Ranked box holds occupied items)
    (implies : ∀ item ∈ items, ∀ position,
      holds item position → weaker item position) :
    Ranked box weaker occupied items := by
  induction items generalizing occupied with
  | nil => trivial
  | cons item items inductionHypothesis =>
      refine ⟨implies item List.mem_cons_self _ ranked.1, ?_⟩
      exact inductionHypothesis ranked.2 fun other member =>
        implies other (List.mem_cons_of_mem item member)

theorem ranked_map_iff {α : Type w} {change : α → ι} {sources : List α} :
    Ranked box holds occupied (sources.map change) ↔
      Ranked (box ∘ change) (fun source => holds (change source)) occupied
        sources := by
  induction sources generalizing occupied with
  | nil => exact Iff.rfl
  | cons source sources inductionHypothesis =>
      exact and_congr_right fun _ => inductionHypothesis

/-- Positions read off by index: the occupancy before the list, plus the rank
in the list. -/
theorem Ranked.getElem?
    (ranked : Ranked box holds occupied items)
    {index : ℕ} {item : ι} (located : items[index]? = some item) :
    holds item
      (occupied (box item) +
        boxCount box (items.take (index + 1)) (box item)) := by
  induction items generalizing occupied index with
  | nil => cases located
  | cons first rest inductionHypothesis =>
      cases index with
      | zero =>
          cases Option.some.inj located
          simpa [boxCount_cons] using ranked.1
      | succ index =>
          have later := inductionHypothesis ranked.2 located
          rwa [occupy_add_boxCount, ← List.take_succ_cons] at later

theorem ranked_of_getElem?
    (each : ∀ index item, items[index]? = some item →
      holds item
        (occupied (box item) +
          boxCount box (items.take (index + 1)) (box item))) :
    Ranked box holds occupied items := by
  induction items generalizing occupied with
  | nil => trivial
  | cons first rest inductionHypothesis =>
      refine ⟨?_, inductionHypothesis fun index item located => ?_⟩
      · simpa [boxCount_cons] using each 0 first rfl
      · have later := each (index + 1) item located
        rwa [List.take_succ_cons, ← occupy_add_boxCount] at later

/-- An item takes one of as many positions as the list has items. -/
theorem ranked_of_forall_position
    (each : ∀ item ∈ items, ∀ position,
      occupied (box item) < position →
        position ≤ occupied (box item) + items.length →
          holds item position) :
    Ranked box holds occupied items := by
  induction items generalizing occupied with
  | nil => trivial
  | cons first rest inductionHypothesis =>
      refine ⟨each first List.mem_cons_self _ (by omega) (by simp), ?_⟩
      refine inductionHypothesis fun item member position lower upper => ?_
      refine each item (List.mem_cons_of_mem first member) position ?_ ?_
      · unfold occupy at lower
        split at lower <;> omega
      · rw [List.length_cons]
        push_cast
        unfold occupy at upper
        split at upper <;> omega

/-- Only the boxes that receive an item matter. -/
theorem Ranked.congr {others : κ → ℤ}
    (ranked : Ranked box holds occupied items)
    (same : ∀ item ∈ items, occupied (box item) = others (box item)) :
    Ranked box holds others items := by
  induction items generalizing occupied others with
  | nil => trivial
  | cons first rest inductionHypothesis =>
      refine ⟨?_, inductionHypothesis ranked.2 fun item member => ?_⟩
      · rw [← same first List.mem_cons_self]
        exact ranked.1
      · unfold occupy
        rw [same item (List.mem_cons_of_mem first member)]

theorem ranked_congr_iff {others : κ → ℤ}
    (same : ∀ item ∈ items, occupied (box item) = others (box item)) :
    Ranked box holds occupied items ↔ Ranked box holds others items :=
  ⟨fun ranked => ranked.congr same, fun ranked =>
    ranked.congr fun item member => (same item member).symm⟩

/-- Relations that agree at the positions taken may replace each other. -/
theorem Ranked.iff_of_holds {left right : ι → ℤ → Prop}
    (ranked : Ranked box holds occupied items)
    (same : ∀ item ∈ items, ∀ position, holds item position →
      (left item position ↔ right item position)) :
    Ranked box left occupied items ↔ Ranked box right occupied items := by
  induction items generalizing occupied with
  | nil => exact Iff.rfl
  | cons first rest inductionHypothesis =>
      refine and_congr (same first List.mem_cons_self _ ranked.1) ?_
      exact inductionHypothesis ranked.2 fun item member =>
        same item (List.mem_cons_of_mem first member)

/-- A relation that ignores positions. -/
theorem ranked_const_iff {property : ι → Prop} :
    Ranked box (fun item _ => property item) occupied items ↔
      ∀ item ∈ items, property item := by
  induction items generalizing occupied with
  | nil => simp
  | cons first rest inductionHypothesis =>
      rw [ranked_cons_iff, List.forall_mem_cons, inductionHypothesis]

/-- Further occupants of the boxes shift every position. -/
theorem ranked_add_iff {further : κ → ℤ} :
    Ranked box holds (fun target => occupied target + further target) items ↔
      Ranked box
        (fun item position => holds item (position + further (box item)))
        occupied items := by
  induction items generalizing occupied with
  | nil => exact Iff.rfl
  | cons first rest inductionHypothesis =>
      have shifted :
          occupy (fun target => occupied target + further target)
              (box first) =
            fun target => occupy occupied (box first) target +
              further target := by
        funext target
        exact add_right_comm _ _ _
      rw [ranked_cons_iff, ranked_cons_iff, shifted, inductionHypothesis,
        add_right_comm]

end Ranking
