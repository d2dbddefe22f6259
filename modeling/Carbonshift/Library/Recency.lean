import Mathlib.Data.List.Dedup
import Mathlib.Data.List.Induction

/-!
# Least recently used

The keys in the order of their last use, the latest first.  A store that drops
the least recently used key holds a beginning of this list, so a key is there
until enough others have been used after it.  A larger store holds whatever a
smaller one does.
-/

universe u

namespace Recency

variable {κ : Type u} [DecidableEq κ]

/-- A use puts the key in front. -/
def touch (keys : List κ) (key : κ) : List κ :=
  key :: keys.filter fun other => !decide (other = key)

/-- The keys in the order of their last use. -/
def ofUses (uses : List κ) : List κ :=
  uses.foldl touch []

/-- A store of bounded size drops what has not been used longest. -/
def hold (capacity : ℕ) (keys : List κ) (key : κ) : List κ :=
  (touch keys key).take capacity

variable {keys uses : List κ} {key other : κ} {capacity : ℕ}

theorem mem_touch_iff : other ∈ touch keys key ↔ other = key ∨ other ∈ keys := by
  rw [touch, List.mem_cons, List.mem_filter]
  by_cases same : other = key <;> simp [same]

theorem nodup_touch (nodup : keys.Nodup) : (touch keys key).Nodup := by
  refine List.nodup_cons.mpr ⟨?_, nodup.filter _⟩
  intro member
  have different := (List.mem_filter.mp member).2
  simp at different

theorem touch_of_absent (absent : key ∉ keys) : touch keys key = key :: keys := by
  rw [touch, List.filter_eq_self.mpr]
  intro other member
  have different : other ≠ key := fun same => absent (same ▸ member)
  simp [different]

theorem length_filter_of_mem (nodup : keys.Nodup) (member : key ∈ keys) :
    (keys.filter fun other => !decide (other = key)).length + 1 =
      keys.length := by
  have erased : (keys.filter fun other => !decide (other = key)) =
      keys.erase key := by
    rw [nodup.erase_eq_filter]
    refine List.filter_congr fun other _ => ?_
    by_cases same : other = key <;> simp [same]
  rw [erased, List.length_erase_of_mem member]
  have positive := List.length_pos_of_mem member
  omega

theorem length_touch_of_mem (nodup : keys.Nodup) (member : key ∈ keys) :
    (touch keys key).length = keys.length := by
  rw [touch, List.length_cons]
  exact length_filter_of_mem nodup member

/-! ## Bounded stores -/

/-- What a store has dropped does not matter to it any more. -/
theorem hold_take (nodup : keys.Nodup) :
    hold capacity (keys.take capacity) key = hold capacity keys key := by
  cases capacity with
  | zero => rfl
  | succ spare =>
      rw [hold, hold, touch, touch, List.take_succ_cons, List.take_succ_cons]
      refine congrArg (key :: ·) ?_
      have split := List.take_append_drop (spare + 1) keys
      have parts : keys.filter (fun other => !decide (other = key)) =
          (keys.take (spare + 1)).filter (fun other => !decide (other = key)) ++
            (keys.drop (spare + 1)).filter
              (fun other => !decide (other = key)) := by
        rw [← List.filter_append, split]
      rw [parts]
      rcases Nat.lt_or_ge spare keys.length with full | small
      · refine (List.take_append_of_le_length ?_).symm
        have length_eq : (keys.take (spare + 1)).length = spare + 1 :=
          List.length_take_of_le full
        by_cases member : key ∈ keys.take (spare + 1)
        · have shorter := length_filter_of_mem
            (nodup.sublist (List.take_sublist _ _)) member
          omega
        · have kept := congrArg List.length (touch_of_absent member)
          rw [touch, List.length_cons, List.length_cons] at kept
          omega
      · rw [List.drop_eq_nil_of_le (by omega), List.filter_nil,
          List.append_nil]

theorem ofUses_concat (uses : List κ) (key : κ) :
    ofUses (uses ++ [key]) = touch (ofUses uses) key :=
  List.foldl_concat touch [] key uses

theorem nodup_ofUses (uses : List κ) : (ofUses uses).Nodup := by
  induction uses using List.reverseRecOn with
  | nil => exact List.nodup_nil
  | append_singleton earlier key inductionHypothesis =>
      rw [ofUses_concat]
      exact nodup_touch inductionHypothesis

/-- The store holds the keys that were used last. -/
theorem foldl_hold (capacity : ℕ) (uses : List κ) :
    uses.foldl (hold capacity) [] = (ofUses uses).take capacity := by
  induction uses using List.reverseRecOn with
  | nil => rw [ofUses, List.foldl_nil, List.foldl_nil, List.take_nil]
  | append_singleton earlier key inductionHypothesis =>
      rw [List.foldl_concat, inductionHypothesis, hold_take
        (nodup_ofUses earlier), ofUses_concat]
      rfl

/-! ## The rank of a key -/

theorem mem_ofUses_iff : key ∈ ofUses uses ↔ key ∈ uses := by
  induction uses using List.reverseRecOn with
  | nil => exact Iff.rfl
  | append_singleton earlier last inductionHypothesis =>
      rw [ofUses_concat, mem_touch_iff, List.mem_append,
        List.mem_singleton, or_comm]
      exact or_congr_left inductionHypothesis

/-- Later uses come in front of earlier ones. -/
theorem foldl_touch (later : List κ) :
    later.foldl touch keys =
      ofUses later ++ keys.filter fun other => !decide (other ∈ later) := by
  induction later using List.reverseRecOn with
  | nil => simp [ofUses]
  | append_singleton earlier key inductionHypothesis =>
      rw [List.foldl_concat, inductionHypothesis, ofUses_concat, touch, touch,
        List.filter_append, List.filter_filter, List.cons_append]
      have last : (keys.filter fun other =>
          !decide (other = key) && !decide (other ∈ earlier)) =
            keys.filter fun other => !decide (other ∈ earlier ++ [key]) :=
        List.filter_congr fun other _ => by simp [Bool.and_comm]
      rw [last]

theorem length_ofUses (uses : List κ) :
    (ofUses uses).length = uses.dedup.length := by
  refine List.Perm.length_eq ((List.perm_ext_iff_of_nodup
    (nodup_ofUses uses) (List.nodup_dedup uses)).mpr fun key => ?_)
  rw [mem_ofUses_iff, List.mem_dedup]

/-- A key is held until as many others have been used as the store can hold. -/
theorem mem_take_ofUses_iff {earlier later : List κ} (last : key ∉ later) :
    key ∈ (ofUses (earlier ++ key :: later)).take capacity ↔
      later.dedup.length < capacity := by
  have order : ofUses (earlier ++ key :: later) =
      ofUses later ++ key :: (ofUses earlier).filter fun other =>
        !decide (other = key) && !decide (other ∈ later) := by
    have whole : ofUses (earlier ++ key :: later) =
        later.foldl touch (touch (ofUses earlier) key) := by
      rw [ofUses, List.foldl_append, List.foldl_cons]
      rfl
    rw [whole, foldl_touch, touch, List.filter_cons_of_pos (by simp [last]),
      List.filter_filter]
    refine congrArg (fun tail => ofUses later ++ key :: tail) ?_
    exact List.filter_congr fun other _ => Bool.and_comm _ _
  have absent : key ∉ ofUses later := fun member =>
    last (mem_ofUses_iff.mp member)
  rw [order, List.take_append, length_ofUses, List.mem_append]
  constructor
  · rintro (front | behind)
    · exact absurd (List.mem_of_mem_take front) absent
    · by_contra full
      rw [Nat.sub_eq_zero_of_le (Nat.le_of_not_lt full), List.take_zero] at behind
      exact List.not_mem_nil behind
  · intro room
    refine Or.inr ?_
    obtain ⟨spare, same⟩ := Nat.exists_eq_succ_of_ne_zero
      (Nat.sub_ne_zero_of_lt room)
    rw [same, List.take_succ_cons]
    exact List.mem_cons_self

omit [DecidableEq κ] in
theorem exists_last_use (member : key ∈ uses) :
    ∃ earlier later, uses = earlier ++ key :: later ∧ key ∉ later := by
  obtain ⟨later, earlier, split, last⟩ :=
    List.eq_append_cons_of_mem (List.mem_reverse.mpr member)
  refine ⟨earlier.reverse, later.reverse, ?_, ?_⟩
  · rw [← List.reverse_reverse uses, split, List.reverse_append,
      List.reverse_cons, List.append_assoc, List.singleton_append]
  · rwa [List.mem_reverse]

/-- The store holds what it was asked for often enough. -/
theorem mem_take_ofUses :
    key ∈ (ofUses uses).take capacity ↔
      ∃ earlier later,
        uses = earlier ++ key :: later ∧ key ∉ later ∧
          later.dedup.length < capacity := by
  constructor
  · intro member
    obtain ⟨earlier, later, rfl, last⟩ :=
      exists_last_use (mem_ofUses_iff.mp (List.mem_of_mem_take member))
    exact ⟨earlier, later, rfl, last, (mem_take_ofUses_iff last).mp member⟩
  · rintro ⟨earlier, later, rfl, last, room⟩
    exact (mem_take_ofUses_iff last).mpr room

/-! ## Stores of two sizes -/

/-- The smaller store holds a part of the larger one, in the same order, and
the same keys as long as it has room. -/
structure Within (less more : ℕ) (smaller larger : List κ) : Prop where
  sublist : smaller.Sublist larger
  room : smaller.length < less → smaller = larger
  bounded : smaller.length ≤ less
  largerBounded : larger.length ≤ more
  nodup : larger.Nodup

variable {less more : ℕ} {smaller larger : List κ}

omit [DecidableEq κ] in
theorem Within.nil : Within less more ([] : List κ) [] :=
  ⟨List.Sublist.refl _, fun _ => rfl, Nat.zero_le _, Nat.zero_le _,
    List.nodup_nil⟩

private theorem sublist_touch (sublist : smaller.Sublist larger) (key : κ) :
    (touch smaller key).Sublist (touch larger key) :=
  (sublist.filter _).cons_cons key

omit [DecidableEq κ] in
private theorem take_pred_sublist (sublist : smaller.Sublist larger) :
    (smaller.take (smaller.length - 1)).Sublist
      (larger.take (larger.length - 1)) := by
  have reversed := (sublist.reverse.tail).reverse
  rw [List.tail_reverse, List.tail_reverse, List.reverse_reverse,
    List.reverse_reverse] at reversed
  rwa [List.dropLast_eq_take, List.dropLast_eq_take] at reversed

/-- Both stores are used. -/
theorem Within.hold (within : Within less more smaller larger)
    (le : less ≤ more) (key : κ) :
    Within less more (hold less smaller key) (hold more larger key) := by
  have smallerNodup := within.nodup.sublist within.sublist
  have bounded : (Recency.hold less smaller key).length ≤ less :=
    List.length_take_le _ _
  have largerBounded : (Recency.hold more larger key).length ≤ more :=
    List.length_take_le _ _
  have nodup : (Recency.hold more larger key).Nodup :=
    (nodup_touch within.nodup).sublist (List.take_sublist _ _)
  by_cases same : smaller.length < less
  · -- as long as there is room both hold the same keys
    have equal := within.room same
    subst equal
    refine ⟨?_, ?_, bounded, largerBounded, nodup⟩
    · exact List.take_sublist_take_left le
    · intro room
      have short : (touch smaller key).length < less := by
        rw [Recency.hold, List.length_take] at room
        omega
      rw [Recency.hold, Recency.hold, List.take_of_length_le (Nat.le_of_lt short),
        List.take_of_length_le
          (Nat.le_trans (Nat.le_of_lt short) le)]
  · have full : smaller.length = less := by
      have bound := within.bounded
      omega
    refine ⟨?_, ?_, bounded, largerBounded, nodup⟩
    · by_cases member : key ∈ larger
      · have whole : Recency.hold more larger key = touch larger key := by
          refine List.take_of_length_le ?_
          rw [length_touch_of_mem within.nodup member]
          exact within.largerBounded
        rw [whole]
        exact (List.take_sublist _ _).trans
          (sublist_touch within.sublist key)
      · have absent : key ∉ smaller := fun inside =>
          member (within.sublist.subset inside)
        rw [Recency.hold, Recency.hold, touch_of_absent member,
          touch_of_absent absent]
        cases less with
        | zero => exact List.nil_sublist _
        | succ spare =>
            cases more with
            | zero => omega
            | succ others =>
                rw [List.take_succ_cons, List.take_succ_cons]
                refine List.Sublist.cons_cons key ?_
                have front := take_pred_sublist within.sublist
                rw [full, Nat.add_sub_cancel] at front
                refine front.trans (List.take_sublist_take_left ?_)
                have bound := within.largerBounded
                omega
    · intro room
      exfalso
      have grown : less ≤ (touch smaller key).length := by
        by_cases member : key ∈ smaller
        · rw [length_touch_of_mem smallerNodup member]
          exact Nat.le_of_eq full.symm
        · rw [touch_of_absent member, List.length_cons, full]
          exact Nat.le_succ _
      rw [Recency.hold, List.length_take, Nat.min_eq_left grown] at room
      exact Nat.lt_irrefl _ room

/-- Only the larger store is used, with a key that the smaller one lacks. -/
theorem Within.touch_larger (within : Within less more smaller larger)
    (member : key ∈ larger) (absent : key ∉ smaller) :
    Within less more smaller (Recency.hold more larger key) := by
  have length_eq := length_touch_of_mem within.nodup member
  have whole : Recency.hold more larger key = touch larger key := by
    refine List.take_of_length_le ?_
    rw [length_eq]
    exact within.largerBounded
  rw [whole]
  refine ⟨?_, ?_, within.bounded, ?_, nodup_touch within.nodup⟩
  · have kept := sublist_touch within.sublist key
    rw [touch_of_absent absent] at kept
    exact (List.sublist_cons_self key smaller).trans kept
  · intro room
    rw [within.room room] at absent
    exact absurd member absent
  · rw [length_eq]
    exact within.largerBounded

end Recency
