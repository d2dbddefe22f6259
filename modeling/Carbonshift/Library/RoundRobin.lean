import Mathlib.Order.Lattice
import Mathlib.Data.List.Basic

/-!
# Round-robin arbitration

Clients are ordered by a key.  An arbiter remembers the client it served last
and picks, among the candidates of the moment, the first one behind it, or the
first of all when nobody is behind.  What is picked may still be dropped; only
serving moves the cursor.  Candidates may come and go, and the client under
the cursor need not be a candidate any more.
-/

universe u v

namespace RoundRobin

variable {β : Type u} {κ : Type v} [LinearOrder κ] (key : β → κ)

/-- The positions from the start round to just before the goal. -/
def Approaching (start goal position : κ) : Prop :=
  if start < goal then
    start ≤ position ∧ position < goal
  else
    start ≤ position ∨ position < goal

/-- The candidate is the first behind the cursor, or the first of all. -/
inductive InTurn (candidates : List β) (cursor : Option β) (chosen : β) :
    Prop where
  | behind {last : β}
      (member : chosen ∈ candidates)
      (cursor_eq : cursor = some last)
      (later : key last < key chosen)
      (first : ∀ other ∈ candidates, key last < key other →
        key chosen ≤ key other) :
      InTurn candidates cursor chosen
  | around
      (member : chosen ∈ candidates)
      (nobody : ∀ last, cursor = some last → ∀ other ∈ candidates,
        key other ≤ key last)
      (first : ∀ other ∈ candidates, key chosen ≤ key other) :
      InTurn candidates cursor chosen

section Positions

variable {key} {start goal last chosen : β} {candidates : List β}

theorem approaching_start (start goal : κ) :
    Approaching start goal start := by
  unfold Approaching
  split
  · rename_i before
    exact ⟨le_rfl, before⟩
  · exact Or.inl le_rfl

/-- While the goal is a candidate, no turn passes over it. -/
theorem InTurn.approaching
    (turn : InTurn key candidates (some last) chosen)
    (waiting : goal ∈ candidates)
    (near : Approaching (key start) (key goal) (key last)) :
    key chosen = key goal ∨
      (Approaching (key start) (key goal) (key chosen) ∧
        key chosen ≠ key start) := by
  rcases eq_or_ne (key chosen) (key goal) with arrived | different
  · exact Or.inl arrived
  refine Or.inr ?_
  unfold Approaching at near ⊢
  cases turn with
  | behind _ cursor_eq later first =>
      cases cursor_eq
      split at near
      · rename_i ordered
        rw [if_pos ordered]
        have within : key chosen < key goal :=
          lt_of_le_of_ne (first goal waiting near.2) different
        have after : key start < key chosen := lt_of_le_of_lt near.1 later
        exact ⟨⟨after.le, within⟩, after.ne'⟩
      · rename_i wrapped
        rw [if_neg wrapped]
        rcases near with beyond | short
        · have after : key start < key chosen := lt_of_le_of_lt beyond later
          exact ⟨Or.inl after.le, after.ne'⟩
        · have within : key chosen < key goal :=
            lt_of_le_of_ne (first goal waiting short) different
          exact ⟨Or.inr within,
            (within.trans_le (not_lt.mp wrapped)).ne⟩
  | around _ nobody first =>
      have passed := nobody last rfl goal waiting
      have within : key chosen < key goal :=
        lt_of_le_of_ne (first goal waiting) different
      split at near
      · exact absurd near.2 (not_lt.mpr passed)
      · rename_i wrapped
        rw [if_neg wrapped]
        exact ⟨Or.inr within, (within.trans_le (not_lt.mp wrapped)).ne⟩

end Positions

/-! ## Runs of an arbiter -/

/-- What an arbiter lets the outside see. -/
inductive Event (β : Type u) where
  | offered (candidates : List β)
  | served (client : β)
  deriving DecidableEq, Repr

/-- The client served last, and the one picked but not served yet. -/
structure Arbiter (β : Type u) where
  cursor : Option β
  picked : Option β

/-- A step of the arbiter and the events it shows. -/
inductive Step : Arbiter β → List (Event β) → Arbiter β → Prop where
  | offer {candidates : List β} {cursor : Option β} {chosen : β}
      (turn : InTurn key candidates cursor chosen) :
      Step ⟨cursor, none⟩ [.offered candidates] ⟨cursor, some chosen⟩
  | serve (cursor : Option β) (chosen : β) :
      Step ⟨cursor, some chosen⟩ [.served chosen] ⟨some chosen, none⟩
  | drop (cursor : Option β) (chosen : β) :
      Step ⟨cursor, some chosen⟩ [] ⟨cursor, none⟩
  | idle (arbiter : Arbiter β) : Step arbiter [] arbiter

/-- Between two consecutive turns of a client, everyone who was a candidate
whenever the arbiter decided has had a turn. -/
def NoStarvation (log : List (Event β)) : Prop :=
  ∀ client other earlier between later, other ≠ client →
    log = earlier ++ .served client :: (between ++ .served client :: later) →
      .served client ∉ between →
        (∀ candidates, .offered candidates ∈ between → other ∈ candidates) →
          .served other ∈ between

/-- Since a client's last turn the cursor has not passed over anyone who has
been waiting all along. -/
structure Fair (log : List (Event β)) (arbiter : Arbiter β) : Prop where
  fair : NoStarvation log
  waiting : ∀ client other earlier since, other ≠ client →
    log = earlier ++ .served client :: since →
      .served client ∉ since → .served other ∉ since →
        (∀ candidates, .offered candidates ∈ since → other ∈ candidates) →
          ∃ last, arbiter.cursor = some last ∧
            Approaching (key client) (key other) (key last) ∧
              ∀ chosen, arbiter.picked = some chosen →
                chosen = other ∨
                  (Approaching (key client) (key other) (key chosen) ∧
                    chosen ≠ client)

variable {key}

theorem Fair.nil (cursor picked : Option β) :
    Fair key [] ⟨cursor, picked⟩ where
  fair client other earlier between later _ split := by
    cases earlier <;> cases split
  waiting client other earlier since _ split := by
    cases earlier <;> cases split

/-- A last event belongs to the end of a split log. -/
private theorem split_concat {γ : Type u} {log earlier since : List γ}
    {event first : γ}
    (split : log ++ [event] = earlier ++ first :: since) :
    (log = earlier ∧ event = first ∧ since = []) ∨
      ∃ before, log = earlier ++ first :: before ∧ since = before ++ [event] := by
  rcases List.eq_nil_or_concat' since with rfl | ⟨before, final, rfl⟩
  · obtain ⟨same, last⟩ := List.append_inj' split rfl
    exact Or.inl ⟨same, by simpa using last, rfl⟩
  · rw [← List.cons_append, ← List.append_assoc] at split
    obtain ⟨same, last⟩ := List.append_inj' split rfl
    cases last
    exact Or.inr ⟨before, same, rfl⟩

/-- A decision adds no turn. -/
private theorem NoStarvation.offered {log : List (Event β)}
    (fair : NoStarvation log) (candidates : List β) :
    NoStarvation (log ++ [.offered candidates]) := by
  intro client other earlier between later different split alone asked
  rw [← List.cons_append, ← List.append_assoc] at split
  rcases split_concat split with ⟨_, turn, _⟩ | ⟨before, split, rest⟩
  · cases turn
  · rw [List.append_assoc, List.cons_append] at split
    exact fair client other earlier between before different split alone asked

/-- A turn of a client that was picked passes over nobody. -/
private theorem Fair.noStarvation_served {log : List (Event β)}
    {cursor : Option β} {chosen : β}
    (fair : Fair key log ⟨cursor, some chosen⟩) :
    NoStarvation (log ++ [.served chosen]) := by
  intro client other earlier between later different split alone asked
  rw [← List.cons_append, ← List.append_assoc] at split
  rcases split_concat split with ⟨logged, turn, _⟩ | ⟨before, logged, _⟩
  · cases turn
    by_contra starved
    obtain ⟨_, _, _, picked⟩ := fair.waiting chosen other earlier between
      different logged alone starved asked
    rcases picked chosen rfl with same | ⟨_, absurd_⟩
    · exact different same.symm
    · exact absurd_ rfl
  · rw [List.append_assoc, List.cons_append] at logged
    exact fair.fair client other earlier between before different logged alone
      asked

/-- Every step of an arbiter is fair. -/
theorem Fair.step (injective : Function.Injective key)
    {log events : List (Event β)} {arbiter next : Arbiter β}
    (fair : Fair key log arbiter) (step : Step key arbiter events next) :
    Fair key (log ++ events) next := by
  cases step with
  | idle =>
      rw [List.append_nil]
      exact fair
  | drop cursor chosen =>
      rw [List.append_nil]
      refine ⟨fair.fair, ?_⟩
      intro client other earlier since different split alone starved asked
      obtain ⟨last, cursor_eq, near, _⟩ := fair.waiting client other earlier
        since different split alone starved asked
      exact ⟨last, cursor_eq, near, nofun⟩
  | @offer candidates cursor chosen turn =>
      refine ⟨fair.fair.offered candidates, ?_⟩
      intro client other earlier since different split alone starved asked
      rcases split_concat split with ⟨_, served, _⟩ | ⟨before, logged, rfl⟩
      · cases served
      obtain ⟨last, cursor_eq, near, _⟩ := fair.waiting client other earlier
        before different logged (fun member => alone (by simp [member]))
        (fun member => starved (by simp [member]))
        (fun offered member => asked offered (by simp [member]))
      refine ⟨last, cursor_eq, near, ?_⟩
      intro picked picked_eq
      cases picked_eq
      have waiting : other ∈ candidates := asked candidates (by simp)
      dsimp only at cursor_eq
      rw [cursor_eq] at turn
      rcases turn.approaching waiting near with arrived | ⟨within, away⟩
      · exact Or.inl (injective arrived)
      · exact Or.inr ⟨within, fun same => away (congrArg key same)⟩
  | serve cursor chosen =>
      refine ⟨fair.noStarvation_served, ?_⟩
      intro client other earlier since different split alone starved asked
      rcases split_concat split with ⟨_, served, rfl⟩ | ⟨before, logged, rfl⟩
      · cases served
        exact ⟨chosen, rfl,
          approaching_start (key chosen) (key other), nofun⟩
      · obtain ⟨_, _, _, picked⟩ := fair.waiting client other earlier before
          different logged (fun member => alone (by simp [member]))
          (fun member => starved (by simp [member]))
          (fun offered member => asked offered (by simp [member]))
        rcases picked chosen rfl with same | ⟨within, _⟩
        · exact absurd (by simp [same]) starved
        · exact ⟨chosen, rfl, within, nofun⟩

end RoundRobin
