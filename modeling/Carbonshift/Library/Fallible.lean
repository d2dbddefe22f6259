import Mathlib.Data.List.Basic

/-!
# Fallible computations

A computation of several parts succeeds if every part does.  A fold over a
list keeps what each of its steps keeps.
-/

universe u v w

namespace Fallible

variable {ε : Type u} {α β : Type v}

theorem bind_eq_ok_iff {first : Except ε α} {next : α → Except ε β}
    {result : β} :
    first.bind next = .ok result ↔
      ∃ value, first = .ok value ∧ next value = .ok result := by
  cases first with
  | error reason => simp [Except.bind]
  | ok value => simp [Except.bind]

theorem bind_eq_error_iff {first : Except ε α} {next : α → Except ε β}
    {reason : ε} :
    first.bind next = .error reason ↔
      first = .error reason ∨
        ∃ value, first = .ok value ∧ next value = .error reason := by
  cases first with
  | error other => simp [Except.bind]
  | ok value => simp [Except.bind]

/-- What holds at the start and is kept by every step holds in the end. -/
theorem foldlM_induction {ι : Type w} {step : α → ι → Except ε α}
    (holds : α → Prop)
    (preserved : ∀ state item next,
      holds state → step state item = .ok next → holds next)
    {items : List ι} {start final : α} (initially : holds start)
    (folded : items.foldlM step start = .ok final) : holds final := by
  induction items generalizing start with
  | nil =>
      cases folded
      exact initially
  | cons item rest inductionHypothesis =>
      rw [List.foldlM_cons] at folded
      obtain ⟨next, taken, others⟩ := bind_eq_ok_iff.mp folded
      exact inductionHypothesis (preserved start item next initially taken)
        others

end Fallible
