import TemplateEngine.Proofs.Condition.Compared
import TemplateEngine.Proofs.Value.Compared

/-!
# Comparisons that exclude each other

Of two values one is less than the other just if the other is greater, and never
both.  At most one of less, equal and greater holds of them where neither is
true.  The order takes true for the number one, but equality compares what
counts as true, so that true also equals the other numbers, which it is less or
greater than.
-/

namespace TemplateEngine.Condition

open Value (IsOtherTruth Overlap)

namespace Comparison

variable {left right : Value}

/-- Less and greater are the same with the sides exchanged. -/
theorem holds_less_eq (left right : Value) :
    less.holds left right = greater.holds right left := by
  rw [holds, holds, Value.compare?_swap left right]
  cases Value.compare? left right with
  | none => rfl
  | some order => cases order <;> rfl

/-- The comparisons of which at most one should hold. -/
def exclusive : List Comparison :=
  [less, equal, greater]

/-- More than one of them holds just if two values are equal and have another
order. -/
theorem countP_exclusive_le_iff :
    exclusive.countP (·.holds left right) ≤ 1 ↔ ¬ Overlap left right := by
  cases ordered : Value.compare? left right with
  | none =>
      cases same : Value.looseEquals left right <;>
        simp [exclusive, holds, Overlap, *]
  | some order =>
      cases order <;> cases same : Value.looseEquals left right <;>
        simp [exclusive, holds, Overlap, *]

end Comparison

/-- Less is greater with the sides exchanged, and excludes it.  At most one of
less, equal and greater holds, unless one side is true and the other counts as
true and stands for a number other than one. -/
theorem compares_exclusively (left right : Value) :
    (∀ comparison : Comparison,
        decide [.value left, .text comparison.spelling, .value right] =
          .ok (comparison.holds left right)) ∧
      Comparison.less.holds left right = Comparison.greater.holds right left ∧
      ¬ (Comparison.less.holds left right = true ∧
        Comparison.greater.holds left right = true) ∧
      (Comparison.exclusive.countP (·.holds left right) ≤ 1 ↔
        ¬ ((left = .bool true ∧ right.IsOtherTruth) ∨
          (right = .bool true ∧ left.IsOtherTruth))) := by
  refine ⟨fun comparison =>
      decide_comparison comparison.readTokens_spelling left right,
    Comparison.holds_less_eq left right, ?_, ?_⟩
  · simp only [Comparison.holds, beq_iff_eq]
    rintro ⟨less, greater⟩
    rw [less] at greater
    cases greater
  · rw [Comparison.countP_exclusive_le_iff, Value.overlap_iff]

/-- True is less than two and equals it. -/
theorem not_compares_exclusively :
    ¬ ∀ left right : Value,
      Comparison.exclusive.countP (·.holds left right) ≤ 1 := by
  intro exclusively
  have two := exclusively (.bool true) (.int 2)
  revert two
  decide +kernel

end TemplateEngine.Condition
