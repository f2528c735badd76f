import TemplateEngine.Condition.Evaluation
import TemplateEngine.Proofs.Number.Rounded

/-!
# Integers in conditions

Conditions compare two integers as the floating point numbers that these are
taken for.  So they compare integers of up to 53 binary digits exactly, and
never take the less of two integers for the greater, but take different integers
for equal if they are rounded to the same number.
-/

namespace TemplateEngine

namespace Condition

/-- How a comparison is written between two values. -/
def Comparison.spelling : Comparison → String
  | equal => " == "
  | unequal => " != "
  | less => " < "
  | lessOrEqual => " <= "
  | greater => " > "
  | greaterOrEqual => " >= "

theorem Comparison.readTokens_spelling (comparison : Comparison) :
    readTokens comparison.spelling.toList =
      .ok [.symbol (.compare comparison)] := by
  cases comparison <;> rfl

/-- What a comparison says of two integers. -/
def Comparison.relates (comparison : Comparison) (left right : Int) : Bool :=
  match comparison with
  | equal => left = right
  | unequal => left ≠ right
  | less => left < right
  | lessOrEqual => left ≤ right
  | greater => right < left
  | greaterOrEqual => right ≤ left

end Condition

namespace Value

open Number

variable {left right : Int}

theorem looseEquals_int (leftBound : left.natAbs < 2 ^ 64)
    (rightBound : right.natAbs < 2 ^ 64) :
    looseEquals (int left) (int right) =
      decide (rounded left = rounded right) :=
  Binary64.equals_ofInt leftBound rightBound

theorem compare?_int (leftBound : left.natAbs < 2 ^ 64)
    (rightBound : right.natAbs < 2 ^ 64) :
    compare? (int left) (int right) =
      some (compare (rounded left) (rounded right)) :=
  Binary64.compare?_ofInt leftBound rightBound

end Value

namespace Condition

open Number

variable {left right : Int}

theorem Comparison.holds_int (leftBound : left.natAbs < 2 ^ 64)
    (rightBound : right.natAbs < 2 ^ 64) (comparison : Comparison) :
    comparison.holds (.int left) (.int right) =
      comparison.relates (rounded left) (rounded right) := by
  have same := Value.looseEquals_int leftBound rightBound
  have order := Value.compare?_int leftBound rightBound
  cases comparison
  case equal => exact same
  case unequal => rw [holds, same, relates, decide_not]
  all_goals
    simp only [holds, order, relates]
    rcases lt_trichotomy (rounded left) (rounded right) with
      less | equal | greater
    · simp [compare_lt_iff_lt.mpr less, less, less.le, less.not_gt, less.not_ge]
    · simp [equal]
    · simp [compare_gt_iff_gt.mpr greater, greater, greater.le, greater.not_gt,
        greater.not_ge]

/-- A condition of two values around a comparison is decided by the
comparison. -/
theorem decide_comparison {text : String} {comparison : Comparison}
    (read : readTokens text.toList = .ok [.symbol (.compare comparison)])
    (left right : Value) :
    decide [.value left, .text text, .value right] =
      .ok (comparison.holds left right) := by
  have tokens : tokensOf [.value left, .text text, .value right] =
      .ok [.value left, .symbol (.compare comparison), .value right] := by
    simp [tokensOf, read, Except.map]
  rw [decide, tokens]
  rfl

/-- Integers of 64 bits are compared as the floating point numbers that they are
taken for.  The order of two integers is never reversed, and it is kept where
both have at most 53 binary digits; but integers that differ by up to 1024 may
be equal. -/
theorem compares_integers {left right : Int} (leftBound : isInteger left)
    (rightBound : isInteger right) :
    (Value.looseEquals (.int left) (.int right) = true ↔
        rounded left = rounded right) ∧
      Value.compare? (.int left) (.int right) =
        some (compare (rounded left) (rounded right)) ∧
      (∀ (text : String) (comparison : Comparison),
        readTokens text.toList = .ok [.symbol (.compare comparison)] →
          decide [.value (.int left), .text text, .value (.int right)] =
            .ok (comparison.relates (rounded left) (rounded right))) ∧
      (left ≤ right → rounded left ≤ rounded right) ∧
      (left.natAbs ≤ 2 ^ 53 → rounded left = left) ∧
      (rounded left = rounded right → (left - right).natAbs ≤ 1024) := by
  have bounds {number : Int} (bounded : isInteger number) :
      number.natAbs ≤ 2 ^ 63 ∧ number.natAbs < 2 ^ 64 := by
    rw [isInteger, Bool.and_eq_true, decide_eq_true_iff, decide_eq_true_iff]
      at bounded
    omega
  obtain ⟨leftNear, leftFits⟩ := bounds leftBound
  obtain ⟨rightNear, rightFits⟩ := bounds rightBound
  refine ⟨?_, Value.compare?_int leftFits rightFits, ?_,
    fun le => rounded_mono le, rounded_of_le,
    natAbs_sub_le_of_rounded_eq leftNear rightNear⟩
  · rw [Value.looseEquals_int leftFits rightFits, decide_eq_true_iff]
  · intro text comparison read
    rw [decide_comparison read, Comparison.holds_int leftFits rightFits]

theorem compares_integers_adjacent :
    Value.looseEquals (.int 9007199254740993) (.int 9007199254740992) = true ∧
      decide [.value (.int 9007199254740993), .text " == ",
          .value (.int 9007199254740992)] =
        .ok true := by
  obtain ⟨equal, -, decided, -⟩ :=
    compares_integers (show isInteger 9007199254740993 by decide)
      (show isInteger 9007199254740992 by decide)
  have same : rounded 9007199254740993 = rounded 9007199254740992 := by
    decide +kernel
  refine ⟨equal.mpr same, ?_⟩
  rw [decided " == " .equal rfl, same]
  rfl

end Condition

end TemplateEngine
