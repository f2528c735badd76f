import Mathlib
import TemplateEngine.Proofs.Condition.Derivation

/-!
# Conditions are decided by their derivation

A condition is decided just if its tokens have a derivation with at most
`maxDepth` open negations and parentheses, by the truth of its value.  The sides
that a word joins are evaluated from left to right, which makes no difference to
the truth of what they are joined to.
-/

namespace TemplateEngine

namespace Condition

/-! ## Joined sides -/

/-- What comes out of the sides that a word joins if they are joined from right
to left. -/
inductive Joined (word : Symbol) (join : Bool → Bool → Bool) (side : Reading) :
    List Token → Value → List Token → Prop
  | single {tokens rest : List Token} {value : Value} :
      side tokens = .ok (value, rest) →
      (∀ later, rest ≠ .symbol word :: later) →
      Joined word join side tokens value rest
  | more {tokens later rest : List Token} {left right : Value} :
      side tokens = .ok (left, .symbol word :: later) →
      Joined word join side later right rest →
      Joined word join side tokens (.bool (join left.isTruthy right.isTruthy))
        rest

section

variable {word : Symbol} {join : Bool → Bool → Bool} {side : Reading}

theorem joinFrom_of_ne {tokens : List Token}
    (other : ∀ later, tokens ≠ .symbol word :: later) (fuel : Nat)
    (left : Value) :
    joinFrom word join side fuel left tokens = .ok (left, tokens) := by
  rw [joinFrom.eq_def]
  split
  next symbol later =>
    rw [if_neg]
    rintro rfl
    exact other later rfl
  next => rfl

variable
  (assoc : ∀ first second third,
    join (join first second) third = join first (join second third))
  (shrinks : ∀ {tokens rest : List Token} {value : Value},
    side tokens = .ok (value, rest) → rest.length ≤ tokens.length)

include assoc shrinks

theorem Joined.joinFrom_eq {tokens rest : List Token} {value : Value}
    (joined : Joined word join side tokens value rest) {fuel : Nat}
    (enough : tokens.length < fuel) (first : Value) :
    joinFrom word join side fuel first (.symbol word :: tokens) =
      .ok (.bool (join first.isTruthy value.isTruthy), rest) := by
  obtain ⟨fuel, rfl⟩ : ∃ less, fuel = less + 1 := ⟨fuel - 1, by omega⟩
  rw [joinFrom, if_pos rfl]
  induction joined generalizing first fuel with
  | single read other =>
      rw [read]
      exact joinFrom_of_ne other _ _
  | more read _ induction =>
      have shorter := shrinks read
      rw [List.length_cons] at shorter
      obtain ⟨fuel, rfl⟩ : ∃ less, fuel = less + 1 := ⟨fuel - 1, by omega⟩
      rw [read]
      dsimp only
      rw [joinFrom, if_pos rfl, induction (.bool _) fuel (by omega)]
      simp only [Value.isTruthy, assoc]

theorem joined_of_joinFrom {fuel : Nat} {tokens rest : List Token}
    {first value : Value} (enough : tokens.length ≤ fuel)
    (read : joinFrom word join side fuel first tokens = .ok (value, rest)) :
    (value = first ∧ rest = tokens ∧ ∀ later, tokens ≠ .symbol word :: later) ∨
      ∃ later right, tokens = .symbol word :: later ∧
        Joined word join side later right rest ∧
        value = .bool (join first.isTruthy right.isTruthy) := by
  induction fuel generalizing tokens first with
  | zero =>
      obtain rfl := List.eq_nil_of_length_eq_zero (Nat.le_zero.mp enough)
      cases read
      exact .inl ⟨rfl, rfl, by simp⟩
  | succ fuel induction =>
      by_cases starts : ∃ later, tokens = .symbol word :: later
      · obtain ⟨later, rfl⟩ := starts
        rw [joinFrom, if_pos rfl] at read
        split at read
        next => cases read
        next right after readSide =>
          have shorter := shrinks readSide
          rw [List.length_cons] at enough
          refine .inr ⟨later, ?_⟩
          rcases induction (by omega) read with
            ⟨rfl, rfl, other⟩ | ⟨last, next, rfl, joined, rfl⟩
          · exact ⟨right, rfl, .single readSide other, rfl⟩
          · exact ⟨_, rfl, .more readSide joined,
              by simp only [Value.isTruthy, assoc]⟩
      · have other : ∀ later, tokens ≠ .symbol word :: later :=
          fun later same => starts ⟨later, same⟩
        rw [joinFrom_of_ne other] at read
        cases read
        exact .inl ⟨rfl, rfl, other⟩

theorem joined_eq_ok_iff {tokens rest : List Token} {value : Value} :
    joined word join side tokens = .ok (value, rest) ↔
      Joined word join side tokens value rest := by
  constructor
  · intro all
    rw [joined] at all
    split at all
    next => cases all
    next left after read =>
      rcases joined_of_joinFrom assoc shrinks (Nat.le_refl _) all with
        ⟨rfl, rfl, other⟩ | ⟨later, right, rfl, joins, rfl⟩
      · exact .single read other
      · exact .more read joins
  · intro joins
    cases joins with
    | single read other =>
        rw [joined, read]
        exact joinFrom_of_ne other _ _
    | more read later =>
        rw [joined, read]
        exact later.joinFrom_eq assoc shrinks (Nat.lt_succ_self _) _

end

/-! ## Readings of derivations -/

/-- Whether a reading evaluates the derivations of a kind that have few enough
open negations and parentheses, where these derivations end. -/
structure Evaluates {Tree : Type} (reading : Reading)
    (tokens : Tree → List Token) (nesting : Tree → Nat) (value : Tree → Value)
    (levels degree : Nat) : Prop where
  sound :
    ∀ {row rest : List Token} {found : Value}, reading row = .ok (found, rest) →
      ∃ tree,
        nesting tree ≤ levels ∧ row = tokens tree ++ rest ∧ value tree = found
  complete :
    ∀ {tree : Tree} {rest : List Token}, nesting tree ≤ levels →
      Ends degree rest → reading (tokens tree ++ rest) = .ok (value tree, rest)

theorem Evaluates.shrinks {Tree : Type} {reading : Reading}
    {tokens : Tree → List Token} {nesting : Tree → Nat} {value : Tree → Value}
    {levels degree : Nat}
    (evaluates : Evaluates reading tokens nesting value levels degree)
    {row rest : List Token} {found : Value}
    (read : reading row = .ok (found, rest)) : rest.length ≤ row.length := by
  obtain ⟨tree, -, rfl, -⟩ := evaluates.sound read
  rw [List.length_append]
  exact Nat.le_add_left _ _

theorem Ends.ne_cons {degree : Nat} {rest : List Token}
    (ends : Ends degree rest) {symbol : Symbol}
    (close : symbol.looseness ≤ degree) (later : List Token) :
    rest ≠ .symbol symbol :: later :=
  fun same => absurd (ends symbol later same) (Nat.not_lt.mpr close)

section

variable {reading : Reading} {levels : Nat}

section

variable
  (evaluates :
    Evaluates reading Negation.tokens Negation.nesting Negation.value levels 1)

include evaluates

theorem Conjunction.joined (tree : Conjunction) {rest : List Token}
    (shallow : tree.nesting ≤ levels) (ends : Ends 2 rest) :
    Joined .and (· && ·) reading (tree.tokens ++ rest) tree.value rest := by
  match tree with
  | .single side =>
      exact .single (evaluates.complete shallow (ends.mono (by decide)))
        (ends.ne_cons (Nat.le_refl 2))
  | .and side others =>
      rw [Conjunction.nesting, Nat.max_le] at shallow
      rw [Conjunction.tokens, List.append_assoc, List.cons_append]
      exact .more (evaluates.complete shallow.1 (.cons (by decide) _))
        (Conjunction.joined others shallow.2 ends)

theorem Joined.exists_conjunction {row rest : List Token} {found : Value}
    (joined : Joined .and (· && ·) reading row found rest) :
    ∃ tree : Conjunction, tree.nesting ≤ levels ∧ row = tree.tokens ++ rest ∧
      tree.value = found := by
  induction joined with
  | single read _ =>
      obtain ⟨side, shallow, rfl, rfl⟩ := evaluates.sound read
      exact ⟨.single side, shallow, rfl, rfl⟩
  | more read _ induction =>
      obtain ⟨side, shallow, rfl, rfl⟩ := evaluates.sound read
      obtain ⟨others, shallows, rfl, rfl⟩ := induction
      refine ⟨.and side others, Nat.max_le.mpr ⟨shallow, shallows⟩, ?_, rfl⟩
      rw [Conjunction.tokens, List.append_assoc, List.cons_append]

theorem evaluates_conjunction :
    Evaluates (Condition.joined .and (· && ·) reading) Conjunction.tokens
      Conjunction.nesting Conjunction.value levels 2 := by
  have joined_iff {row rest : List Token} {found : Value} :=
    @joined_eq_ok_iff .and (· && ·) reading Bool.and_assoc evaluates.shrinks row
      rest found
  exact ⟨fun read => Joined.exists_conjunction evaluates (joined_iff.mp read),
    fun {tree} _ shallow ends =>
      joined_iff.mpr (tree.joined evaluates shallow ends)⟩

end

section

variable
  (evaluates :
    Evaluates reading Conjunction.tokens Conjunction.nesting Conjunction.value
      levels 2)

include evaluates

theorem Disjunction.joined (tree : Disjunction) {rest : List Token}
    (shallow : tree.nesting ≤ levels) (ends : Ends 3 rest) :
    Joined .or (· || ·) reading (tree.tokens ++ rest) tree.value rest := by
  match tree with
  | .single side =>
      exact .single (evaluates.complete shallow (ends.mono (by decide)))
        (ends.ne_cons (Nat.le_refl 3))
  | .or side others =>
      rw [Disjunction.nesting, Nat.max_le] at shallow
      rw [Disjunction.tokens, List.append_assoc, List.cons_append]
      exact .more (evaluates.complete shallow.1 (.cons (by decide) _))
        (Disjunction.joined others shallow.2 ends)

theorem Joined.exists_disjunction {row rest : List Token} {found : Value}
    (joined : Joined .or (· || ·) reading row found rest) :
    ∃ tree : Disjunction, tree.nesting ≤ levels ∧ row = tree.tokens ++ rest ∧
      tree.value = found := by
  induction joined with
  | single read _ =>
      obtain ⟨side, shallow, rfl, rfl⟩ := evaluates.sound read
      exact ⟨.single side, shallow, rfl, rfl⟩
  | more read _ induction =>
      obtain ⟨side, shallow, rfl, rfl⟩ := evaluates.sound read
      obtain ⟨others, shallows, rfl, rfl⟩ := induction
      refine ⟨.or side others, Nat.max_le.mpr ⟨shallow, shallows⟩, ?_, rfl⟩
      rw [Disjunction.tokens, List.append_assoc, List.cons_append]

end

theorem evaluates_disjunction
    (evaluates :
      Evaluates reading Negation.tokens Negation.nesting Negation.value levels
        1) :
    Evaluates (disjunction reading) Disjunction.tokens Disjunction.nesting
      Disjunction.value levels 3 := by
  have conjunctions := evaluates_conjunction evaluates
  have joined_iff {row rest : List Token} {found : Value} :=
    @joined_eq_ok_iff .or (· || ·) _ Bool.or_assoc conjunctions.shrinks row rest
      found
  exact ⟨fun read =>
      Joined.exists_disjunction conjunctions (joined_iff.mp read),
    fun {tree} _ shallow ends =>
      joined_iff.mpr (tree.joined conjunctions shallow ends)⟩

end

/-- Whether what is read inside of negations and parentheses has one level less,
if there is one. -/
inductive Inner : Option Reading → Nat → Prop
  | none : Inner none 0
  | some {reading : Reading} {levels : Nat} :
      Evaluates reading Negation.tokens Negation.nesting Negation.value levels
        1 →
      Inner (some reading) (levels + 1)

section

variable {inner : Option Reading} {levels : Nat} (opens : Inner inner levels)

include opens

theorem evaluates_primary :
    Evaluates (primary inner) Primary.tokens Primary.nesting Primary.value
      levels 0 := by
  constructor
  · intro row rest found read
    rw [primary.eq_def] at read
    split at read
    next content later =>
      cases read
      exact ⟨.single found, Nat.zero_le _, rfl, rfl⟩
    next later =>
      cases opens with
      | none => cases read
      | some evaluates =>
          dsimp only at read
          split at read
          next => cases read
          next content after readInner =>
            cases read
            obtain ⟨tree, shallow, rfl, rfl⟩ :=
              (evaluates_disjunction evaluates).sound readInner
            refine ⟨.group tree, ?_, ?_, rfl⟩
            · rw [Primary.nesting, Nat.add_comm]
              exact Nat.succ_le_succ shallow
            · rw [Primary.tokens, List.cons_append, List.append_assoc]
              rfl
          next => cases read
    next => cases read
    next => cases read
  · intro tree rest shallow ends
    cases tree with
    | single content => rfl
    | group tree =>
        cases opens with
        | none => exact absurd shallow (by simp [Primary.nesting])
        | some evaluates =>
            rw [Primary.nesting, Nat.add_comm] at shallow
            have readInner := (evaluates_disjunction evaluates).complete
              (Nat.le_of_succ_le_succ shallow)
              (Ends.cons (by decide : 3 < Symbol.closing.looseness) rest)
            rw [Primary.tokens, List.cons_append, List.append_assoc,
              List.singleton_append, primary, readInner]
            rfl

theorem evaluates_comparison :
    Evaluates (comparison inner) Relation.tokens Relation.nesting Relation.value
      levels 1 := by
  have sides := evaluates_primary opens
  constructor
  · intro row rest found read
    rw [comparison] at read
    split at read
    next => cases read
    next left comparison later readLeft =>
      obtain ⟨leftTree, shallow, rfl, rfl⟩ := sides.sound readLeft
      split at read
      next => cases read
      next right after readRight =>
        cases read
        obtain ⟨rightTree, shallows, rfl, rfl⟩ := sides.sound readRight
        refine ⟨.compare leftTree comparison rightTree,
          Nat.max_le.mpr ⟨shallow, shallows⟩, ?_, rfl⟩
        rw [Relation.tokens, List.append_assoc, List.cons_append]
    next left later _ readLeft =>
      cases read
      obtain ⟨tree, shallow, rfl, rfl⟩ := sides.sound readLeft
      exact ⟨.single tree, shallow, rfl, rfl⟩
  · intro tree rest shallow ends
    cases tree with
    | single side =>
        have read := sides.complete shallow (ends.mono (Nat.zero_le 1))
        rw [Relation.tokens, comparison, read]
        split
        next failed => cases failed
        next word later same =>
          cases same
          exact absurd (ends (.compare word) later rfl) (Nat.lt_irrefl 1)
        next same =>
          cases same
          rfl
    | compare left word right =>
        rw [Relation.nesting, Nat.max_le] at shallow
        rw [Relation.tokens, List.append_assoc, List.cons_append, comparison,
          sides.complete shallow.1 (.cons Nat.one_pos _)]
        dsimp only
        rw [sides.complete shallow.2 (ends.mono (Nat.zero_le 1))]
        rfl

theorem evaluates_negationAround :
    Evaluates (negationAround inner) Negation.tokens Negation.nesting
      Negation.value levels 1 := by
  have relations := evaluates_comparison opens
  constructor
  · intro row rest found read
    rw [negationAround.eq_def] at read
    split at read
    next later =>
      cases opens with
      | none => cases read
      | some evaluates =>
          dsimp only at read
          split at read
          next => cases read
          next content after readOperand =>
            cases read
            obtain ⟨tree, shallow, rfl, rfl⟩ := evaluates.sound readOperand
            refine ⟨.not tree, ?_, rfl, rfl⟩
            rw [Negation.nesting, Nat.add_comm]
            exact Nat.succ_le_succ shallow
    next =>
      obtain ⟨tree, shallow, rfl, rfl⟩ := relations.sound read
      exact ⟨.plain tree, shallow, rfl, rfl⟩
  · intro tree rest shallow ends
    cases tree with
    | not operand =>
        cases opens with
        | none => exact absurd shallow (by simp [Negation.nesting])
        | some evaluates =>
            rw [Negation.nesting, Nat.add_comm] at shallow
            rw [Negation.tokens, List.cons_append, negationAround,
              evaluates.complete (Nat.le_of_succ_le_succ shallow) ends]
            rfl
    | plain relation =>
        have read := relations.complete shallow ends
        rw [Negation.tokens, negationAround.eq_def]
        split
        next same => exact absurd same (relation.tokens_ne_not _ _)
        next => exact read

end

theorem evaluates_negation (levels : Nat) :
    Evaluates (negation levels) Negation.tokens Negation.nesting Negation.value
      levels 1 := by
  induction levels with
  | zero => exact evaluates_negationAround .none
  | succ levels induction => exact evaluates_negationAround (.some induction)

/-! ## Whole conditions -/

theorem evaluateTokens_eq_ok_iff {tokens : List Token} {value : Value} :
    evaluateTokens tokens = .ok value ↔
      ∃ tree : Disjunction, tree.tokens = tokens ∧ tree.nesting ≤ maxDepth ∧
        tree.value = value := by
  have evaluates := evaluates_disjunction (evaluates_negation maxDepth)
  constructor
  · intro all
    rw [evaluateTokens] at all
    split at all
    next => cases all
    next read =>
      cases all
      obtain ⟨tree, shallow, rfl, rfl⟩ := evaluates.sound read
      exact ⟨tree, (List.append_nil _).symm, shallow, rfl⟩
    next => cases all
  · rintro ⟨tree, rfl, shallow, rfl⟩
    have read := evaluates.complete shallow (Ends.nil)
    rw [List.append_nil] at read
    rw [evaluateTokens, read]

/-- Whether the pieces of a condition have a derivation with at most `maxDepth`
negations and parentheses open at a time. -/
def Derives (operands : List Operand) (tree : Disjunction) : Prop :=
  LexedAll operands tree.tokens ∧ tree.nesting ≤ maxDepth

theorem decide_eq_ok_iff {operands : List Operand} {holds : Bool} :
    decide operands = .ok holds ↔
      ∃ tree, Derives operands tree ∧ tree.value.isTruthy = holds := by
  constructor
  · intro decided
    rw [decide] at decided
    split at decided
    next => cases decided
    next => cases decided
    next tokens _ lexed =>
      obtain ⟨value, evaluated, rfl⟩ := map_eq_ok_iff.mp decided
      obtain ⟨tree, rfl, shallow, rfl⟩ := evaluateTokens_eq_ok_iff.mp evaluated
      exact ⟨tree, ⟨tokensOf_eq_ok_iff.mp lexed, shallow⟩, rfl⟩
  · rintro ⟨tree, ⟨lexed, shallow⟩, rfl⟩
    have evaluated := evaluateTokens_eq_ok_iff.mpr ⟨tree, rfl, shallow, rfl⟩
    rw [decide, tokensOf_eq_ok_iff.mpr lexed]
    cases tokens : tree.tokens with
    | nil =>
        rw [tokens] at evaluated
        cases evaluated
    | cons token rest =>
        rw [tokens] at evaluated
        exact map_eq_ok_iff.mpr ⟨_, evaluated, rfl⟩

theorem Derives.eq {operands : List Operand} {tree other : Disjunction}
    (derives : Derives operands tree) (otherDerives : Derives operands other) :
    tree = other := by
  have lexed := tokensOf_eq_ok_iff.mpr derives.1
  rw [tokensOf_eq_ok_iff.mpr otherDerives.1] at lexed
  exact Disjunction.tokens_injective (Except.ok.inj lexed).symm

theorem Derives.exists_of_shape {operands others : List Operand}
    {tree : Disjunction} (derives : Derives operands tree)
    (same : others.map Operand.shape = operands.map Operand.shape) :
    ∃ other, Derives others other ∧ other.shape = tree.shape := by
  obtain ⟨tokens, lexed, alike⟩ := derives.1.exists_of_shape same
  obtain ⟨other, rfl, shape⟩ := tree.exists_of_shape alike
  refine ⟨other, ⟨lexed, ?_⟩, shape⟩
  rw [← other.nesting_shape, shape, tree.nesting_shape]
  exact derives.2

end Condition

namespace Evaluator

open Condition

theorem standard_eq_ok_iff {operands : List Operand} {holds : Bool} :
    standard operands = .ok holds ↔
      ∃ tree, Derives operands tree ∧ tree.value.isTruthy = holds := by
  rw [← decide_eq_ok_iff, standard]
  cases Condition.decide operands <;> simp [Except.mapError]

/-- A condition holds or not as the truth of its derivation says, and cannot be
decided if it has none.  There is at most one derivation.  Each value is one
token of it, and other values in the place of the values leave its shape as it
is. -/
theorem standard_derives (operands : List Operand) :
    (∀ holds, standard operands = .ok holds ↔
        ∃ tree, Derives operands tree ∧ tree.value.isTruthy = holds) ∧
      ((∃ message, standard operands = .error message) ↔ ¬∃ tree,
        Derives operands tree) ∧
      (∀ tree other,
        Derives operands tree → Derives operands other → tree = other) ∧
      ∀ tree, Derives operands tree →
        (∀ before content after, operands = before ++ .value content :: after →
            ∃ first last, LexedAll before first ∧ LexedAll after last ∧
              tree.tokens = first ++ .value content :: last) ∧
          ∀ others, others.map Operand.shape = operands.map Operand.shape →
            ∃ other, Derives others other ∧ other.shape = tree.shape := by
  refine ⟨fun holds => standard_eq_ok_iff, ?_, fun _ _ => Derives.eq,
    fun tree derives => ⟨?_, ?_⟩⟩
  · constructor
    · rintro ⟨message, failed⟩ ⟨tree, derives⟩
      have decided := standard_eq_ok_iff.mpr ⟨tree, derives, rfl⟩
      rw [failed] at decided
      cases decided
    · intro none
      cases decided : standard operands with
      | error message => exact ⟨message, rfl⟩
      | ok holds =>
          obtain ⟨tree, derives, -⟩ := standard_eq_ok_iff.mp decided
          exact absurd ⟨tree, derives⟩ none
  · rintro before content after rfl
    exact derives.1.exists_of_append
  · intro others same
    exact derives.exists_of_shape same

/-- A value that reads like a part of a condition is a value all the same. -/
theorem standard_derives_text :
    let operands := [.value (.text "x"), .text " == 'x' && !", .value .null]
    let others :=
      [.value (.text "x' || ('"), .text " == 'x' && !", .value .null]
    standard operands = .ok true ∧ standard others = .ok false ∧
      ∃ tree other, Derives operands tree ∧ Derives others other ∧
        other.shape = tree.shape := by
  intro operands others
  have holds : standard operands = .ok true := by cbv
  have fails : standard others = .ok false := by cbv
  obtain ⟨decides, -, -, derived⟩ := standard_derives operands
  obtain ⟨tree, derives, -⟩ := (decides true).mp holds
  obtain ⟨other, otherDerives, shape⟩ := (derived tree derives).2 others rfl
  exact ⟨holds, fails, tree, other, derives, otherDerives, shape⟩

end Evaluator
end TemplateEngine
