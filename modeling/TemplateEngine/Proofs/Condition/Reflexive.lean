import TemplateEngine.Proofs.Condition.Compared
import TemplateEngine.Proofs.Condition.Lexed
import TemplateEngine.Proofs.Value.Compared
import TemplateEngine.Render.Machine

/-!
# Variables compared with what they hold

A condition that compares a variable with itself, or with the quoted text that
it holds, says that they are equal, unless the value stands for the number that
is none.  So it does for every other text, whatever quotes and backslashes it
has.
-/

namespace TemplateEngine

namespace Condition

/-! ## Quoted texts -/

/-- How a character is written between quotes. -/
def escaped (mark character : Char) : List Char :=
  if character = mark ∨ character = '\\' then ['\\', character] else [character]

/-- How a text is written in a condition, between quotes. -/
def quote (mark : Char) (content : List Char) : List Char :=
  mark :: (content.flatMap (escaped mark) ++ [mark])

theorem unquote_escaped {mark : Char} (visible : mark ≠ '\\')
    (content rest : List Char) :
    unquote mark (content.flatMap (escaped mark) ++ mark :: rest) =
      some (content, rest) := by
  induction content with
  | nil =>
      rw [List.flatMap_nil, List.nil_append, unquote.eq_def]
      split <;> simp_all
  | cons character content induction =>
      rw [List.flatMap_cons, List.append_assoc, escaped]
      split
      next special =>
        rw [List.cons_append, List.cons_append, List.nil_append, unquote,
          induction]
        rfl
      next plain =>
        obtain ⟨other, letter⟩ := not_or.mp plain
        rw [List.cons_append, List.nil_append, unquote.eq_def]
        split <;> simp_all

theorem lexed_quote {mark : Char} (isMark : mark = '\'' ∨ mark = '"')
    (content : List Char) :
    Lexed (quote mark content) [.value (.text (String.ofList content))] := by
  have blank : Lexed [] [] := .blank rfl
  rcases isMark with rfl | rfl
  · have unquoted := unquote_escaped (by decide : '\'' ≠ '\\') content []
    apply Lexed.token rfl _ blank
    have noSymbol : readSymbol? (quote '\'' content) = none := rfl
    rw [quote] at noSymbol
    simp [readToken, noSymbol, unquoted]
  · have unquoted := unquote_escaped (by decide : '"' ≠ '\\') content []
    apply Lexed.token rfl _ blank
    have noSymbol : readSymbol? (quote '"' content) = none := rfl
    rw [quote] at noSymbol
    simp [readToken, noSymbol, unquoted]

/-- A comparison is one token in front of further ones. -/
theorem Comparison.lexed_spelling (comparison : Comparison) {text : List Char}
    {tokens : List Token} (lexed : Lexed text tokens) :
    Lexed (comparison.spelling.toList ++ text)
      (.symbol (.compare comparison) :: tokens) := by
  have spaced : Lexed (' ' :: text) tokens := by
    cases lexed with
    | blank start => exact .blank start
    | token start read later => exact .token start read later
  cases comparison <;> exact .token rfl rfl spaced

/-- A condition that compares a value with a quoted text is decided by the
comparison. -/
theorem decide_quote {mark : Char} (isMark : mark = '\'' ∨ mark = '"')
    (comparison : Comparison) (left : Value) (content : String) :
    decide [.value left,
        .text
          (comparison.spelling ++ String.ofList (quote mark content.toList))] =
      .ok (comparison.holds left (.text content)) := by
  have lexed :
      Lexed
        (comparison.spelling ++
          String.ofList (quote mark content.toList)).toList
        [.symbol (.compare comparison), .value (.text content)] := by
    simpa using comparison.lexed_spelling (lexed_quote isMark content.toList)
  have lexedAll :
      LexedAll [.value left,
        .text
          (comparison.spelling ++ String.ofList (quote mark content.toList))]
        [.value left, .symbol (.compare comparison), .value (.text content)] :=
    .value (.text lexed .nil)
  rw [decide, tokensOf_eq_ok_iff.mpr lexedAll]
  rfl

end Condition

/-! ## Conditions on a variable -/

/-- The value of a variable. -/
def Expr.variable (name : String) : Expr :=
  .access (.var name) []

namespace Scene

variable {scene : Scene} {view : View} {name : String} {value : Value}

theorem test_of_decide
    (standard : scene.environment.conditions = Evaluator.standard)
    {pieces : List Piece} {operands : List Operand} {answer : Bool}
    (evaluated : Piece.operands view pieces = .ok operands)
    (decided : Condition.decide operands = .ok answer) :
    scene.test view ⟨pieces⟩ = .ok answer := by
  rw [test, evaluated]
  dsimp only
  rw [standard, Evaluator.standard, decided]
  rfl

theorem operands_variable (held : view.reference (.var name) = .ok value)
    (pieces : List Piece) :
    Piece.operands view (.expr (.variable name) :: pieces) =
      (Piece.operands view pieces).map (.value value :: ·) := by
  rw [Piece.operands, Expr.variable, Expr.eval, held]
  rfl

/-- A variable equals itself and the quoted text that it holds, unless it stands
for the number that is none: then it equals neither.  Equality does not depend
on the sides. -/
theorem tests_reflexively
    (standard : scene.environment.conditions = Evaluator.standard)
    (held : view.reference (.var name) = .ok value) :
    Value.looseEquals value value = !value.isNaN ∧
      (∀ other, Value.looseEquals value other = Value.looseEquals other value) ∧
      scene.test view
          ⟨[.expr (.variable name), .text " == ", .expr (.variable name)]⟩ =
        .ok (!value.isNaN) ∧
      scene.test view
          ⟨[.expr (.variable name), .text " != ", .expr (.variable name)]⟩ =
        .ok value.isNaN ∧
      (∀ (content : String) (mark : Char), value = .text content →
        mark = '\'' ∨ mark = '"' →
        scene.test view
            ⟨[.expr (.variable name),
              .text (" == " ++
                String.ofList (Condition.quote mark content.toList))]⟩ =
          .ok (!value.isNaN)) := by
  have equal := Value.looseEquals_self value
  have compares (comparison : Condition.Comparison) :
      scene.test view ⟨[.expr (.variable name), .text comparison.spelling,
        .expr (.variable name)]⟩ = .ok (comparison.holds value value) := by
    apply test_of_decide standard _
      (Condition.decide_comparison comparison.readTokens_spelling value value)
    rw [operands_variable held, Piece.operands, operands_variable held]
    rfl
  refine ⟨equal, Value.looseEquals_comm value, ?_, ?_, ?_⟩
  · rw [← equal]
    exact compares .equal
  · have unequal := compares .unequal
    rw [Condition.Comparison.holds, equal, Bool.not_not] at unequal
    exact unequal
  · rintro content mark rfl isMark
    rw [← equal]
    apply test_of_decide standard _
      (Condition.decide_quote isMark .equal (.text content) content)
    rw [operands_variable held]
    rfl

/-- A variable that holds the name `Nan` does not equal it. -/
theorem tests_reflexively_name :
    Scene.test ⟨{}, [], []⟩ ⟨[], [], [], [("A", .owned (.text "Nan"))], {}, []⟩
        ⟨[.expr (.variable "A"),
          .text
            (" == " ++ String.ofList (Condition.quote '"' ['N', 'a', 'n']))]⟩ =
      .ok false := by
  have standard :
      (⟨{}, [], []⟩ : Scene).environment.conditions = Evaluator.standard := rfl
  have held :
      View.reference ⟨[], [], [], [("A", .owned (.text "Nan"))], {}, []⟩
          (.var "A") =
        .ok (.text "Nan") := rfl
  exact (tests_reflexively standard held).2.2.2.2 "Nan" '"' rfl (.inr rfl)

end Scene

end TemplateEngine
