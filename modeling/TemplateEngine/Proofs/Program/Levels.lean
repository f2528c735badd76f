import TemplateEngine.Program.Basic

/-!
# Levels of expressions

Whatever walks through an expression calls itself for every subscript, every
argument of a filter and every input of a filter.  Where inputs of filters count
as no level, as for the limit on nesting, there are fewer levels, but at most by
the length of the longest chain of filters.
-/

namespace TemplateEngine

/-! ## Expressions of a program -/

def Argument.exprs : Argument → List Expr
  | .expr inner => [inner]
  | _ => []

def Piece.exprs : Piece → List Expr
  | .text _ => []
  | .expr inner => [inner]

def Source.exprs : Source → List Expr
  | .collection expr => [expr]
  | _ => []

def Target.exprs : Target → List Expr
  | .path _ query => query.flatMap fun (_, value) => value.exprs
  | .dynamic expr => [expr]

/-- The expressions of an instruction that are not inside of others. -/
def Instruction.exprs : Instruction → List Expr
  | .print expr => [expr]
  | .set _ subscripts value =>
    subscripts.flatMap Argument.exprs ++ value.flatMap Piece.exprs
  | .branch condition _ => condition.pieces.flatMap Piece.exprs
  | .elseBranch condition _ _ => condition.pieces.flatMap Piece.exprs
  | .openBlock _ _ source _ => source.exprs
  | .inclusion target _ _ => target.exprs
  | _ => []

/-- The expressions of a program that are not inside of others. -/
def Program.exprs (program : Program) : List Expr :=
  program.instructions.flatMap Instruction.exprs

/-! ## Levels -/

mutual

/-- The number of levels of an expression.  A subscript or an argument of a
filter is one level further inside, the input of a filter as many as given. -/
def Expr.levels (perInput : Nat) : Expr → Nat
  | .access _ subscripts => 1 + Argument.levelsAll perInput subscripts
  | .filter _ input arguments =>
    max (perInput + input.levels perInput)
      (1 + Argument.levelsAll perInput arguments)

def Argument.levels (perInput : Nat) : Argument → Nat
  | .int _ => 0
  | .text _ => 0
  | .expr inner => inner.levels perInput

/-- The number of levels of the deepest of some arguments. -/
def Argument.levelsAll (perInput : Nat) : List Argument → Nat
  | [] => 0
  | argument :: others =>
    max (argument.levels perInput) (Argument.levelsAll perInput others)

end

/-- The number of filters of an expression in a row, from the outermost
inwards. -/
def Expr.chain : Expr → Nat
  | .access _ _ => 0
  | .filter _ input _ => input.chain + 1

mutual

/-- The largest number of filters in a row anywhere in an expression. -/
def Expr.longestChain : Expr → Nat
  | .access _ subscripts => Argument.longestChainAll subscripts
  | .filter _ input arguments =>
    max (input.chain + 1)
      (max input.longestChain (Argument.longestChainAll arguments))

def Argument.longestChain : Argument → Nat
  | .int _ => 0
  | .text _ => 0
  | .expr inner => inner.longestChain

def Argument.longestChainAll : List Argument → Nat
  | [] => 0
  | argument :: others =>
    max argument.longestChain (Argument.longestChainAll others)

end

theorem Expr.chain_le_longestChain (expr : Expr) :
    expr.chain ≤ expr.longestChain := by
  cases expr with
  | access reference subscripts => exact Nat.zero_le _
  | filter name input arguments => exact Nat.le_max_left _ _

mutual

/-- Every filter in front of an access is one level, and every other level may
have as many levels instead as there are filters in a row. -/
theorem Expr.levels_one_add_le (expr : Expr) {longest : Nat}
    (bounded : expr.longestChain ≤ longest) :
    expr.levels 1 + longest ≤ expr.chain + expr.levels 0 * (longest + 1) := by
  match expr with
  | .access reference subscripts =>
      have inside := Argument.levelsAll_one_le subscripts bounded
      rw [Expr.levels, Expr.levels, Expr.chain, Nat.add_mul, Nat.one_mul]
      omega
  | .filter name input arguments =>
      rw [Expr.longestChain, Nat.max_le, Nat.max_le] at bounded
      have inInput := input.levels_one_add_le bounded.2.1
      have inArguments := Argument.levelsAll_one_le arguments bounded.2.2
      rw [Expr.levels, Expr.levels, Expr.chain, Nat.zero_add]
      have ofInput := Nat.mul_le_mul_right (longest + 1)
        (Nat.le_max_left (input.levels 0) (1 + Argument.levelsAll 0 arguments))
      have ofArguments := Nat.mul_le_mul_right (longest + 1)
        (Nat.le_max_right (input.levels 0) (1 + Argument.levelsAll 0 arguments))
      rw [Nat.add_mul 1, Nat.one_mul] at ofArguments
      omega

theorem Argument.levels_one_le (argument : Argument) {longest : Nat}
    (bounded : argument.longestChain ≤ longest) :
    argument.levels 1 ≤ argument.levels 0 * (longest + 1) := by
  match argument with
  | .int _ | .text _ => exact Nat.zero_le _
  | .expr inner =>
      have whole := inner.levels_one_add_le bounded
      have chained := Nat.le_trans inner.chain_le_longestChain bounded
      rw [Argument.levels, Argument.levels]
      omega

theorem Argument.levelsAll_one_le (arguments : List Argument) {longest : Nat}
    (bounded : Argument.longestChainAll arguments ≤ longest) :
    Argument.levelsAll 1 arguments ≤
      Argument.levelsAll 0 arguments * (longest + 1) := by
  match arguments with
  | [] => exact Nat.zero_le _
  | argument :: others =>
      rw [Argument.longestChainAll, Nat.max_le] at bounded
      have first := argument.levels_one_le bounded.1
      have later := Argument.levelsAll_one_le others bounded.2
      rw [Argument.levelsAll, Argument.levelsAll, Nat.max_le]
      exact ⟨Nat.le_trans first (Nat.mul_le_mul_right _ (Nat.le_max_left _ _)),
        Nat.le_trans later (Nat.mul_le_mul_right _ (Nat.le_max_right _ _))⟩

end

/-- Counting the inputs of filters multiplies the levels at most by one more
than the number of filters in a row. -/
theorem Expr.levels_one_le (expr : Expr) :
    expr.levels 1 ≤ expr.levels 0 * (expr.longestChain + 1) := by
  have whole := expr.levels_one_add_le (Nat.le_refl _)
  have chained := expr.chain_le_longestChain
  omega

end TemplateEngine
