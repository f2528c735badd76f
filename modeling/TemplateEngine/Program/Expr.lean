/-!
# Expressions

What a placeholder computes: a reference is looked up, subscripts select a part
of it, and filters change the result.  Expressions also stand inside subscripts,
filter arguments, conditions, assignments and inclusions.
-/

namespace TemplateEngine

/-- What a reference names. -/
inductive Reference
  /-- A variable of the context. -/
  | var (name : String)
  /-- A constant of the host. -/
  | const (name : String)
  /-- A field of the active row of an enclosing iteration, or of the last row of
  one of its child blocks. -/
  | frame (id : Nat) (rowAlias : String) (path : List String) (field : String)
  /-- A field of the last row of a block. -/
  | block (path : List String) (field : String)
  deriving DecidableEq

mutual

inductive Expr
  /-- A reference and its subscripts. -/
  | access (reference : Reference) (subscripts : List Argument)
  /-- A filter with its input and arguments; the first filter of a chain is the
  innermost. -/
  | filter (name : String) (input : Expr) (arguments : List Argument)

/-- A subscript or an argument of a filter. -/
inductive Argument
  | int (number : Int)
  | text (text : String)
  | expr (expr : Expr)

end

/-- A piece of a condition, of an assigned text or of a parameter. -/
inductive Piece
  /-- Text as it stands. -/
  | text (text : String)
  | expr (expr : Expr)

/-- A condition: text with values in it, which the condition evaluator
understands. -/
structure Condition where
  pieces : List Piece

end TemplateEngine
