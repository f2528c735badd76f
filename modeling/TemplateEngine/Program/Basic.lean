import TemplateEngine.Markup.InclusionKind
import TemplateEngine.Program.Expr

/-!
# Programs

A compiled template is a sequence of instructions: literal text and directives.
Conditions and iterations are flattened.  Their instructions hold the positions
they go on to, counted from the start of the program.
-/

namespace TemplateEngine

/-- The rows an iteration walks over. -/
inductive Source
  /-- The items of a list or the entries of a map. -/
  | collection (expr : Expr)
  /-- The rows of a child block of the active row of an enclosing iteration. -/
  | nested (frame : Nat) (name : String)
  /-- The rows of a block. -/
  | path (path : List String)

/-- The template that an inclusion renders. -/
inductive Target
  /-- A literal path with its parameters. -/
  | path (path : String) (query : List (String × Piece))
  /-- A path with a query string, computed when rendering. -/
  | dynamic (expr : Expr)

inductive Instruction
  /-- Prints literal text. -/
  | text (text : String)
  /-- Prints a value. -/
  | print (expr : Expr)
  /-- Assigns to a variable. -/
  | set (name : String) (subscripts : List Argument) (value : List Piece)
  /-- Enters its branch if its condition holds, and goes on at `next`
  otherwise. -/
  | branch (condition : Condition) (next : Nat)
  /-- Tests its condition if the branch before was not entered, and leaves to
  `exit` otherwise. -/
  | elseBranch (condition : Condition) (next exit : Nat)
  /-- Enters its branch if no branch before was entered, and leaves to `exit`
  otherwise. -/
  | otherwise (exit : Nat)
  /-- Ends a condition. -/
  | endBranch
  /-- Starts an iteration, or goes on at `skip` if there are no rows. -/
  | openBlock (id : Nat) (rowAlias : String) (source : Source) (skip : Nat)
  /-- Ends the part of an iteration for each row, before the part for no rows:
  goes back to `body` if there is a further row, and on at `exit` otherwise. -/
  | elseBlock (id body exit : Nat)
  /-- Ends an iteration: goes back to `body` if there is a further row. -/
  | closeBlock (id body : Nat)
  /-- Renders another template in this place. -/
  | inclusion (target : Target) (once : Bool) (kind : InclusionKind)

namespace Instruction

/-- Whether an instruction is literal text. -/
def isText : Instruction → Bool
  | text _ => true
  | _ => false

/-- Whether an instruction is not literal text. -/
def isDirective (instruction : Instruction) : Bool :=
  !instruction.isText

/-- Changes the positions that an instruction goes on to. -/
def retarget (move : Nat → Nat) : Instruction → Instruction
  | branch condition next => branch condition (move next)
  | elseBranch condition next exit =>
    elseBranch condition (move next) (move exit)
  | otherwise exit => otherwise (move exit)
  | openBlock id rowAlias source skip =>
    openBlock id rowAlias source (move skip)
  | elseBlock id body exit => elseBlock id (move body) (move exit)
  | closeBlock id body => closeBlock id (move body)
  | instruction => instruction

end Instruction

structure Program where
  instructions : List Instruction

namespace Program

def size (program : Program) : Nat :=
  program.instructions.length

def isEmpty (program : Program) : Bool :=
  program.instructions.isEmpty

def literals (program : Program) : List String :=
  program.instructions.filterMap fun
    | .text text => some text
    | _ => none

/-- Whether any instruction is not literal text. -/
def hasDirectives (program : Program) : Bool :=
  program.instructions.any Instruction.isDirective

end Program
end TemplateEngine
