import TemplateEngine.Program.Basic

/-!
# Templates as trees

The structure of a template after its tags are matched and its placeholders
resolved.
-/

namespace TemplateEngine

mutual

inductive Node
  | text (text : String)
  | print (expr : Expr)
  | set (name : String) (subscripts : List Argument) (value : List Piece)
  /-- A condition: its first branch and what follows it. -/
  | choose (condition : Condition) (body : List Node) (rest : Alternative)
  /-- An iteration: the part for each row, and the part for no rows if there is
  one. -/
  | each (id : Nat) (rowAlias : String) (source : Source) (body : List Node)
      (empty : Option (List Node))
  | inclusion (target : Target) (once : Bool) (kind : InclusionKind)

/-- What follows a branch of a condition. -/
inductive Alternative
  /-- The end of the condition. -/
  | done
  /-- The branch for the case that no condition holds. -/
  | otherwise (body : List Node)
  /-- A further branch and what follows it. -/
  | elseIf (condition : Condition) (body : List Node) (rest : Alternative)

end

/-- The condition with a last branch, the branches before it, last first, and
what follows. -/
def Node.ofBranches :
    (earlier : List (Condition × List Node)) → Condition → List Node →
    Alternative → Node
  | [], condition, body, rest => .choose condition body rest
  | (before, nodes) :: earlier, condition, body, rest =>
    Node.ofBranches earlier before nodes (.elseIf condition body rest)

end TemplateEngine
