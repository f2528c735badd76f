import TemplateEngine.Template.Node

/-!
# Flattened templates

A tree is laid out as instructions.  An iteration without a part for no rows is
laid out as

    open (skip: close + 1)   body   close (body: open + 1)

and one with such a part as

    open (skip: else + 1)   body
      else (body: open + 1, exit: close + 1)   empty
      close (body: open + 1)

In a condition every branch goes on at the next one, and leaves to the end of
the condition.
-/

namespace TemplateEngine

mutual

/-- The number of instructions of a node. -/
def Node.size : Node → Nat
  | .choose _ body rest => 1 + Node.sizeAll body + rest.size
  | .each _ _ _ body none => 1 + Node.sizeAll body + 1
  | .each _ _ _ body (some empty) =>
    1 + Node.sizeAll body + 1 + Node.sizeAll empty + 1
  | _ => 1

/-- The number of instructions of nodes. -/
def Node.sizeAll : List Node → Nat
  | [] => 0
  | node :: nodes => node.size + Node.sizeAll nodes

/-- The number of instructions from the end of a branch to the end of its
condition. -/
def Alternative.size : Alternative → Nat
  | .done => 1
  | .otherwise body => 1 + Node.sizeAll body + 1
  | .elseIf _ body rest => 1 + Node.sizeAll body + rest.size

end

mutual

/-- The instructions of a node, from a position on. -/
def Node.flatten (start : Nat) : Node → List Instruction
  | .text text => [.text text]
  | .print expr => [.print expr]
  | .set name subscripts value => [.set name subscripts value]
  | .inclusion target once kind => [.inclusion target once kind]
  | .choose condition body rest =>
    let next := start + 1 + Node.sizeAll body
    .branch condition next :: Node.flattenAll (start + 1) body ++
      rest.flatten next (next + rest.size - 1)
  | .each id rowAlias source body none =>
    let close := start + 1 + Node.sizeAll body
    .openBlock id rowAlias source (close + 1) ::
      Node.flattenAll (start + 1) body ++ [.closeBlock id (start + 1)]
  | .each id rowAlias source body (some empty) =>
    let between := start + 1 + Node.sizeAll body
    let close := between + 1 + Node.sizeAll empty
    .openBlock id rowAlias source (between + 1) ::
      Node.flattenAll (start + 1) body ++
      .elseBlock id (start + 1) (close + 1) ::
      Node.flattenAll (between + 1) empty ++ [.closeBlock id (start + 1)]

/-- The instructions of nodes, from a position on. -/
def Node.flattenAll (start : Nat) : List Node → List Instruction
  | [] => []
  | node :: nodes =>
    node.flatten start ++ Node.flattenAll (start + node.size) nodes

/-- The instructions from the end of a branch to the end of its condition, which
is at `exit`. -/
def Alternative.flatten (start exit : Nat) : Alternative → List Instruction
  | .done => [.endBranch]
  | .otherwise body =>
    .otherwise exit :: Node.flattenAll (start + 1) body ++ [.endBranch]
  | .elseIf condition body rest =>
    let next := start + 1 + Node.sizeAll body
    .elseBranch condition next exit :: Node.flattenAll (start + 1) body ++
      rest.flatten next exit

end

end TemplateEngine
