import TemplateEngine.Template.Flattened

/-!
# Where the instructions of a tree are

A node takes as many positions of a program as its size says.  Code that stands
somewhere in a program is made of parts that stand one after the other.
-/

namespace TemplateEngine

mutual

/-- The numbers of the iterations in a node, in the order of their opening
tags. -/
def Node.ids : Node → List Nat
  | .choose _ body rest => Node.idsAll body ++ rest.ids
  | .each id _ _ body none => id :: Node.idsAll body
  | .each id _ _ body (some empty) =>
    id :: (Node.idsAll body ++ Node.idsAll empty)
  | _ => []

/-- The numbers of the iterations in nodes. -/
def Node.idsAll : List Node → List Nat
  | [] => []
  | node :: nodes => node.ids ++ Node.idsAll nodes

/-- The numbers of the iterations in the further branches of a condition. -/
def Alternative.ids : Alternative → List Nat
  | .done => []
  | .otherwise body => Node.idsAll body
  | .elseIf _ body rest => Node.idsAll body ++ rest.ids

end

mutual

theorem Node.length_flatten (start : Nat) (node : Node) :
    (node.flatten start).length = node.size := by
  match node with
  | .text _ => rfl
  | .print _ => rfl
  | .set _ _ _ => rfl
  | .inclusion _ _ _ => rfl
  | .choose condition body rest =>
      simp [Node.flatten, Node.size, Node.length_flattenAll,
        Alternative.length_flatten]
      omega
  | .each id rowAlias source body none =>
      simp [Node.flatten, Node.size, Node.length_flattenAll]
      omega
  | .each id rowAlias source body (some empty) =>
      simp [Node.flatten, Node.size, Node.length_flattenAll]
      omega

theorem Node.length_flattenAll (start : Nat) (nodes : List Node) :
    (Node.flattenAll start nodes).length = Node.sizeAll nodes := by
  match nodes with
  | [] => rfl
  | node :: nodes =>
      simp [Node.flattenAll, Node.sizeAll, Node.length_flatten,
        Node.length_flattenAll]

theorem Alternative.length_flatten (start exit : Nat) (rest : Alternative) :
    (rest.flatten start exit).length = rest.size := by
  match rest with
  | .done => rfl
  | .otherwise body =>
      simp [Alternative.flatten, Alternative.size, Node.length_flattenAll]
      omega
  | .elseIf condition body rest =>
      simp [Alternative.flatten, Alternative.size, Node.length_flattenAll,
        Alternative.length_flatten]
      omega

end

theorem Alternative.size_pos (rest : Alternative) : 0 < rest.size := by
  cases rest <;> simp only [size] <;> omega

/-! ## The parts of a construct, one after the other -/

theorem Node.flatten_choose (start : Nat) (condition : Condition)
    (body : List Node) (rest : Alternative) :
    (Node.choose condition body rest).flatten start =
      .branch condition (start + 1 + Node.sizeAll body) ::
        (Node.flattenAll (start + 1) body ++
          rest.flatten (start + 1 + Node.sizeAll body)
            (start + 1 + Node.sizeAll body + rest.size - 1)) :=
  rfl

theorem Node.flatten_each (start id : Nat) (rowAlias : String) (source : Source)
    (body : List Node) :
    (Node.each id rowAlias source body none).flatten start =
      .openBlock id rowAlias source (start + 1 + Node.sizeAll body + 1) ::
        (Node.flattenAll (start + 1) body ++ [.closeBlock id (start + 1)]) :=
  rfl

theorem Node.flatten_each_empty (start id : Nat) (rowAlias : String)
    (source : Source) (body empty : List Node) :
    (Node.each id rowAlias source body (some empty)).flatten start =
      .openBlock id rowAlias source (start + 1 + Node.sizeAll body + 1) ::
        (Node.flattenAll (start + 1) body ++
          .elseBlock id (start + 1)
            (start + 1 + Node.sizeAll body + 1 + Node.sizeAll empty + 1) ::
          (Node.flattenAll (start + 1 + Node.sizeAll body + 1) empty ++
            [.closeBlock id (start + 1)])) := by
  simp [Node.flatten]

theorem Alternative.flatten_otherwise (start exit : Nat) (body : List Node) :
    (Alternative.otherwise body).flatten start exit =
      .otherwise exit :: (Node.flattenAll (start + 1) body ++ [.endBranch]) :=
  rfl

theorem Alternative.flatten_elseIf (start exit : Nat) (condition : Condition)
    (body : List Node) (rest : Alternative) :
    (Alternative.elseIf condition body rest).flatten start exit =
      .elseBranch condition (start + 1 + Node.sizeAll body) exit ::
        (Node.flattenAll (start + 1) body ++
          rest.flatten (start + 1 + Node.sizeAll body) exit) :=
  rfl

/-- The last instruction of a condition ends it. -/
theorem Alternative.getElem?_flatten_last (rest : Alternative)
    (start exit : Nat) :
    (rest.flatten start exit)[rest.size - 1]? = some .endBranch := by
  match rest with
  | .done => rfl
  | .otherwise body =>
      simp [Alternative.flatten, Alternative.size,
        Nat.add_comm 1 (Node.sizeAll body), Node.length_flattenAll]
  | .elseIf condition body rest =>
      have inner :=
        getElem?_flatten_last rest (start + 1 + Node.sizeAll body) exit
      have positive := rest.size_pos
      have place : 1 + Node.sizeAll body + rest.size - 1 =
          (Node.sizeAll body + (rest.size - 1)) + 1 := by omega
      simpa [Alternative.flatten, Alternative.size, place, List.getElem?_append,
        Node.length_flattenAll] using inner

/-- Whether something holds of every instruction of some code that stands at a
position. -/
def Placed (holds : Nat → Instruction → Prop) (start : Nat)
    (code : List Instruction) : Prop :=
  ∀ index instruction,
    code[index]? = some instruction → holds (start + index) instruction

theorem placed_nil {holds : Nat → Instruction → Prop} {start : Nat} :
    Placed holds start [] := by
  intro index instruction found
  cases found

theorem placed_cons_iff {holds : Nat → Instruction → Prop} {start : Nat}
    {first : Instruction} {code : List Instruction} :
    Placed holds start (first :: code) ↔
      holds start first ∧ Placed holds (start + 1) code := by
  constructor
  · intro placed
    refine ⟨placed 0 first rfl, ?_⟩
    intro index instruction found
    have shifted := placed (index + 1) instruction found
    rwa [← Nat.add_assoc, Nat.add_right_comm] at shifted
  · rintro ⟨head, tail⟩ index instruction found
    cases index with
    | zero =>
        cases found
        exact head
    | succ index =>
        have shifted := tail index instruction found
        rwa [Nat.add_right_comm, Nat.add_assoc] at shifted

theorem placed_append_iff {holds : Nat → Instruction → Prop} {start : Nat}
    {before after : List Instruction} :
    Placed holds start (before ++ after) ↔
      Placed holds start before ∧
        Placed holds (start + before.length) after := by
  induction before generalizing start with
  | nil => simp [Placed]
  | cons first before induction =>
      rw [List.cons_append, placed_cons_iff, placed_cons_iff, induction,
        List.length_cons, and_assoc, Nat.add_right_comm, Nat.add_assoc]

namespace Program

/-- Whether some code stands in a program from a position on. -/
def HasAt (program : Program) : (start : Nat) → List Instruction → Prop :=
  Placed fun position instruction =>
    program.instructions[position]? = some instruction

theorem hasAt_self (code : List Instruction) : HasAt ⟨code⟩ 0 code := by
  intro index instruction found
  simpa using found

theorem hasAt_cons_iff {program : Program} {start : Nat} {first : Instruction}
    {code : List Instruction} :
    program.HasAt start (first :: code) ↔
      program.instructions[start]? = some first ∧
        program.HasAt (start + 1) code :=
  placed_cons_iff

theorem hasAt_append_iff {program : Program} {start : Nat}
    {before after : List Instruction} :
    program.HasAt start (before ++ after) ↔
      program.HasAt start before ∧
        program.HasAt (start + before.length) after :=
  placed_append_iff

end Program
end TemplateEngine
