import Mathlib
import TemplateEngine.Proofs.Template.Fitted
import TemplateEngine.Proofs.Template.Storable

/-!
# Programs in sections

The instructions of a condition and of an iteration are brackets.  A section of
a program is a row of plain instructions and of whole constructs, and a
construct holds a section in each of its parts.  Every position that an
instruction goes on to is one that its construct determines: the start of the
next part, or the position of its end or behind it.  The program of a compiled
template is a section.
-/

namespace TemplateEngine

/-- Whether an instruction is no bracket: one that neither opens, divides nor
closes a construct. -/
def Instruction.isPlain : Instruction → Bool
  | .text _ => true
  | .print _ => true
  | .set _ _ _ => true
  | .inclusion _ _ _ => true
  | _ => false

namespace Program

variable (program : Program)

mutual

/-- Whether plain instructions and whole constructs stand from one position up
to another. -/
inductive Section : (start stop : Nat) → Prop
  | nil (position : Nat) : Section position position
  | plain {start stop : Nat} {instruction : Instruction} :
      program.instructions[start]? = some instruction →
      instruction.isPlain = true → Section (start + 1) stop → Section start stop
  /-- A condition goes on at its next branch. -/
  | condition {start next last stop : Nat} {condition : Condition} :
      program.instructions[start]? = some (.branch condition next) →
      Section (start + 1) next → Branches next last →
      Section (last + 1) stop → Section start stop
  /-- An iteration is left behind its end and goes back behind its opening. -/
  | iteration {id start close stop : Nat} {rowAlias : String}
      {source : Source} :
      program.instructions[start]? =
        some (.openBlock id rowAlias source (close + 1)) →
      Section (start + 1) close →
      program.instructions[close]? = some (.closeBlock id (start + 1)) →
      Section (close + 1) stop → Section start stop
  /-- Without rows an iteration goes on in its part for this case. -/
  | iterationElse {id start between close stop : Nat} {rowAlias : String}
      {source : Source} :
      program.instructions[start]? =
        some (.openBlock id rowAlias source (between + 1)) →
      Section (start + 1) between →
      program.instructions[between]? =
        some (.elseBlock id (start + 1) (close + 1)) →
      Section (between + 1) close →
      program.instructions[close]? = some (.closeBlock id (start + 1)) →
      Section (close + 1) stop → Section start stop

/-- Whether the further branches of a condition stand from a position up to its
end, at `last`. -/
inductive Branches : (start last : Nat) → Prop
  | done {last : Nat} :
      program.instructions[last]? = some .endBranch → Branches last last
  | otherwise {start last : Nat} :
      program.instructions[start]? = some (.otherwise last) →
      Section (start + 1) last →
      program.instructions[last]? = some .endBranch → Branches start last
  | elseIf {start next last : Nat} {condition : Condition} :
      program.instructions[start]? = some (.elseBranch condition next last) →
      Section (start + 1) next → Branches next last → Branches start last

end

/-- Whether a program is well structured. -/
structure Structured : Prop where
  /-- Iterations are numbered from 1 in the order of their openings. -/
  numbered : ∃ count,
    program.instructions.filterMap Instruction.opens? = List.range' 1 count
  /-- All brackets are closed, and all instructions go on where their constructs
  say. -/
  bracketed : program.Section 0 program.size
  /-- No instruction goes on behind the end of the program. -/
  bounded : ∀ instruction ∈ program.instructions,
    ∀ target ∈ instruction.targets, target ≤ program.size

end Program

/-! ## Trees in sections -/

section

variable {program : Program}

/-- A plain instruction is a section in front of another one. -/
theorem Program.Section.of_singleton {start stop : Nat}
    {instruction : Instruction} (plain : instruction.isPlain = true)
    (stands : program.HasAt start [instruction])
    (rest : program.Section (start + 1) stop) : program.Section start stop :=
  .plain (Program.hasAt_cons_iff.mp stands).1 plain rest

mutual

/-- A node that is laid out is a section in front of another one. -/
theorem Node.section_flatten (node : Node) {start stop : Nat}
    (stands : program.HasAt start (node.flatten start))
    (rest : program.Section (start + node.size) stop) :
    program.Section start stop := by
  match node with
  | .text _ | .print _ | .set _ _ _ | .inclusion _ _ _ =>
      exact .of_singleton rfl stands rest
  | .choose condition body others =>
      rw [Node.flatten_choose, Program.hasAt_cons_iff, Program.hasAt_append_iff,
        Node.length_flattenAll] at stands
      obtain ⟨head, bodyStands, othersStand⟩ := stands
      have positive := others.size_pos
      refine .condition head (Node.section_flattenAll body bodyStands (.nil _))
        (Alternative.branches_flatten others othersStand rfl) ?_
      have behind : start + 1 + Node.sizeAll body + others.size - 1 + 1 =
          start + (1 + Node.sizeAll body + others.size) := by omega
      rwa [behind]
  | .each id rowAlias source body none =>
      rw [Node.flatten_each, Program.hasAt_cons_iff, Program.hasAt_append_iff,
        Node.length_flattenAll, Program.hasAt_cons_iff] at stands
      obtain ⟨head, bodyStands, close, -⟩ := stands
      refine .iteration head (Node.section_flattenAll body bodyStands (.nil _))
        close ?_
      have behind :
          start + 1 + Node.sizeAll body + 1 =
            start + (1 + Node.sizeAll body + 1) := by
        omega
      rwa [behind]
  | .each id rowAlias source body (some empty) =>
      rw [Node.flatten_each_empty, Program.hasAt_cons_iff,
        Program.hasAt_append_iff, Node.length_flattenAll,
        Program.hasAt_cons_iff, Program.hasAt_append_iff,
        Node.length_flattenAll, Program.hasAt_cons_iff] at stands
      obtain ⟨head, bodyStands, between, emptyStands, close, -⟩ := stands
      refine .iterationElse head
        (Node.section_flattenAll body bodyStands (.nil _)) between
        (Node.section_flattenAll empty emptyStands (.nil _)) close ?_
      have behind :
          start + 1 + Node.sizeAll body + 1 + Node.sizeAll empty + 1 =
            start + (1 + Node.sizeAll body + 1 + Node.sizeAll empty + 1) := by
        omega
      rwa [behind]

theorem Node.section_flattenAll (nodes : List Node) {start stop : Nat}
    (stands : program.HasAt start (Node.flattenAll start nodes))
    (rest : program.Section (start + Node.sizeAll nodes) stop) :
    program.Section start stop := by
  match nodes with
  | [] => exact rest
  | node :: nodes =>
      rw [Node.flattenAll, Program.hasAt_append_iff, Node.length_flatten]
        at stands
      rw [Node.sizeAll, ← Nat.add_assoc] at rest
      exact Node.section_flatten node stands.1
        (Node.section_flattenAll nodes stands.2 rest)

/-- The further branches of a condition that is laid out end with the
condition. -/
theorem Alternative.branches_flatten (others : Alternative) {start last : Nat}
    (stands : program.HasAt start (others.flatten start last))
    (ends : last = start + others.size - 1) : program.Branches start last := by
  match others with
  | .done =>
      rw [Alternative.size, Nat.add_sub_cancel] at ends
      subst ends
      exact .done (Program.hasAt_cons_iff.mp stands).1
  | .otherwise body =>
      rw [Alternative.flatten_otherwise, Program.hasAt_cons_iff,
        Program.hasAt_append_iff, Node.length_flattenAll,
        Program.hasAt_cons_iff] at stands
      obtain ⟨head, bodyStands, close, -⟩ := stands
      rw [Alternative.size] at ends
      have behind : last = start + 1 + Node.sizeAll body := by omega
      subst behind
      exact .otherwise head (Node.section_flattenAll body bodyStands (.nil _))
        close
  | .elseIf condition body others =>
      rw [Alternative.flatten_elseIf, Program.hasAt_cons_iff,
        Program.hasAt_append_iff, Node.length_flattenAll] at stands
      obtain ⟨head, bodyStands, othersStand⟩ := stands
      rw [Alternative.size] at ends
      exact .elseIf head (Node.section_flattenAll body bodyStands (.nil _))
        (Alternative.branches_flatten others othersStand (by omega))

end

end

mutual

/-- The openings of a node that is laid out have the numbers of its
iterations. -/
theorem Node.opens_flatten (node : Node) (start : Nat) :
    (node.flatten start).filterMap Instruction.opens? = node.ids := by
  match node with
  | .text _ | .print _ | .set _ _ _ | .inclusion _ _ _ => rfl
  | .choose condition body others =>
      simp only [Node.flatten_choose, List.filterMap_cons,
        List.filterMap_append, Instruction.opens?, Node.opens_flattenAll body,
        Alternative.opens_flatten others, Node.ids]
  | .each id rowAlias source body none =>
      simp only [Node.flatten_each, List.filterMap_cons, List.filterMap_append,
        List.filterMap_nil, Instruction.opens?, Node.opens_flattenAll body,
        List.append_nil, Node.ids]
  | .each id rowAlias source body (some empty) =>
      simp only [Node.flatten_each_empty, List.filterMap_cons,
        List.filterMap_append, List.filterMap_nil, Instruction.opens?,
        Node.opens_flattenAll body, Node.opens_flattenAll empty,
        List.append_nil, Node.ids]

theorem Node.opens_flattenAll (nodes : List Node) (start : Nat) :
    (Node.flattenAll start nodes).filterMap Instruction.opens? =
      Node.idsAll nodes := by
  match nodes with
  | [] => rfl
  | node :: nodes =>
      rw [Node.flattenAll, List.filterMap_append, Node.opens_flatten,
        Node.opens_flattenAll, Node.idsAll]

theorem Alternative.opens_flatten (others : Alternative) (start last : Nat) :
    (others.flatten start last).filterMap Instruction.opens? = others.ids := by
  match others with
  | .done => rfl
  | .otherwise body =>
      simp only [Alternative.flatten_otherwise, List.filterMap_cons,
        List.filterMap_append, List.filterMap_nil, Instruction.opens?,
        Node.opens_flattenAll body, List.append_nil, Alternative.ids]
  | .elseIf condition body others =>
      simp only [Alternative.flatten_elseIf, List.filterMap_cons,
        List.filterMap_append, Instruction.opens?, Node.opens_flattenAll body,
        Alternative.opens_flatten others, Alternative.ids]

end

/-! ## Compiled templates -/

/-- The program of a compiled template is well structured. -/
theorem Program.structured_of_compile {options : Options} {known : Catalog}
    {source : String} {compiled : Compiled}
    (compiles : compile options known source = .ok compiled) :
    compiled.program.Structured := by
  obtain ⟨tokens, nodes, parsed, same⟩ := exists_nodes_of_compile compiles
  obtain ⟨phrases, -, -, rfl⟩ := Node.exists_phrases_of_ofTokens parsed
  rw [same]
  refine ⟨⟨Phrase.iterationsAll phrases, ?_⟩, ?_, ?_⟩
  · rw [Node.opens_flattenAll, Node.idsAll_compactAll, Phrase.ids_nodes]
  · apply Node.section_flattenAll _ (Program.hasAt_self _)
    rw [Nat.zero_add, Program.size, Node.length_flattenAll]
    exact .nil _
  · rw [Program.size, Node.length_flattenAll]
    exact Node.targets_flattenAll _ (Nat.le_of_eq (Nat.zero_add _))

/-- The instructions of a condition in an iteration, without the blank text
between them. -/
def Program.squeezed : Program where
  instructions :=
    [.openBlock 1 "L" (.collection (.access (.var "L") [])) 5,
      .branch ⟨[.text "1"]⟩ 3, .print (.access (.frame 1 "L" [] "key") []),
      .endBranch, .elseBlock 1 1 7, .text "-", .closeBlock 1 1]

theorem Program.structured_of_compile_squeezed :
    compile { compactWhitespace := true } Catalog.deferred
          "<foreach ary=\"\x7b$L\x7d\"> <if cond=\"1\">\x7bL.key\x7d</if> <foreachelse />-</foreach>" =
        .ok ⟨.squeezed, []⟩ ∧
      Program.squeezed.Structured := by
  have compiles :
      compile { compactWhitespace := true } Catalog.deferred
          "<foreach ary=\"\x7b$L\x7d\"> <if cond=\"1\">\x7bL.key\x7d</if> <foreachelse />-</foreach>" =
        .ok ⟨.squeezed, []⟩ := by
    cbv
  exact ⟨compiles, Program.structured_of_compile compiles⟩

end TemplateEngine
