import TemplateEngine.Proofs.Template.Layout
import TemplateEngine.Template.Compaction

/-!
# Thinned trees

A rule says which texts of a program stay, from what stands before and after a
text.  Dropping the other texts changes neither the conditions nor the
iterations of the program: a flattened tree that is thinned is the flattening of
a thinned tree, and every position that an instruction goes on to moves to where
the flattening of that tree puts it.
-/

namespace TemplateEngine

/-- What stands beside an instruction. -/
inductive Neighbour
  /-- Nothing: a program starts or ends. -/
  | edge
  | text
  | directive
  deriving DecidableEq

/-- Whether a text stays, given what stands before and after it. -/
abbrev TextRule := (before after : Neighbour) → String → Bool

namespace Compaction

/-- The texts that print something stay.  With `squeeze`, blank text does not
count between two directives. -/
def printing (squeeze : Bool) : TextRule := fun before after text =>
  text != "" &&
    !(squeeze && Text.isAllBlank text.toList && before == .directive &&
      after == .directive)

/-- The texts that follow no text stay. -/
def leading : TextRule := fun before _ _ =>
  !(before == .text)

/-- What an instruction is to its neighbours. -/
def kind : Instruction → Neighbour
  | .text _ => .text
  | _ => .directive

/-- What stands first in a program. -/
def firstKind : List Instruction → Neighbour
  | [] => .edge
  | instruction :: _ => kind instruction

/-- Whether an instruction stays by a rule. -/
def stays (rule : TextRule) (before after : Neighbour) : Instruction → Bool
  | .text text => rule before after text
  | _ => true

/-- Marks the instructions that stay by a rule. -/
def marksBy (rule : TextRule) :
    (before : Neighbour) → List Instruction → List Bool
  | _, [] => []
  | before, instruction :: rest =>
    stays rule before (firstKind rest) instruction ::
      marksBy rule (kind instruction) rest

theorem isDirective_eq (instruction : Instruction) :
    instruction.isDirective = (kind instruction == .directive) := by
  cases instruction <;> rfl

theorem isText_eq (instruction : Instruction) :
    instruction.isText = (kind instruction == .text) := by
  cases instruction <;> rfl

theorem prints_eq_marksBy (squeeze : Bool) (before : Neighbour)
    (code : List Instruction) :
    prints squeeze (before == .directive) code =
      marksBy (printing squeeze) before code := by
  induction code generalizing before with
  | nil => rfl
  | cons instruction rest induction =>
      simp only [prints, marksBy, isDirective_eq instruction, induction]
      cases instruction with
      | text text =>
          cases rest with
          | nil => simp [stays, printing, firstKind]
          | cons next rest =>
              simp [stays, printing, firstKind, isDirective_eq next]
      | _ => rfl

theorem heads_eq_marksBy (before : Neighbour) (code : List Instruction) :
    heads (before == .text) code = marksBy leading before code := by
  induction code generalizing before with
  | nil => rfl
  | cons instruction rest induction =>
      simp only [heads, marksBy, isText_eq instruction, induction]
      cases instruction <;> simp [leading, stays, kind]

theorem marksBy_cons_directive {rule : TextRule} {instruction : Instruction}
    (directive : kind instruction = .directive) (before : Neighbour)
    (rest : List Instruction) :
    marksBy rule before (instruction :: rest) =
      true :: marksBy rule .directive rest := by
  cases instruction <;> first
    | rfl
    | cases directive

end Compaction

open Compaction (kind firstKind marksBy)

/-! ## Dropping the texts of a tree -/

namespace Node

/-- What a node is to its neighbours. -/
def kind : Node → Neighbour
  | .text _ => .text
  | _ => .directive

/-- What stands first, given what stands after the nodes. -/
def firstKind (after : Neighbour) : List Node → Neighbour
  | [] => after
  | node :: _ => node.kind

/-- What stands last, given what stands before the nodes. -/
def lastKind (before : Neighbour) : List Node → Neighbour
  | [] => before
  | node :: nodes => lastKind node.kind nodes

/-- Whether a node stays by a rule. -/
def stays (rule : TextRule) (before after : Neighbour) : Node → Bool
  | .text content => rule before after content
  | _ => true

end Node

mutual

/-- Drops the texts inside a node that do not stay by a rule. -/
def Node.thin (rule : TextRule) : Node → Node
  | .choose condition body rest =>
    .choose condition (Node.thinAll rule .directive .directive body)
      (rest.thin rule)
  | .each id rowAlias source body none =>
    .each id rowAlias source (Node.thinAll rule .directive .directive body) none
  | .each id rowAlias source body (some empty) =>
    .each id rowAlias source (Node.thinAll rule .directive .directive body)
      (some (Node.thinAll rule .directive .directive empty))
  | node => node

/-- Drops the texts of nodes that do not stay by a rule. -/
def Node.thinAll (rule : TextRule) (before after : Neighbour) :
    List Node → List Node
  | [] => []
  | node :: nodes =>
    if node.stays rule before (Node.firstKind after nodes) then
      node.thin rule :: Node.thinAll rule node.kind after nodes
    else Node.thinAll rule node.kind after nodes

/-- Drops the texts in the further branches of a condition that do not stay by a
rule. -/
def Alternative.thin (rule : TextRule) : Alternative → Alternative
  | .done => .done
  | .otherwise body => .otherwise (Node.thinAll rule .directive .directive body)
  | .elseIf condition body rest =>
    .elseIf condition (Node.thinAll rule .directive .directive body)
      (rest.thin rule)

end

mutual

/-- Marks the instructions of a node that stay by a rule. -/
def Node.marks (rule : TextRule) (before after : Neighbour) : Node → List Bool
  | .choose _ body rest =>
    true :: (Node.marksAll rule .directive .directive body ++ rest.marks rule)
  | .each _ _ _ body none =>
    true :: (Node.marksAll rule .directive .directive body ++ [true])
  | .each _ _ _ body (some empty) =>
    true :: (Node.marksAll rule .directive .directive body ++
      true :: (Node.marksAll rule .directive .directive empty ++ [true]))
  | node => [node.stays rule before after]

/-- Marks the instructions of nodes that stay by a rule. -/
def Node.marksAll (rule : TextRule) (before after : Neighbour) :
    List Node → List Bool
  | [] => []
  | node :: nodes =>
    node.marks rule before (Node.firstKind after nodes) ++
      Node.marksAll rule node.kind after nodes

/-- Marks the instructions of the further branches of a condition that stay by a
rule. -/
def Alternative.marks (rule : TextRule) : Alternative → List Bool
  | .done => [true]
  | .otherwise body =>
    true :: (Node.marksAll rule .directive .directive body ++ [true])
  | .elseIf _ body rest =>
    true :: (Node.marksAll rule .directive .directive body ++ rest.marks rule)

end

section

variable (rule : TextRule)

theorem Node.firstKind_flatten (node : Node) (start : Nat)
    (rest : List Instruction) :
    Compaction.firstKind (node.flatten start ++ rest) = node.kind := by
  cases node with
  | each id rowAlias source body empty => cases empty <;> rfl
  | _ => rfl

theorem Node.firstKind_flattenAll (nodes : List Node) (start : Nat)
    (rest : List Instruction) :
    Compaction.firstKind (Node.flattenAll start nodes ++ rest) =
      Node.firstKind (Compaction.firstKind rest) nodes := by
  cases nodes with
  | nil => rfl
  | cons node nodes =>
      rw [Node.flattenAll, List.append_assoc, Node.firstKind_flatten]
      rfl

theorem Alternative.firstKind_flatten (alternative : Alternative)
    (start exit : Nat) (rest : List Instruction) :
    Compaction.firstKind (alternative.flatten start exit ++ rest) =
      .directive := by
  cases alternative <;> rfl

mutual

/-- The marks of a program are those of its tree. -/
theorem Node.marksBy_flatten (before : Neighbour) (node : Node) (start : Nat)
    (rest : List Instruction) :
    marksBy rule before (node.flatten start ++ rest) =
      node.marks rule before (firstKind rest) ++
        marksBy rule node.kind rest := by
  match node with
  | .text _ => rfl
  | .print _ => rfl
  | .set _ _ _ => rfl
  | .inclusion _ _ _ => rfl
  | .choose condition body others =>
      rw [Node.flatten_choose, List.cons_append, List.append_assoc,
        Compaction.marksBy_cons_directive rfl, Node.marksBy_flattenAll,
        Alternative.firstKind_flatten, Alternative.marksBy_flatten]
      simp [Node.marks, Node.kind]
  | .each id rowAlias source body none =>
      rw [Node.flatten_each, List.cons_append, List.append_assoc,
        Compaction.marksBy_cons_directive rfl, Node.marksBy_flattenAll,
        List.cons_append, Compaction.marksBy_cons_directive rfl]
      simp [Node.marks, Node.kind, firstKind, kind]
  | .each id rowAlias source body (some empty) =>
      rw [Node.flatten_each_empty, List.cons_append, List.append_assoc,
        Compaction.marksBy_cons_directive rfl, Node.marksBy_flattenAll,
        List.cons_append, Compaction.marksBy_cons_directive rfl,
        List.append_assoc, Node.marksBy_flattenAll, List.cons_append,
        Compaction.marksBy_cons_directive rfl]
      simp [Node.marks, Node.kind, firstKind, kind]

theorem Node.marksBy_flattenAll (before : Neighbour) (nodes : List Node)
    (start : Nat) (rest : List Instruction) :
    marksBy rule before (Node.flattenAll start nodes ++ rest) =
      Node.marksAll rule before (firstKind rest) nodes ++
        marksBy rule (Node.lastKind before nodes) rest := by
  match nodes with
  | [] => rfl
  | node :: nodes =>
      rw [Node.flattenAll, List.append_assoc, Node.marksBy_flatten,
        Node.marksBy_flattenAll, Node.firstKind_flattenAll, Node.marksAll,
        List.append_assoc]
      rfl

theorem Alternative.marksBy_flatten (before : Neighbour)
    (alternative : Alternative) (start exit : Nat) (rest : List Instruction) :
    marksBy rule before (alternative.flatten start exit ++ rest) =
      alternative.marks rule ++ marksBy rule .directive rest := by
  match alternative with
  | .done => rfl
  | .otherwise body =>
      rw [Alternative.flatten_otherwise, List.cons_append, List.append_assoc,
        Compaction.marksBy_cons_directive rfl, Node.marksBy_flattenAll,
        List.cons_append, Compaction.marksBy_cons_directive rfl]
      simp [Alternative.marks, firstKind, kind]
  | .elseIf condition body others =>
      rw [Alternative.flatten_elseIf, List.cons_append, List.append_assoc,
        Compaction.marksBy_cons_directive rfl, Node.marksBy_flattenAll,
        Alternative.firstKind_flatten, Alternative.marksBy_flatten]
      simp [Alternative.marks]

end

end

/-! ## Positions that move -/

namespace Compaction

/-- The instructions that are marked, with their targets moved. -/
def keepBy (move : Nat → Nat) (marks : List Bool) (code : List Instruction) :
    List Instruction :=
  ((code.zip marks).filter Prod.snd).map fun (instruction, _) =>
    instruction.retarget move

theorem keep_eq_keepBy (marks : List Bool) (code : List Instruction) :
    keep marks code = keepBy (moved marks) marks code :=
  rfl

@[simp] theorem keepBy_cons (move : Nat → Nat) (mark : Bool) (marks : List Bool)
    (instruction : Instruction) (code : List Instruction) :
    keepBy move (mark :: marks) (instruction :: code) =
      (if mark then [instruction.retarget move] else []) ++
        keepBy move marks code := by
  cases mark <;> rfl

theorem keepBy_append (move : Nat → Nat) {first : List Bool}
    {before : List Instruction} (same : before.length = first.length)
    (second : List Bool) (after : List Instruction) :
    keepBy move (first ++ second) (before ++ after) =
      keepBy move first before ++ keepBy move second after := by
  simp [keepBy, List.zip_append same]

/-- Whether positions move as marks say: from `position` on, each position moves
to `target` and the number of marked instructions before it. -/
def Moves (move : Nat → Nat) : (position target : Nat) → List Bool → Prop
  | position, target, [] => move position = target
  | position, target, mark :: marks =>
    move position = target ∧
      Moves move (position + 1) (target + mark.toNat) marks

theorem Moves.start {move : Nat → Nat} {position target : Nat}
    {marks : List Bool} (moves : Moves move position target marks) :
    move position = target := by
  cases marks with
  | nil => exact moves
  | cons mark marks => exact moves.1

theorem moves_append_iff {move : Nat → Nat} {position target : Nat}
    {first second : List Bool} :
    Moves move position target (first ++ second) ↔
      Moves move position target first ∧
        Moves move (position + first.length) (target + first.count true)
          second := by
  induction first generalizing position target with
  | nil =>
      constructor
      · intro moves
        exact ⟨moves.start, moves⟩
      · exact And.right
  | cons mark first induction =>
      have length :
          position + (mark :: first).length = position + 1 + first.length := by
        simp
        omega
      have count : target + (mark :: first).count true =
          target + mark.toNat + first.count true := by
        cases mark with
        | false => simp
        | true =>
            simp
            omega
      rw [List.cons_append, Moves, Moves, induction, and_assoc, length, count]

/-- The positions of a whole program move as its marks say. -/
theorem moves_moved (marks : List Bool) : Moves (moved marks) 0 0 marks := by
  have inside :
      ∀ before after : List Bool,
        Moves (moved (before ++ after)) before.length (before.count true)
          after := by
    intro before after
    induction after generalizing before with
    | nil => simp [Moves, moved]
    | cons mark after induction =>
        refine ⟨by simp [moved], ?_⟩
        have later := induction (before ++ [mark])
        cases mark <;> simpa [List.count_append] using later
  exact inside [] marks

end Compaction

open Compaction (Moves keepBy moves_append_iff)

section

variable (rule : TextRule)

mutual

theorem Node.length_marks (before after : Neighbour) (node : Node) :
    (node.marks rule before after).length = node.size := by
  match node with
  | .text _ => rfl
  | .print _ => rfl
  | .set _ _ _ => rfl
  | .inclusion _ _ _ => rfl
  | .choose condition body rest =>
      simp [Node.marks, Node.size, Node.length_marksAll,
        Alternative.length_marks]
      omega
  | .each id rowAlias source body none =>
      simp [Node.marks, Node.size, Node.length_marksAll]
      omega
  | .each id rowAlias source body (some empty) =>
      simp [Node.marks, Node.size, Node.length_marksAll]
      omega

theorem Node.length_marksAll (before after : Neighbour) (nodes : List Node) :
    (Node.marksAll rule before after nodes).length = Node.sizeAll nodes := by
  match nodes with
  | [] => rfl
  | node :: nodes =>
      simp [Node.marksAll, Node.sizeAll, Node.length_marks,
        Node.length_marksAll]

theorem Alternative.length_marks (rest : Alternative) :
    (rest.marks rule).length = rest.size := by
  match rest with
  | .done => rfl
  | .otherwise body =>
      simp [Alternative.marks, Alternative.size, Node.length_marksAll]
      omega
  | .elseIf condition body rest =>
      simp [Alternative.marks, Alternative.size, Node.length_marksAll,
        Alternative.length_marks]
      omega

end

mutual

/-- As many instructions are marked as those of the thinned tree. -/
theorem Node.count_marks (before after : Neighbour) (node : Node) :
    (node.marks rule before after).count true =
      if node.stays rule before after then (node.thin rule).size else 0 := by
  match node with
  | .text content =>
      cases stays : rule before after content <;>
        simp [Node.marks, Node.stays, Node.thin, Node.size, stays]
  | .print _ => rfl
  | .set _ _ _ => rfl
  | .inclusion _ _ _ => rfl
  | .choose condition body rest =>
      simp [Node.marks, Node.stays, Node.thin, Node.size, List.count_append,
        Node.count_marksAll, Alternative.count_marks]
      omega
  | .each id rowAlias source body none =>
      simp [Node.marks, Node.stays, Node.thin, Node.size, List.count_append,
        Node.count_marksAll]
      omega
  | .each id rowAlias source body (some empty) =>
      simp [Node.marks, Node.stays, Node.thin, Node.size, List.count_append,
        Node.count_marksAll]
      omega

theorem Node.count_marksAll (before after : Neighbour) (nodes : List Node) :
    (Node.marksAll rule before after nodes).count true =
      Node.sizeAll (Node.thinAll rule before after nodes) := by
  match nodes with
  | [] => rfl
  | node :: nodes =>
      rw [Node.marksAll, List.count_append, Node.count_marks,
        Node.count_marksAll, Node.thinAll]
      split
      · rw [Node.sizeAll]
      · rw [Nat.zero_add]

theorem Alternative.count_marks (rest : Alternative) :
    (rest.marks rule).count true = (rest.thin rule).size := by
  match rest with
  | .done => rfl
  | .otherwise body =>
      simp [Alternative.marks, Alternative.thin, Alternative.size,
        List.count_append, Node.count_marksAll]
      omega
  | .elseIf condition body rest =>
      simp [Alternative.marks, Alternative.thin, Alternative.size,
        List.count_append, Node.count_marksAll, Alternative.count_marks]
      omega

end

/-- The end of a condition stays. -/
theorem Alternative.exists_marks_eq (rest : Alternative) :
    ∃ marks, rest.marks rule = marks ++ [true] := by
  match rest with
  | .done => exact ⟨[], rfl⟩
  | .otherwise body =>
      exact ⟨true :: Node.marksAll rule .directive .directive body, rfl⟩
  | .elseIf condition body rest =>
      obtain ⟨marks, ends⟩ := rest.exists_marks_eq
      exact ⟨true :: (Node.marksAll rule .directive .directive body ++ marks),
        by
        simp [Alternative.marks, ends]⟩

/-- The end of a condition moves to the end of the thinned condition. -/
theorem Alternative.moves_exit {move : Nat → Nat} {position target : Nat}
    {rest : Alternative}
    (moves : Moves move position target (rest.marks rule)) :
    move (position + rest.size - 1) = target + (rest.thin rule).size - 1 := by
  obtain ⟨marks, ends⟩ := rest.exists_marks_eq rule
  have length := rest.length_marks rule
  have count := rest.count_marks rule
  rw [ends] at moves length count
  have exit := (moves_append_iff.mp moves).2.start
  simp only [List.length_append, List.length_singleton] at length
  simp only [List.count_append, List.count_singleton_self] at count
  rw [← length, ← count]
  simpa using exit

mutual

/-- The marked instructions of a node are those of the thinned node, at the
position to which the start moves. -/
theorem Node.keepBy_flatten {move : Nat → Nat} (before after : Neighbour)
    (node : Node) {start target : Nat}
    (moves : Moves move start target (node.marks rule before after)) :
    keepBy move (node.marks rule before after) (node.flatten start) =
      if node.stays rule before after then (node.thin rule).flatten target
      else [] := by
  match node with
  | .text content =>
      cases stays : rule before after content <;>
        simp [Node.marks, Node.stays, Node.thin, Node.flatten, keepBy,
          Instruction.retarget, stays]
  | .print _ => rfl
  | .set _ _ _ => rfl
  | .inclusion _ _ _ => rfl
  | .choose condition body rest =>
      obtain ⟨-, inner⟩ := moves
      obtain ⟨bodyMoves, restMoves⟩ := moves_append_iff.mp inner
      rw [Node.length_marksAll, Node.count_marksAll, Bool.toNat_true]
        at restMoves
      have exit := Alternative.moves_exit rule restMoves
      rw [Node.marks, Node.flatten_choose, Compaction.keepBy_cons,
        Compaction.keepBy_append move
          (by rw [Node.length_flattenAll, Node.length_marksAll]),
        Node.keepBy_flattenAll .directive .directive body bodyMoves,
        Alternative.keepBy_flatten rest restMoves exit]
      simp [Node.stays, Node.thin, Node.flatten_choose, Instruction.retarget,
        restMoves.start]
  | .each id rowAlias source body none =>
      obtain ⟨-, inner⟩ := moves
      obtain ⟨bodyMoves, closeMoves⟩ := moves_append_iff.mp inner
      rw [Node.length_marksAll, Node.count_marksAll, Bool.toNat_true]
        at closeMoves
      rw [Node.marks, Node.flatten_each, Compaction.keepBy_cons,
        Compaction.keepBy_append move
          (by rw [Node.length_flattenAll, Node.length_marksAll]),
        Node.keepBy_flattenAll .directive .directive body bodyMoves,
        Compaction.keepBy_cons]
      have behind := closeMoves.2.start
      simp only [Bool.toNat_true] at behind
      have entry := bodyMoves.start
      simp only [Bool.toNat_true] at entry
      simp [Node.stays, Node.thin, Node.flatten_each, Instruction.retarget,
        entry, behind, keepBy]
  | .each id rowAlias source body (some empty) =>
      obtain ⟨-, inner⟩ := moves
      obtain ⟨bodyMoves, -, others⟩ := moves_append_iff.mp inner
      rw [Node.length_marksAll, Node.count_marksAll, Bool.toNat_true] at others
      obtain ⟨emptyMoves, closeMoves⟩ := moves_append_iff.mp others
      rw [Node.length_marksAll, Node.count_marksAll] at closeMoves
      rw [Node.marks, Node.flatten_each_empty, Compaction.keepBy_cons,
        Compaction.keepBy_append move
          (by rw [Node.length_flattenAll, Node.length_marksAll]),
        Node.keepBy_flattenAll .directive .directive body bodyMoves,
        Compaction.keepBy_cons,
        Compaction.keepBy_append move
          (by rw [Node.length_flattenAll, Node.length_marksAll]),
        Node.keepBy_flattenAll .directive .directive empty emptyMoves,
        Compaction.keepBy_cons]
      have behind := closeMoves.2.start
      simp only [Bool.toNat_true] at behind
      have entry := bodyMoves.start
      simp only [Bool.toNat_true] at entry
      simp [Node.stays, Node.thin, Node.flatten_each_empty,
        Instruction.retarget, entry, behind, emptyMoves.start, keepBy]

theorem Node.keepBy_flattenAll {move : Nat → Nat} (before after : Neighbour)
    (nodes : List Node) {start target : Nat}
    (moves : Moves move start target (Node.marksAll rule before after nodes)) :
    keepBy move (Node.marksAll rule before after nodes)
        (Node.flattenAll start nodes) =
      Node.flattenAll target (Node.thinAll rule before after nodes) := by
  match nodes with
  | [] => rfl
  | node :: nodes =>
      obtain ⟨nodeMoves, nodesMoves⟩ := moves_append_iff.mp moves
      rw [Node.length_marks, Node.count_marks] at nodesMoves
      rw [Node.marksAll, Node.flattenAll,
        Compaction.keepBy_append move
          (by rw [Node.length_flatten, Node.length_marks]),
        Node.keepBy_flatten before _ node nodeMoves,
        Node.keepBy_flattenAll node.kind after nodes nodesMoves, Node.thinAll]
      split
      · rw [Node.flattenAll]
      · rfl

theorem Alternative.keepBy_flatten {move : Nat → Nat} (rest : Alternative)
    {start target exit exitTarget : Nat}
    (moves : Moves move start target (rest.marks rule))
    (exitMoves : move exit = exitTarget) :
    keepBy move (rest.marks rule) (rest.flatten start exit) =
      (rest.thin rule).flatten target exitTarget := by
  match rest with
  | .done => rfl
  | .otherwise body =>
      obtain ⟨-, inner⟩ := moves
      obtain ⟨bodyMoves, -⟩ := moves_append_iff.mp inner
      rw [Alternative.marks, Alternative.flatten_otherwise,
        Compaction.keepBy_cons,
        Compaction.keepBy_append move
          (by rw [Node.length_flattenAll, Node.length_marksAll]),
        Node.keepBy_flattenAll .directive .directive body bodyMoves,
        Compaction.keepBy_cons]
      simp [Alternative.thin, Alternative.flatten_otherwise,
        Instruction.retarget, exitMoves, keepBy]
  | .elseIf condition body rest =>
      obtain ⟨-, inner⟩ := moves
      obtain ⟨bodyMoves, restMoves⟩ := moves_append_iff.mp inner
      rw [Node.length_marksAll, Node.count_marksAll, Bool.toNat_true]
        at restMoves
      rw [Alternative.marks, Alternative.flatten_elseIf, Compaction.keepBy_cons,
        Compaction.keepBy_append move
          (by rw [Node.length_flattenAll, Node.length_marksAll]),
        Node.keepBy_flattenAll .directive .directive body bodyMoves,
        Alternative.keepBy_flatten rest restMoves exitMoves]
      simp [Alternative.thin, Alternative.flatten_elseIf, Instruction.retarget,
        restMoves.start, exitMoves]

end

/-- A flattened tree of which only the instructions stay that a rule marks is
the flattened thinned tree. -/
theorem Node.keep_flattenAll (nodes : List Node) :
    Compaction.keep (marksBy rule .edge (Node.flattenAll 0 nodes))
        (Node.flattenAll 0 nodes) =
      Node.flattenAll 0 (Node.thinAll rule .edge .edge nodes) := by
  have marks := Node.marksBy_flattenAll rule .edge nodes 0 []
  rw [List.append_nil, Compaction.firstKind, marksBy, List.append_nil] at marks
  rw [marks, Compaction.keep_eq_keepBy]
  exact Node.keepBy_flattenAll rule .edge .edge nodes (Compaction.moves_moved _)

end

end TemplateEngine
