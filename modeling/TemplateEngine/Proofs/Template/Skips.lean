import TemplateEngine.Proofs.Template.Compacted

/-!
# Where positions move

In a tree that is laid out, a condition that does not hold skips to a directive.
When texts are dropped or joined, each directive stands where its position has
moved.
-/

namespace TemplateEngine

/-- Where an instruction skips to if its condition does not hold. -/
def Instruction.skip? : Instruction → Option Nat
  | .branch _ next => some next
  | .elseBranch _ next _ => some next
  | _ => none

/-- Whether no text stands where an instruction skips to. -/
def Program.SkipsTexts (program : Program) (_ : Nat)
    (instruction : Instruction) : Prop :=
  ∀ next, instruction.skip? = some next →
    ∀ text, program.instructions[next]? ≠ some (.text text)

section

variable {program : Program}

theorem Program.skipsTexts_of_none {position : Nat} {instruction : Instruction}
    (plain : instruction.skip? = none) :
    program.SkipsTexts position instruction := by
  intro next skips
  rw [plain] at skips
  cases skips

/-- A further branch does not start with a text. -/
theorem Alternative.ne_text {rest : Alternative} {start exit : Nat}
    (stands : program.HasAt start (rest.flatten start exit)) (text : String) :
    program.instructions[start]? ≠ some (.text text) := by
  intro found
  cases rest with
  | done =>
      rw [(Program.hasAt_cons_iff.mp stands).1] at found
      cases found
  | otherwise body =>
      rw [(Program.hasAt_cons_iff.mp stands).1] at found
      cases found
  | elseIf condition body rest =>
      rw [(Program.hasAt_cons_iff.mp stands).1] at found
      cases found

mutual

theorem Node.skipsTexts_flatten (node : Node) {start : Nat}
    (stands : program.HasAt start (node.flatten start)) :
    Placed program.SkipsTexts start (node.flatten start) := by
  match node with
  | .text _ | .print _ | .set _ _ _ | .inclusion _ _ _ =>
      exact placed_cons_iff.mpr ⟨Program.skipsTexts_of_none rfl, placed_nil⟩
  | .choose condition body rest =>
      rw [Node.flatten_choose, Program.hasAt_cons_iff, Program.hasAt_append_iff,
        Node.length_flattenAll] at stands
      obtain ⟨-, bodyStands, restStands⟩ := stands
      rw [Node.flatten_choose, placed_cons_iff, placed_append_iff,
        Node.length_flattenAll]
      refine ⟨?_, Node.skipsTexts_flattenAll body bodyStands,
        Alternative.skipsTexts_flatten rest restStands⟩
      rintro next ⟨⟩
      exact Alternative.ne_text restStands
  | .each id rowAlias source body none =>
      rw [Node.flatten_each, Program.hasAt_cons_iff, Program.hasAt_append_iff]
        at stands
      rw [Node.flatten_each, placed_cons_iff, placed_append_iff]
      refine ⟨Program.skipsTexts_of_none rfl,
        Node.skipsTexts_flattenAll body stands.2.1, ?_⟩
      exact placed_cons_iff.mpr ⟨Program.skipsTexts_of_none rfl, placed_nil⟩
  | .each id rowAlias source body (some empty) =>
      rw [Node.flatten_each_empty, Program.hasAt_cons_iff,
        Program.hasAt_append_iff, Program.hasAt_cons_iff,
        Program.hasAt_append_iff, Node.length_flattenAll] at stands
      obtain ⟨-, bodyStands, -, emptyStands, -⟩ := stands
      rw [Node.flatten_each_empty, placed_cons_iff, placed_append_iff,
        placed_cons_iff, placed_append_iff, Node.length_flattenAll]
      refine ⟨Program.skipsTexts_of_none rfl,
        Node.skipsTexts_flattenAll body bodyStands,
        Program.skipsTexts_of_none rfl,
        Node.skipsTexts_flattenAll empty emptyStands, ?_⟩
      exact placed_cons_iff.mpr ⟨Program.skipsTexts_of_none rfl, placed_nil⟩

/-- In a tree that is laid out, no condition skips to a text. -/
theorem Node.skipsTexts_flattenAll (nodes : List Node) {start : Nat}
    (stands : program.HasAt start (Node.flattenAll start nodes)) :
    Placed program.SkipsTexts start (Node.flattenAll start nodes) := by
  match nodes with
  | [] => exact placed_nil
  | node :: nodes =>
      rw [Node.flattenAll, Program.hasAt_append_iff, Node.length_flatten]
        at stands
      rw [Node.flattenAll, placed_append_iff, Node.length_flatten]
      exact ⟨Node.skipsTexts_flatten node stands.1,
        Node.skipsTexts_flattenAll nodes stands.2⟩

theorem Alternative.skipsTexts_flatten (rest : Alternative) {start exit : Nat}
    (stands : program.HasAt start (rest.flatten start exit)) :
    Placed program.SkipsTexts start (rest.flatten start exit) := by
  match rest with
  | .done =>
      exact placed_cons_iff.mpr ⟨Program.skipsTexts_of_none rfl, placed_nil⟩
  | .otherwise body =>
      rw [Alternative.flatten_otherwise, Program.hasAt_cons_iff,
        Program.hasAt_append_iff] at stands
      rw [Alternative.flatten_otherwise, placed_cons_iff, placed_append_iff]
      refine ⟨Program.skipsTexts_of_none rfl,
        Node.skipsTexts_flattenAll body stands.2.1, ?_⟩
      exact placed_cons_iff.mpr ⟨Program.skipsTexts_of_none rfl, placed_nil⟩
  | .elseIf condition body others =>
      rw [Alternative.flatten_elseIf, Program.hasAt_cons_iff,
        Program.hasAt_append_iff, Node.length_flattenAll] at stands
      obtain ⟨-, bodyStands, restStands⟩ := stands
      rw [Alternative.flatten_elseIf, placed_cons_iff, placed_append_iff,
        Node.length_flattenAll]
      refine ⟨?_, Node.skipsTexts_flattenAll body bodyStands,
        Alternative.skipsTexts_flatten others restStands⟩
      rintro next ⟨⟩
      exact Alternative.ne_text restStands

end

end

/-! ## Instructions that stay -/

namespace Compaction

theorem moved_succ {marks : List Bool} {position : Nat} {mark : Bool}
    (found : marks[position]? = some mark) :
    moved marks (position + 1) = moved marks position + mark.toNat := by
  rw [moved, moved, List.take_add_one, found, List.count_append]
  cases mark <;> rfl

theorem length_keepBy (move : Nat → Nat) {marks : List Bool}
    {code : List Instruction} (same : marks.length = code.length) :
    (keepBy move marks code).length = marks.count true := by
  induction marks generalizing code with
  | nil => simp [keepBy]
  | cons mark marks induction =>
      cases code with
      | nil => cases same
      | cons instruction code =>
          rw [keepBy_cons, List.length_append, induction (Nat.succ.inj same)]
          cases mark <;> simp [Nat.add_comm]

/-- An instruction that stays stands where its position has moved. -/
theorem getElem?_keepBy (move : Nat → Nat) {marks : List Bool}
    {code : List Instruction} {position : Nat} {instruction : Instruction}
    (same : marks.length = code.length)
    (found : code[position]? = some instruction)
    (marked : marks[position]? = some true) :
    (keepBy move marks code)[moved marks position]? =
      some (instruction.retarget move) := by
  obtain ⟨inCode, rfl⟩ := List.getElem?_eq_some_iff.mp found
  obtain ⟨inMarks, isTrue⟩ := List.getElem?_eq_some_iff.mp marked
  have before : (marks.take position).length = (code.take position).length := by
    simp [same]
  have place := length_keepBy move before
  have split :=
    keepBy_append move before.symm (marks.drop position) (code.drop position)
  rw [List.take_append_drop, List.take_append_drop] at split
  rw [split, moved, ← place, List.getElem?_append_right (Nat.le_refl _),
    Nat.sub_self, List.drop_eq_getElem_cons inCode,
    List.drop_eq_getElem_cons inMarks, isTrue, keepBy_cons]
  rfl

theorem length_marksBy (rule : TextRule) (before : Neighbour)
    (code : List Instruction) :
    (marksBy rule before code).length = code.length := by
  induction code generalizing before with
  | nil => rfl
  | cons instruction code induction =>
      rw [marksBy, List.length_cons, induction, List.length_cons]

/-- A directive stays. -/
theorem getElem?_marksBy {rule : TextRule} {code : List Instruction}
    {position : Nat} {instruction : Instruction} (before : Neighbour)
    (found : code[position]? = some instruction)
    (directive : kind instruction = .directive) :
    (marksBy rule before code)[position]? = some true := by
  induction code generalizing before position with
  | nil => cases found
  | cons first code induction =>
      cases position with
      | zero =>
          cases found
          rw [marksBy_cons_directive directive]
          rfl
      | succ position => exact induction (kind first) found

theorem length_absorb (code : List Instruction) :
    (absorb code).length = code.length := by
  induction code with
  | nil => rfl
  | cons instruction code induction =>
      cases instruction <;> simp [absorb, induction]

/-- Only texts change when they take in others. -/
theorem getElem?_absorb {code : List Instruction} {position : Nat}
    {instruction : Instruction} (found : code[position]? = some instruction) :
    ∃ joined, (absorb code)[position]? = some joined ∧
      kind joined = kind instruction ∧
      (kind instruction = .directive → joined = instruction) := by
  induction code generalizing position with
  | nil => cases found
  | cons first code induction =>
      cases position with
      | zero =>
          cases found
          cases instruction with
          | text text =>
              exact ⟨_, rfl, rfl, fun directive => by cases directive⟩
          | _ => exact ⟨_, rfl, rfl, fun _ => rfl⟩
      | succ position =>
          obtain ⟨joined, there, same⟩ := induction found
          cases first <;> exact ⟨joined, there, same⟩

end Compaction

end TemplateEngine
