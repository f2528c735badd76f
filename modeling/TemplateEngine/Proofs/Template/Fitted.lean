import TemplateEngine.Proofs.Template.Scoped
import TemplateEngine.Template.Compiled

/-!
# Jumps respect iterations

In a tree that is laid out, every instruction goes on at a position with the
iterations around it that are open after it has run, and reads rows of
iterations around itself only.
-/

namespace TemplateEngine

namespace Program

theorem stackAt_add {program : Program} {start : Nat} {code : List Instruction}
    (stands : program.HasAt start code) :
    program.stackAt (start + code.length) =
      code.foldl Instruction.pushes (program.stackAt start) := by
  induction code generalizing start with
  | nil => rfl
  | cons instruction code induction =>
      obtain ⟨found, stands⟩ := hasAt_cons_iff.mp stands
      rw [List.length_cons, List.foldl_cons, ← stackAt_succ found,
        ← induction stands]
      congr 1
      omega

/-- Where an instruction goes on, as far as iterations are concerned. -/
def Lands (program : Program) (position : Nat) : Instruction → Prop
  | .branch _ next => program.stackAt next = program.stackAt position
  | .elseBranch _ next exit =>
    program.stackAt next = program.stackAt position ∧
      program.stackAt exit = program.stackAt position
  | .otherwise exit => program.stackAt exit = program.stackAt position
  | .openBlock _ _ _ skip => program.stackAt skip = program.stackAt position
  | .elseBlock id body exit =>
    program.stackAt position = id :: program.stackAt exit ∧
      program.stackAt body = program.stackAt position
  | .closeBlock id body =>
    id ∉ program.stackAt position ∨
      program.stackAt position = id :: program.stackAt (position + 1) ∧
        program.stackAt body = program.stackAt position
  | _ => True

/-- Whether an instruction fits into the iterations around it. -/
structure Fits (program : Program) (position : Nat)
    (instruction : Instruction) : Prop where
  reads : instruction.frames ⊆ program.stackAt position
  lands : program.Lands position instruction

end Program

/-! ## The iterations of a tree are closed behind it -/

/-- The numbers in a part are apart from those of the open iterations also after
one more is opened. -/
private theorem apart_pushed {ids around : List Nat} {id : Nat}
    (fresh : id ∉ ids) (apart : ∀ other ∈ ids, other ∉ around) :
    ∀ other ∈ ids, other ∉ id :: around := by
  intro other member
  rw [List.mem_cons, not_or]
  exact ⟨ne_of_mem_of_not_mem member fresh, apart other member⟩

open Instruction
  (pushes pushes_openBlock pushes_plain pushes_end_cons pushes_end_of_apart)

mutual

theorem Node.foldl_pushes (node : Node) (start : Nat) {around : List Nat}
    (fresh : ∀ id ∈ node.ids, id ∉ around) (distinct : node.ids.Nodup) :
    (node.flatten start).foldl Instruction.pushes around = around := by
  match node with
  | .text _ | .print _ | .set _ _ _ | .inclusion _ _ _ => rfl
  | .choose condition body rest =>
      simp only [Node.ids, List.mem_append] at fresh
      rw [Node.ids, List.nodup_append] at distinct
      rw [Node.flatten_choose, List.foldl_cons, List.foldl_append,
        pushes_plain rfl rfl,
        Node.foldl_pushes_all body _ (fun id member => fresh id (.inl member))
          distinct.1,
        Alternative.foldl_pushes rest _ _
          (fun id member => fresh id (.inr member)) distinct.2.1]
  | .each id rowAlias source body none =>
      rw [Node.ids, List.nodup_cons] at distinct
      rw [Node.ids, List.forall_mem_cons] at fresh
      rw [Node.flatten_each, List.foldl_cons, List.foldl_append,
        pushes_openBlock,
        Node.foldl_pushes_all body _ (apart_pushed distinct.1 fresh.2)
          distinct.2, List.foldl_cons, pushes_end_cons rfl rfl fresh.1]
      rfl
  | .each id rowAlias source body (some empty) =>
      rw [Node.ids, List.nodup_cons, List.mem_append, not_or, List.nodup_append]
        at distinct
      obtain ⟨⟨freshBody, freshEmpty⟩, distinctBody, distinctEmpty, -⟩ :=
        distinct
      rw [Node.ids, List.forall_mem_cons] at fresh
      simp only [List.mem_append] at fresh
      have freshInner :=
        apart_pushed freshBody fun id member => fresh.2 id (.inl member)
      rw [Node.flatten_each_empty, List.foldl_cons, List.foldl_append,
        List.foldl_cons, List.foldl_append, pushes_openBlock,
        Node.foldl_pushes_all body _ freshInner distinctBody,
        pushes_end_cons rfl rfl fresh.1,
        Node.foldl_pushes_all empty _
          (fun id member => fresh.2 id (.inr member)) distinctEmpty,
        List.foldl_cons, pushes_end_of_apart rfl rfl fresh.1]
      rfl

theorem Node.foldl_pushes_all (nodes : List Node) (start : Nat)
    {around : List Nat} (fresh : ∀ id ∈ Node.idsAll nodes, id ∉ around)
    (distinct : (Node.idsAll nodes).Nodup) :
    (Node.flattenAll start nodes).foldl Instruction.pushes around = around := by
  match nodes with
  | [] => rfl
  | node :: nodes =>
      simp only [Node.idsAll, List.mem_append] at fresh
      rw [Node.idsAll, List.nodup_append] at distinct
      rw [Node.flattenAll, List.foldl_append,
        Node.foldl_pushes node start (fun id member => fresh id (.inl member))
          distinct.1,
        Node.foldl_pushes_all nodes _ (fun id member => fresh id (.inr member))
          distinct.2.1]

theorem Alternative.foldl_pushes (rest : Alternative) (start exit : Nat)
    {around : List Nat} (fresh : ∀ id ∈ rest.ids, id ∉ around)
    (distinct : rest.ids.Nodup) :
    (rest.flatten start exit).foldl Instruction.pushes around = around := by
  match rest with
  | .done => rfl
  | .otherwise body =>
      rw [Alternative.flatten_otherwise, List.foldl_cons, List.foldl_append]
      exact Node.foldl_pushes_all body _ fresh distinct
  | .elseIf condition body others =>
      simp only [Alternative.ids, List.mem_append] at fresh
      rw [Alternative.ids, List.nodup_append] at distinct
      rw [Alternative.flatten_elseIf, List.foldl_cons, List.foldl_append,
        pushes_plain rfl rfl,
        Node.foldl_pushes_all body _ (fun id member => fresh id (.inl member))
          distinct.1,
        Alternative.foldl_pushes others _ _
          (fun id member => fresh id (.inr member)) distinct.2.1]

end

section

variable {program : Program}

theorem Node.stackAt_sizeAll {nodes : List Node} {start : Nat}
    (stands : program.HasAt start (Node.flattenAll start nodes))
    (fresh : ∀ id ∈ Node.idsAll nodes, id ∉ program.stackAt start)
    (distinct : (Node.idsAll nodes).Nodup) :
    program.stackAt (start + Node.sizeAll nodes) = program.stackAt start := by
  rw [← Node.length_flattenAll start, Program.stackAt_add stands,
    Node.foldl_pushes_all nodes start fresh distinct]

/-- The end of a condition has the iterations around it that its start has. -/
theorem Alternative.stackAt_exit {rest : Alternative} {start exit : Nat}
    (stands : program.HasAt start (rest.flatten start exit))
    (last : exit + 1 = start + rest.size)
    (fresh : ∀ id ∈ rest.ids, id ∉ program.stackAt start)
    (distinct : rest.ids.Nodup) :
    program.stackAt exit = program.stackAt start := by
  have positive := rest.size_pos
  have place : start + (rest.size - 1) = exit := by omega
  have ends := stands _ _ (rest.getElem?_flatten_last start exit)
  rw [place] at ends
  calc
    program.stackAt exit = program.stackAt (exit + 1) := by
      rw [Program.stackAt_succ ends, pushes_plain rfl rfl]
    _ = program.stackAt start := by
      rw [last, ← Alternative.length_flatten start exit,
        Program.stackAt_add stands,
        Alternative.foldl_pushes rest start exit fresh distinct]

/-! ## Every instruction fits -/

mutual

theorem Node.fits_flatten (node : Node) {start : Nat}
    (stands : program.HasAt start (node.flatten start))
    (fresh : ∀ id ∈ node.ids, id ∉ program.stackAt start)
    (distinct : node.ids.Nodup) (within : node.Within (program.stackAt start)) :
    Placed program.Fits start (node.flatten start) := by
  match node with
  | .text _ =>
      exact placed_cons_iff.mpr ⟨⟨List.nil_subset _, trivial⟩, placed_nil⟩
  | .print _ | .set _ _ _ | .inclusion _ _ _ =>
      exact placed_cons_iff.mpr ⟨⟨within, trivial⟩, placed_nil⟩
  | .choose condition body rest =>
      rw [Node.flatten_choose, Program.hasAt_cons_iff, Program.hasAt_append_iff,
        Node.length_flattenAll] at stands
      obtain ⟨head, bodyStands, restStands⟩ := stands
      simp only [Node.ids, List.mem_append] at fresh
      rw [Node.ids, List.nodup_append] at distinct
      have entry : program.stackAt (start + 1) = program.stackAt start :=
        (Program.stackAt_succ head).trans (pushes_plain rfl rfl _)
      have freshBody :
          ∀ id ∈ Node.idsAll body, id ∉ program.stackAt (start + 1) :=
        entry ▸ fun id member => fresh id (.inl member)
      have next :
          program.stackAt (start + 1 + Node.sizeAll body) =
            program.stackAt start :=
        (Node.stackAt_sizeAll bodyStands freshBody distinct.1).trans entry
      have freshRest : ∀ id ∈ rest.ids,
          id ∉ program.stackAt (start + 1 + Node.sizeAll body) :=
        next ▸ fun id member => fresh id (.inr member)
      have last : start + 1 + Node.sizeAll body + rest.size - 1 + 1 =
          start + 1 + Node.sizeAll body + rest.size := by
        have positive := rest.size_pos
        omega
      have leaves :=
        Alternative.stackAt_exit restStands last freshRest distinct.2.1
      rw [Node.flatten_choose, placed_cons_iff, placed_append_iff,
        Node.length_flattenAll]
      refine ⟨⟨within.1, next⟩, ?_, ?_⟩
      · exact Node.fits_flattenAll body bodyStands freshBody distinct.1
          (entry ▸ within.2.1)
      · exact Alternative.fits_flatten rest restStands freshRest distinct.2.1
          (next ▸ within.2.2) leaves
  | .each id rowAlias source body none =>
      rw [Node.flatten_each, Program.hasAt_cons_iff, Program.hasAt_append_iff,
        Node.length_flattenAll] at stands
      obtain ⟨head, bodyStands, turn⟩ := stands
      have closing := (Program.hasAt_cons_iff.mp turn).1
      rw [Node.ids, List.nodup_cons] at distinct
      rw [Node.ids, List.forall_mem_cons] at fresh
      have entry : program.stackAt (start + 1) = id :: program.stackAt start :=
        Program.stackAt_succ head
      have freshBody :
          ∀ other ∈ Node.idsAll body, other ∉ program.stackAt (start + 1) :=
        entry ▸ apart_pushed distinct.1 fresh.2
      have atTurn := Node.stackAt_sizeAll bodyStands freshBody distinct.2
      have behind : program.stackAt (start + 1 + Node.sizeAll body + 1) =
          program.stackAt start := by
        rw [Program.stackAt_succ closing, atTurn, entry,
          pushes_end_cons rfl rfl fresh.1]
      rw [Node.flatten_each, placed_cons_iff, placed_append_iff,
        Node.length_flattenAll]
      refine ⟨⟨within.1, behind⟩, ?_, ?_⟩
      · exact Node.fits_flattenAll body bodyStands freshBody distinct.2
          (entry ▸ within.2)
      · refine placed_cons_iff.mpr
          ⟨⟨List.nil_subset _, .inr ⟨?_, atTurn.symm⟩⟩, placed_nil⟩
        rw [atTurn, entry, behind]
  | .each id rowAlias source body (some empty) =>
      rw [Node.flatten_each_empty, Program.hasAt_cons_iff,
        Program.hasAt_append_iff, Program.hasAt_cons_iff,
        Program.hasAt_append_iff, Node.length_flattenAll,
        Node.length_flattenAll] at stands
      obtain ⟨head, bodyStands, turn, emptyStands, close⟩ := stands
      have closing := (Program.hasAt_cons_iff.mp close).1
      rw [Node.ids, List.nodup_cons, List.mem_append, not_or, List.nodup_append]
        at distinct
      obtain ⟨⟨freshBody, freshEmpty⟩, distinctBody, distinctEmpty, -⟩ :=
        distinct
      rw [Node.ids, List.forall_mem_cons] at fresh
      simp only [List.mem_append] at fresh
      have entry : program.stackAt (start + 1) = id :: program.stackAt start :=
        Program.stackAt_succ head
      have bodyApart :
          ∀ other ∈ Node.idsAll body, other ∉ program.stackAt (start + 1) :=
        entry ▸ apart_pushed freshBody fun id member => fresh.2 id (.inl member)
      have atTurn := Node.stackAt_sizeAll bodyStands bodyApart distinctBody
      have between : program.stackAt (start + 1 + Node.sizeAll body + 1) =
          program.stackAt start := by
        rw [Program.stackAt_succ turn, atTurn, entry,
          pushes_end_cons rfl rfl fresh.1]
      have emptyApart : ∀ other ∈ Node.idsAll empty,
          other ∉ program.stackAt (start + 1 + Node.sizeAll body + 1) :=
        between ▸ fun id member => fresh.2 id (.inr member)
      have atClose :=
        (Node.stackAt_sizeAll emptyStands emptyApart distinctEmpty).trans
          between
      have behind : program.stackAt
          (start + 1 + Node.sizeAll body + 1 + Node.sizeAll empty + 1) =
            program.stackAt start := by
        rw [Program.stackAt_succ closing, atClose,
          pushes_end_of_apart rfl rfl fresh.1]
      rw [Node.flatten_each_empty, placed_cons_iff, placed_append_iff,
        placed_cons_iff, placed_append_iff, Node.length_flattenAll,
        Node.length_flattenAll]
      refine ⟨⟨within.1, between⟩, ?_, ⟨List.nil_subset _, ?_, atTurn.symm⟩, ?_,
        ?_⟩
      · exact Node.fits_flattenAll body bodyStands bodyApart distinctBody
          (entry ▸ within.2.1)
      · rw [atTurn, entry, behind]
      · exact Node.fits_flattenAll empty emptyStands emptyApart distinctEmpty
          (between ▸ within.2.2)
      · refine placed_cons_iff.mpr ⟨⟨List.nil_subset _, .inl ?_⟩, placed_nil⟩
        rw [atClose]
        exact fresh.1

theorem Node.fits_flattenAll (nodes : List Node) {start : Nat}
    (stands : program.HasAt start (Node.flattenAll start nodes))
    (fresh : ∀ id ∈ Node.idsAll nodes, id ∉ program.stackAt start)
    (distinct : (Node.idsAll nodes).Nodup)
    (within : Node.WithinAll (program.stackAt start) nodes) :
    Placed program.Fits start (Node.flattenAll start nodes) := by
  match nodes with
  | [] => exact placed_nil
  | node :: nodes =>
      rw [Node.flattenAll, Program.hasAt_append_iff, Node.length_flatten]
        at stands
      simp only [Node.idsAll, List.mem_append] at fresh
      rw [Node.idsAll, List.nodup_append] at distinct
      have behind :
          program.stackAt (start + node.size) = program.stackAt start := by
        rw [← Node.length_flatten start, Program.stackAt_add stands.1,
          Node.foldl_pushes node start (fun id member => fresh id (.inl member))
            distinct.1]
      rw [Node.flattenAll, placed_append_iff, Node.length_flatten]
      constructor
      · exact Node.fits_flatten node stands.1
          (fun id member => fresh id (.inl member)) distinct.1 within.1
      · exact Node.fits_flattenAll nodes stands.2
          (behind ▸ fun id member => fresh id (.inr member)) distinct.2.1
          (behind ▸ within.2)

theorem Alternative.fits_flatten (rest : Alternative) {start exit : Nat}
    (stands : program.HasAt start (rest.flatten start exit))
    (fresh : ∀ id ∈ rest.ids, id ∉ program.stackAt start)
    (distinct : rest.ids.Nodup) (within : rest.Within (program.stackAt start))
    (leaves : program.stackAt exit = program.stackAt start) :
    Placed program.Fits start (rest.flatten start exit) := by
  match rest with
  | .done =>
      exact placed_cons_iff.mpr ⟨⟨List.nil_subset _, trivial⟩, placed_nil⟩
  | .otherwise body =>
      rw [Alternative.flatten_otherwise, Program.hasAt_cons_iff,
        Program.hasAt_append_iff] at stands
      have entry : program.stackAt (start + 1) = program.stackAt start :=
        (Program.stackAt_succ stands.1).trans (pushes_plain rfl rfl _)
      rw [Alternative.flatten_otherwise, placed_cons_iff, placed_append_iff]
      refine ⟨⟨List.nil_subset _, leaves⟩, ?_, ?_⟩
      · exact Node.fits_flattenAll body stands.2.1 (entry ▸ fresh) distinct
          (entry ▸ within)
      · exact placed_cons_iff.mpr ⟨⟨List.nil_subset _, trivial⟩, placed_nil⟩
  | .elseIf condition body others =>
      rw [Alternative.flatten_elseIf, Program.hasAt_cons_iff,
        Program.hasAt_append_iff, Node.length_flattenAll] at stands
      obtain ⟨head, bodyStands, restStands⟩ := stands
      simp only [Alternative.ids, List.mem_append] at fresh
      rw [Alternative.ids, List.nodup_append] at distinct
      have entry : program.stackAt (start + 1) = program.stackAt start :=
        (Program.stackAt_succ head).trans (pushes_plain rfl rfl _)
      have freshBody :
          ∀ id ∈ Node.idsAll body, id ∉ program.stackAt (start + 1) :=
        entry ▸ fun id member => fresh id (.inl member)
      have next :
          program.stackAt (start + 1 + Node.sizeAll body) =
            program.stackAt start :=
        (Node.stackAt_sizeAll bodyStands freshBody distinct.1).trans entry
      rw [Alternative.flatten_elseIf, placed_cons_iff, placed_append_iff,
        Node.length_flattenAll]
      refine ⟨⟨within.1, next, leaves⟩, ?_, ?_⟩
      · exact Node.fits_flattenAll body bodyStands freshBody distinct.1
          (entry ▸ within.2.1)
      · exact Alternative.fits_flatten others restStands
          (next ▸ fun id member => fresh id (.inr member)) distinct.2.1
          (next ▸ within.2.2) (leaves.trans next.symm)

end

end

/-! ## Iterations are opened before they end -/

mutual

theorem Node.mem_ids_of_marks (node : Node) {start id : Nat}
    {instruction : Instruction} (member : instruction ∈ node.flatten start)
    (marks : instruction.Marks id) : id ∈ node.ids := by
  match node with
  | .text _ | .print _ | .set _ _ _ | .inclusion _ _ _ =>
      cases List.mem_singleton.mp member
      rcases marks with marks | marks <;> cases marks
  | .choose condition body rest =>
      rw [Node.flatten_choose, List.mem_cons, List.mem_append] at member
      rw [Node.ids, List.mem_append]
      rcases member with rfl | inBody | inRest
      · rcases marks with marks | marks <;> cases marks
      · exact .inl (Node.mem_idsAll_of_marks body inBody marks)
      · exact .inr (Alternative.mem_ids_of_marks rest inRest marks)
  | .each own rowAlias source body none =>
      rw [Node.flatten_each, List.mem_cons, List.mem_append, List.mem_singleton]
        at member
      rw [Node.ids, List.mem_cons]
      rcases member with rfl | inBody | rfl
      · rcases marks with marks | marks <;> cases marks
        exact .inl rfl
      · exact .inr (Node.mem_idsAll_of_marks body inBody marks)
      · rcases marks with marks | marks <;> cases marks
        exact .inl rfl
  | .each own rowAlias source body (some empty) =>
      rw [Node.flatten_each_empty, List.mem_cons, List.mem_append,
        List.mem_cons, List.mem_append, List.mem_singleton] at member
      rw [Node.ids, List.mem_cons, List.mem_append]
      rcases member with rfl | inBody | rfl | inEmpty | rfl
      · rcases marks with marks | marks <;> cases marks
        exact .inl rfl
      · exact .inr (.inl (Node.mem_idsAll_of_marks body inBody marks))
      · rcases marks with marks | marks <;> cases marks
        exact .inl rfl
      · exact .inr (.inr (Node.mem_idsAll_of_marks empty inEmpty marks))
      · rcases marks with marks | marks <;> cases marks
        exact .inl rfl

theorem Node.mem_idsAll_of_marks (nodes : List Node) {start id : Nat}
    {instruction : Instruction}
    (member : instruction ∈ Node.flattenAll start nodes)
    (marks : instruction.Marks id) : id ∈ Node.idsAll nodes := by
  match nodes with
  | [] => cases member
  | node :: nodes =>
      rw [Node.flattenAll, List.mem_append] at member
      rw [Node.idsAll, List.mem_append]
      rcases member with inNode | inNodes
      · exact .inl (Node.mem_ids_of_marks node inNode marks)
      · exact .inr (Node.mem_idsAll_of_marks nodes inNodes marks)

theorem Alternative.mem_ids_of_marks (rest : Alternative) {start exit id : Nat}
    {instruction : Instruction} (member : instruction ∈ rest.flatten start exit)
    (marks : instruction.Marks id) : id ∈ rest.ids := by
  match rest with
  | .done =>
      cases List.mem_singleton.mp member
      rcases marks with marks | marks <;> cases marks
  | .otherwise body =>
      rw [Alternative.flatten_otherwise, List.mem_cons, List.mem_append,
        List.mem_singleton] at member
      rcases member with rfl | inBody | rfl
      · rcases marks with marks | marks <;> cases marks
      · exact Node.mem_idsAll_of_marks body inBody marks
      · rcases marks with marks | marks <;> cases marks
  | .elseIf condition body others =>
      rw [Alternative.flatten_elseIf, List.mem_cons, List.mem_append] at member
      rw [Alternative.ids, List.mem_append]
      rcases member with rfl | inBody | inRest
      · rcases marks with marks | marks <;> cases marks
      · exact .inl (Node.mem_idsAll_of_marks body inBody marks)
      · exact .inr (Alternative.mem_ids_of_marks others inRest marks)

end

/-- An instruction that ends no part of an iteration precedes every other
one. -/
theorem Instruction.precedes_of_ends_none {earlier : Instruction}
    (ends : earlier.ends? = none) (later : Instruction) :
    earlier.Precedes later := by
  intro id _ same
  rw [ends] at same
  cases same

/-- An instruction that opens no iteration is preceded by every other one. -/
theorem Instruction.precedes_of_opens_none {later : Instruction}
    (opens : later.opens? = none) (earlier : Instruction) :
    earlier.Precedes later := by
  intro id same
  rw [opens] at same
  cases same

/-- The instructions of parts with different iterations precede each other. -/
theorem Instruction.precedes_of_marks {first second : List Nat}
    {earlier later : Instruction}
    (apart : ∀ one ∈ first, ∀ other ∈ second, one ≠ other)
    (inFirst : ∀ id, earlier.Marks id → id ∈ first)
    (inSecond : ∀ id, later.Marks id → id ∈ second) : earlier.Precedes later :=
  fun id opens ends =>
    apart id (inFirst id (.inr ends)) id (inSecond id (.inl opens)) rfl

mutual

theorem Node.pairwise_precedes (node : Node) (start : Nat)
    (distinct : node.ids.Nodup) :
    (node.flatten start).Pairwise Instruction.Precedes := by
  match node with
  | .text _ | .print _ | .set _ _ _ | .inclusion _ _ _ =>
      exact List.pairwise_singleton _ _
  | .choose condition body rest =>
      rw [Node.ids, List.nodup_append] at distinct
      rw [Node.flatten_choose, List.pairwise_cons, List.pairwise_append]
      refine ⟨fun later _ => Instruction.precedes_of_ends_none rfl later,
        Node.pairwise_precedes_all body _ distinct.1,
        Alternative.pairwise_precedes rest _ _ distinct.2.1, ?_⟩
      intro earlier inBody later inRest
      exact Instruction.precedes_of_marks distinct.2.2
        (fun _ => Node.mem_idsAll_of_marks body inBody)
        (fun _ => Alternative.mem_ids_of_marks rest inRest)
  | .each id rowAlias source body none =>
      rw [Node.ids, List.nodup_cons] at distinct
      rw [Node.flatten_each, List.pairwise_cons, List.pairwise_append]
      refine ⟨fun later _ => Instruction.precedes_of_ends_none rfl later,
        Node.pairwise_precedes_all body _ distinct.2,
        List.pairwise_singleton _ _, ?_⟩
      intro earlier _ later isClose
      cases List.mem_singleton.mp isClose
      exact Instruction.precedes_of_opens_none rfl earlier
  | .each id rowAlias source body (some empty) =>
      rw [Node.ids, List.nodup_cons, List.mem_append, not_or, List.nodup_append]
        at distinct
      obtain ⟨⟨-, freshEmpty⟩, distinctBody, distinctEmpty, apart⟩ := distinct
      rw [Node.flatten_each_empty, List.pairwise_cons, List.pairwise_append,
        List.pairwise_cons, List.pairwise_append]
      refine ⟨fun later _ => Instruction.precedes_of_ends_none rfl later,
        Node.pairwise_precedes_all body _ distinctBody,
        ⟨?_, Node.pairwise_precedes_all empty _ distinctEmpty,
          List.pairwise_singleton _ _, ?_⟩, ?_⟩
      · intro later member
        rcases List.mem_append.mp member with inEmpty | isClose
        · intro other opens ends
          cases ends
          exact freshEmpty (Node.mem_idsAll_of_marks empty inEmpty (.inl opens))
        · cases List.mem_singleton.mp isClose
          exact Instruction.precedes_of_opens_none rfl _
      · intro earlier _ later isClose
        cases List.mem_singleton.mp isClose
        exact Instruction.precedes_of_opens_none rfl earlier
      · intro earlier inBody later member
        simp only [List.mem_cons, List.mem_append, List.not_mem_nil, or_false]
          at member
        rcases member with rfl | inEmpty | rfl
        · exact Instruction.precedes_of_opens_none rfl earlier
        · exact Instruction.precedes_of_marks apart
            (fun _ => Node.mem_idsAll_of_marks body inBody)
            (fun _ => Node.mem_idsAll_of_marks empty inEmpty)
        · exact Instruction.precedes_of_opens_none rfl earlier

theorem Node.pairwise_precedes_all (nodes : List Node) (start : Nat)
    (distinct : (Node.idsAll nodes).Nodup) :
    (Node.flattenAll start nodes).Pairwise Instruction.Precedes := by
  match nodes with
  | [] => exact .nil
  | node :: nodes =>
      rw [Node.idsAll, List.nodup_append] at distinct
      rw [Node.flattenAll, List.pairwise_append]
      refine ⟨Node.pairwise_precedes node start distinct.1,
        Node.pairwise_precedes_all nodes _ distinct.2.1, ?_⟩
      intro earlier inNode later inNodes
      exact Instruction.precedes_of_marks distinct.2.2
        (fun _ => Node.mem_ids_of_marks node inNode)
        (fun _ => Node.mem_idsAll_of_marks nodes inNodes)

theorem Alternative.pairwise_precedes (rest : Alternative) (start exit : Nat)
    (distinct : rest.ids.Nodup) :
    (rest.flatten start exit).Pairwise Instruction.Precedes := by
  match rest with
  | .done => exact List.pairwise_singleton _ _
  | .otherwise body =>
      rw [Alternative.flatten_otherwise, List.pairwise_cons,
        List.pairwise_append]
      refine ⟨fun later _ => Instruction.precedes_of_ends_none rfl later,
        Node.pairwise_precedes_all body _ distinct, List.pairwise_singleton _ _,
        ?_⟩
      intro earlier _ later isEnd
      cases List.mem_singleton.mp isEnd
      exact Instruction.precedes_of_opens_none rfl earlier
  | .elseIf condition body others =>
      rw [Alternative.ids, List.nodup_append] at distinct
      rw [Alternative.flatten_elseIf, List.pairwise_cons, List.pairwise_append]
      refine ⟨fun later _ => Instruction.precedes_of_ends_none rfl later,
        Node.pairwise_precedes_all body _ distinct.1,
        Alternative.pairwise_precedes others _ _ distinct.2.1, ?_⟩
      intro earlier inBody later inRest
      exact Instruction.precedes_of_marks distinct.2.2
        (fun _ => Node.mem_idsAll_of_marks body inBody)
        (fun _ => Alternative.mem_ids_of_marks others inRest)

end

/-! ## Every iteration is opened by one instruction -/

theorem Instruction.opens?_openBlock (id : Nat) (rowAlias : String)
    (source : Source) (skip : Nat) :
    (openBlock id rowAlias source skip).opens? = some id :=
  rfl

mutual

/-- A tree that is laid out opens its iterations in their order. -/
theorem Node.filterMap_opens? (node : Node) (start : Nat) :
    (node.flatten start).filterMap Instruction.opens? = node.ids := by
  match node with
  | .text _ | .print _ | .set _ _ _ | .inclusion _ _ _ => rfl
  | .choose condition body rest =>
      rw [Node.flatten_choose, List.filterMap_cons_none rfl,
        List.filterMap_append, Node.filterMap_opens?_all body,
        Alternative.filterMap_opens? rest, Node.ids]
  | .each id rowAlias source body none =>
      rw [Node.flatten_each,
        List.filterMap_cons_some (Instruction.opens?_openBlock ..),
        List.filterMap_append, Node.filterMap_opens?_all body,
        List.filterMap_cons_none rfl, List.filterMap_nil, List.append_nil,
        Node.ids]
  | .each id rowAlias source body (some empty) =>
      rw [Node.flatten_each_empty,
        List.filterMap_cons_some (Instruction.opens?_openBlock ..),
        List.filterMap_append, Node.filterMap_opens?_all body,
        List.filterMap_cons_none rfl, List.filterMap_append,
        Node.filterMap_opens?_all empty, List.filterMap_cons_none rfl,
        List.filterMap_nil, List.append_nil, Node.ids]

theorem Node.filterMap_opens?_all (nodes : List Node) (start : Nat) :
    (Node.flattenAll start nodes).filterMap Instruction.opens? =
      Node.idsAll nodes := by
  match nodes with
  | [] => rfl
  | node :: nodes =>
      rw [Node.flattenAll, List.filterMap_append, Node.filterMap_opens? node,
        Node.filterMap_opens?_all nodes, Node.idsAll]

theorem Alternative.filterMap_opens? (rest : Alternative) (start exit : Nat) :
    (rest.flatten start exit).filterMap Instruction.opens? = rest.ids := by
  match rest with
  | .done => rfl
  | .otherwise body =>
      rw [Alternative.flatten_otherwise, List.filterMap_cons_none rfl,
        List.filterMap_append, Node.filterMap_opens?_all body,
        List.filterMap_cons_none rfl, List.filterMap_nil, List.append_nil,
        Alternative.ids]
  | .elseIf condition body others =>
      rw [Alternative.flatten_elseIf, List.filterMap_cons_none rfl,
        List.filterMap_append, Node.filterMap_opens?_all body,
        Alternative.filterMap_opens? others, Alternative.ids]

end

/-! ## Compiled templates -/

/-- The program of a compiled template is a laid out tree. -/
theorem exists_nodes_of_compile {options : Options} {known : Catalog}
    {source : String} {compiled : Compiled}
    (compiles : compile options known source = .ok compiled) :
    ∃ tokens nodes, Node.ofTokens known tokens = .ok nodes ∧
      compiled.program =
        ⟨Node.flattenAll 0
          (Node.compactAll options.compactWhitespace nodes)⟩ := by
  rw [compile] at compiles
  split at compiles
  · cases compiles
  next tokens tokenized =>
    split at compiles
    · cases compiles
    next nodes parsed =>
      cases compiles
      exact ⟨tokens, nodes, parsed, by rw [Node.compact_flattenAll]⟩

section

variable {options : Options} {known : Catalog} {source : String}
  {compiled : Compiled} (compiles : compile options known source = .ok compiled)

include compiles

/-- In a compiled template iterations are opened before they end. -/
theorem Program.ordered_of_compile : compiled.program.Ordered := by
  obtain ⟨tokens, nodes, parsed, same⟩ := exists_nodes_of_compile compiles
  rw [same]
  apply Node.pairwise_precedes_all
  rw [Node.idsAll_compactAll]
  exact Node.nodup_ids_of_ofTokens parsed

/-- In a compiled template different instructions open different iterations. -/
theorem Program.nodup_opens_of_compile :
    (compiled.program.instructions.filterMap Instruction.opens?).Nodup := by
  obtain ⟨tokens, nodes, parsed, same⟩ := exists_nodes_of_compile compiles
  rw [same, Node.filterMap_opens?_all, Node.idsAll_compactAll]
  exact Node.nodup_ids_of_ofTokens parsed

/-- Behind a compiled template no iteration is open. -/
theorem Program.stackAt_length_of_compile :
    compiled.program.stackAt compiled.program.instructions.length = [] := by
  obtain ⟨tokens, nodes, parsed, same⟩ := exists_nodes_of_compile compiles
  rw [same, Program.stackAt, List.take_length]
  apply Node.foldl_pushes_all _ _ (fun _ _ => List.not_mem_nil)
  rw [Node.idsAll_compactAll]
  exact Node.nodup_ids_of_ofTokens parsed

/-- In a compiled template every instruction fits into the iterations around
it. -/
theorem Program.fits_of_compile {position : Nat} {instruction : Instruction}
    (found : compiled.program.instructions[position]? = some instruction) :
    compiled.program.Fits position instruction := by
  obtain ⟨tokens, nodes, parsed, same⟩ := exists_nodes_of_compile compiles
  rw [same] at found ⊢
  have distinct :
      (Node.idsAll
        (Node.compactAll options.compactWhitespace nodes)).Nodup := by
    rw [Node.idsAll_compactAll]
    exact Node.nodup_ids_of_ofTokens parsed
  have fits :=
    Node.fits_flattenAll _ (Program.hasAt_self _) (fun _ _ => List.not_mem_nil)
      distinct (Node.withinAll_of_ofTokens parsed options.compactWhitespace)
      position instruction found
  rwa [Nat.zero_add] at fits

end

end TemplateEngine
