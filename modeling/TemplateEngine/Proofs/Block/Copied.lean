import TemplateEngine.Context
import TemplateEngine.Proofs.Block.Numbered

/-!
# Copies of a context

A context and its copies have the counters of their blocks in common.  Whatever
a host does to a copy, all that the context shows stays the same, except the
number of rows: a row of the context counts the rows that its block has in the
copy.
-/

namespace TemplateEngine

/-- What a host does to a context, with values that the context holds on its
own. -/
inductive Context.Change
  | set (name : String) (value : Value)
  | constant (name : String) (value : Value)
  | block (path : String) (row : List (String × Value))

namespace Context

/-- A row that cannot be appended changes nothing. -/
def Change.apply : Change → Context × Heap → Context × Heap
  | set name value, (context, heap) => (context.set name value, heap)
  | constant name value, (context, heap) => (context.constant name value, heap)
  | block path row, (context, heap) =>
    match context.openBlock heap path
      (Table.ofEntries (row.map fun (name, value) => (name, .owned value))) with
    | .error _ => (context, heap)
    | .ok (context, heap, _) => (context, heap)

/-- Makes changes one after the other. -/
def applyAll (changes : List Change) (start : Context × Heap) :
    Context × Heap :=
  changes.foldl (fun reached change => change.apply reached) start

end Context

namespace Blocks

/-- Whether each block of a tree is found in another one at the same address,
with the same counter and no less rows. -/
def GrowsTo (blocks after : Blocks) : Prop :=
  ∀ name around block, blockAt? name around blocks = some block →
    ∃ grown, blockAt? name around after = some grown ∧
      grown.counter = block.counter ∧ block.rows.length ≤ grown.rows.length

theorem GrowsTo.refl (blocks : Blocks) : GrowsTo blocks blocks :=
  fun _ _ block found => ⟨block, found, rfl, Nat.le_refl _⟩

theorem GrowsTo.trans {blocks between after : Blocks}
    (first : GrowsTo blocks between) (second : GrowsTo between after) :
    GrowsTo blocks after := by
  intro name around block found
  obtain ⟨half, found, counter, length⟩ := first name around block found
  obtain ⟨grown, found, further, more⟩ := second name around half found
  exact ⟨grown, found, further.trans counter, Nat.le_trans length more⟩

theorem Appended.growsTo {vars : Table Binding} {heap now : Heap}
    {name : String} {around : List (String × Nat)} {blocks after : Blocks}
    (appended : Appended vars heap name around blocks after now) :
    GrowsTo blocks after := by
  intro other elsewhere block found
  by_cases same : (elsewhere, other) = (around, name)
  · cases same
    have grown := appended.grown
    rw [found] at grown
    refine ⟨_, grown, rfl, ?_⟩
    rw [Block.length_append]
    exact Nat.le_succ _
  · have others := appended.others other elsewhere same
    rw [found, Option.map_some] at others
    obtain ⟨grown, there, bare⟩ := Option.map_eq_some_iff.mp others
    have length : grown.rows.length = block.rows.length := by
      rw [← Block.length_rows_bare grown, bare, Block.length_rows_bare]
    exact ⟨grown, there, Block.counter_eq_of_bare bare,
      Nat.le_of_eq length.symm⟩

end Blocks

namespace Context

open Blocks

/-- What changes to a context keep. -/
structure Continues (start reached : Context × Heap) : Prop where
  cells : reached.2.cells = start.2.cells
  growsTo : start.1.blocks.GrowsTo reached.1.blocks
  tracked : start.1.blocks.Tracked start.2 → reached.1.blocks.Tracked reached.2

theorem Continues.trans {start between reached : Context × Heap}
    (first : Continues start between) (second : Continues between reached) :
    Continues start reached where
  cells := second.cells.trans first.cells
  growsTo := first.growsTo.trans second.growsTo
  tracked := second.tracked ∘ first.tracked

theorem Continues.of_blocks_eq (context changed : Context) (heap : Heap)
    (same : changed.blocks = context.blocks) :
    Continues (context, heap) (changed, heap) where
  cells := rfl
  growsTo := by rw [same]; exact GrowsTo.refl _
  tracked tracked := by rwa [same]

theorem continues_openBlock {context after : Context} {heap now : Heap}
    {path : String} {vars : Table Binding} {handle : RowHandle}
    (opened : context.openBlock heap path vars = .ok (after, now, handle)) :
    Continues (context, heap) (after, now) := by
  rw [openBlock] at opened
  cases inner : context.blocks.openBlock heap path vars with
  | error error =>
      rw [inner] at opened
      cases opened
  | ok result =>
      rw [inner] at opened
      cases opened
      obtain ⟨around, name, -, named, -, -, appended⟩ :=
        exists_appended_of_openBlock inner
      exact ⟨appended.cells, appended.growsTo,
        fun tracked => appended.tracked tracked named⟩

theorem Change.continues_apply (change : Change) (start : Context × Heap) :
    Continues start (change.apply start) := by
  obtain ⟨context, heap⟩ := start
  cases change with
  | set name value =>
      exact .of_blocks_eq context (context.set name value) heap rfl
  | constant name value =>
      exact .of_blocks_eq context (context.constant name value) heap rfl
  | block path row =>
      rw [apply]
      split
      next => exact .of_blocks_eq context context heap rfl
      next opened => exact continues_openBlock opened

theorem continues_applyAll (changes : List Change) (start : Context × Heap) :
    Continues start (applyAll changes start) := by
  induction changes generalizing start with
  | nil => exact .of_blocks_eq start.1 start.1 start.2 rfl
  | cons change changes induction =>
      exact (change.continues_apply start).trans (induction _)

/-! ## What the context shows -/

section

variable {heap now : Heap} (same : now.cells = heap.cells)

include same

theorem get_binding_of_cells : Binding.get now = Binding.get heap := by
  funext binding
  cases binding <;> simp [Binding.get, Heap.cell, same]

/-- The number of rows is the only field of a row that depends on counters. -/
theorem get?_row_of_cells (row : Row) {field : String}
    (large : field ≠ "SIZE_OF") (small : field ≠ "size") :
    row.get? now field = row.get? heap field := by
  simp [Row.get?, large, small, get_binding_of_cells same]

end

/-- Whatever is done to a copy of a context, the context shows the same
variables and, apart from the number of rows, the same fields of all rows.  A
row counted the rows of its block when the context was copied.  Then it counts
those that the block has in the copy. -/
theorem shown_of_copy_changed (heap : Heap) (before after : List Change) :
    let (context, earlier) := applyAll before ({}, heap)
    let (copy, now) := applyAll after (context, earlier)
    (∀ name, context.get now name = context.get earlier name) ∧
    ∀ name around block, blockAt? name around context.blocks = some block →
      (∀ row ∈ block.rows, ∀ field, field ≠ "SIZE_OF" → field ≠ "size" →
        row.get? now field = row.get? earlier field) ∧
      ∃ copied, blockAt? name around copy.blocks = some copied ∧
        block.rows.length ≤ copied.rows.length ∧
        ∀ row ∈ block.rows, row.count.get earlier = block.rows.length ∧
          row.count.get now = copied.rows.length := by
  have built := continues_applyAll before ({}, heap)
  have tracked := built.tracked (tracked_nil heap)
  generalize applyAll before ({}, heap) = start at tracked
  obtain ⟨context, earlier⟩ := start
  have changed := continues_applyAll after (context, earlier)
  have tracked_copy := changed.tracked tracked
  dsimp only at tracked ⊢
  generalize applyAll after (context, earlier) = reached at changed tracked_copy
  obtain ⟨copy, now⟩ := reached
  refine ⟨fun name => ?_, fun name around block found => ⟨?_, ?_⟩⟩
  · rw [get, get, get_binding_of_cells changed.cells]
  · exact fun row _ field large small =>
      get?_row_of_cells changed.cells row large small
  · obtain ⟨copied, there, counter, length⟩ :=
      changed.growsTo name around block found
    refine ⟨copied, there, length, fun row inside => ?_⟩
    obtain ⟨index, bound, rfl⟩ := List.getElem_of_mem inside
    have count :=
      ((tracked.kept found).marked index _
        (List.getElem?_eq_getElem bound)).2.2.2
    rw [count]
    exact ⟨(tracked.kept found).shows,
      counter ▸ (tracked_copy.kept there).shows⟩

/-- The one row of a block counts two rows after another row was appended to the
block of a copy. -/
theorem shown_of_copy_changed_row :
    let start := applyAll [.block "a" [("N", .int 1)]] ({}, {})
    let reached := applyAll [.block "a" [("N", .int 2)]] start
    ∃ block, blockAt? "a" [] start.1.blocks = some block ∧
      block.rows.length = 1 ∧
      ∀ row ∈ block.rows,
        row.count.get start.2 = 1 ∧ row.count.get reached.2 = 2 := by
  intro start reached
  have rows :
      (blockAt? "a" [] start.1.blocks).map (·.rows.length) = some 1 := by
    decide +kernel
  have rows_copy :
      (blockAt? "a" [] reached.1.blocks).map (·.rows.length) = some 2 := by
    decide +kernel
  obtain ⟨block, found, length⟩ := Option.map_eq_some_iff.mp rows
  obtain ⟨-, copied, there, -, counts⟩ :=
    (shown_of_copy_changed {} [.block "a" [("N", .int 1)]]
      [.block "a" [("N", .int 2)]]).2 "a" [] block found
  have length_copy : copied.rows.length = 2 := by
    rw [show blockAt? "a" [] reached.1.blocks = some copied from there]
      at rows_copy
    exact Option.some.inj rows_copy
  exact ⟨block, found, length, fun row inside => by
    rw [← length, ← length_copy]
    exact counts row inside⟩

end Context
end TemplateEngine
