import TemplateEngine.Proofs.Block.Addressed

/-!
# Opening a row

A row is appended to the block that a path leads to through last rows.  This is
possible just if all blocks on the way have rows.  The block grows by the row,
and every other block of the tree has the same rows as before, apart from the
blocks inside them.
-/

namespace TemplateEngine.Blocks

/-- The block that a row is appended to: one without rows and with a counter of
its own if there is none yet. -/
def room (heap : Heap) : Option Block → Block × Heap
  | some block => (block, heap)
  | none => (⟨[], heap.counters.length⟩, heap.newCounter)

/-- Whether a tree comes from another one by appending a row to the block at an
address. -/
structure Appended (vars : Table Binding) (heap : Heap) (name : String)
    (around : List (String × Nat)) (blocks after : Blocks) (now : Heap) :
    Prop where
  grown : blockAt? name around after =
    some ((room heap (blockAt? name around blocks)).1.append vars
      (room heap (blockAt? name around blocks)).2).1
  heap : now = ((room heap (blockAt? name around blocks)).1.append vars
      (room heap (blockAt? name around blocks)).2).2
  others : ∀ other elsewhere, (elsewhere, other) ≠ (around, name) →
    (blockAt? other elsewhere after).map Block.bare =
      (blockAt? other elsewhere blocks).map Block.bare

section

variable {vars : Table Binding} {heap : Heap}

theorem appendTo_eq (name : String) (vars : Table Binding) (heap : Heap)
    (blocks : Blocks) : appendTo name vars heap blocks =
      let (block, room) := room heap (Table.get? blocks name)
      (Table.insert blocks name (block.append vars room).1,
        (block.append vars room).2, block.rows.length) := by
  rw [appendTo]
  cases Table.get? blocks name <;> rfl

/-! ## One block -/

/-- The row that is appended has no blocks in it, and those in the other rows
stay. -/
theorem below_append (vars : Table Binding) (heap : Heap) (block : Block)
    (index : Nat) (name : String) (around : List (String × Nat)) :
    ((block.append vars heap).1.rows[index]?.bind fun row =>
        blockAt? name around row.children) =
      block.rows[index]?.bind fun row => blockAt? name around row.children := by
  simp only [Block.append, List.getElem?_append, Row.length_markFollowed,
    Row.getElem?_markFollowed]
  split
  next =>
    cases block.rows[index]? with
    | none => rfl
    | some row =>
        simp only [Option.map_some, Option.bind_some]
        split <;> rfl
  next outside =>
    rw [List.getElem?_eq_none (Nat.le_of_not_lt outside),
      List.getElem?_singleton]
    split <;> simp

/-- A row that is appended to a block outside of all rows changes this block
only. -/
theorem appended_nil (vars : Table Binding) (heap : Heap) (name : String)
    (blocks : Blocks) :
    Appended vars heap name [] blocks (appendTo name vars heap blocks).1
      (appendTo name vars heap blocks).2.1 := by
  rw [appendTo_eq]
  refine ⟨?_, rfl, ?_⟩
  · rw [blockAt?_insert_nil, if_pos rfl]
    rfl
  · intro other elsewhere apart
    cases elsewhere with
    | nil =>
        have different : other ≠ name := fun same => apart (by rw [same])
        rw [blockAt?_insert_nil, if_neg different]
    | cons step elsewhere =>
        obtain ⟨outer, index⟩ := step
        rw [blockAt?_insert_cons]
        by_cases same : outer = name
        · rw [if_pos same, below_append, same, blockAt?_cons]
          cases Table.get? blocks name with
          | none => rfl
          | some block => rfl
        · rw [if_neg same]

/-! ## A block on the way -/

section

variable {block : Block} {row : Row} (current : block.current? = some row)
  (children : Blocks)

include current

theorem bare_replaceChildren :
    (replaceChildren block row children).bare = block.bare := by
  obtain ⟨before, rows⟩ := Block.exists_rows_eq_of_current? current
  simp [replaceChildren, Block.bare, Row.bare, rows]

/-- Only the last row gets other blocks. -/
theorem getElem?_replaceChildren (index : Nat) :
    (replaceChildren block row children).rows[index]? =
      if index = block.rows.length - 1 then some { row with children }
      else block.rows[index]? := by
  obtain ⟨before, rows⟩ := Block.exists_rows_eq_of_current? current
  simp only [replaceChildren, rows, List.dropLast_concat, List.length_append,
    List.length_singleton, Nat.add_sub_cancel, List.getElem?_append,
    List.getElem?_singleton]
  split <;> split <;> first
    | rfl
    | omega
    | (split <;> first | rfl | omega)

theorem getElem?_last : block.rows[block.rows.length - 1]? = some row := by
  rw [← current, Block.current?, List.getLast?_eq_getElem?]

/-- What is appended inside the last row of a block is appended inside the
tree. -/
theorem Appended.inside {blocks : Blocks} {outer name : String}
    {around : List (String × Nat)} {children : Blocks} {now : Heap}
    (found : Table.get? blocks outer = some block)
    (appended : Appended vars heap name around row.children children now) :
    Appended vars heap name ((outer, block.rows.length - 1) :: around) blocks
      (Table.insert blocks outer (replaceChildren block row children)) now := by
  have before :
      blockAt? name ((outer, block.rows.length - 1) :: around) blocks =
        blockAt? name around row.children := by
    rw [blockAt?_cons, found, Option.bind_some, getElem?_last current,
      Option.bind_some]
  refine ⟨?_, ?_, ?_⟩
  · rw [before, blockAt?_insert_cons, if_pos rfl,
      getElem?_replaceChildren current, if_pos rfl]
    exact appended.grown
  · rw [before]
    exact appended.heap
  · intro other elsewhere apart
    cases elsewhere with
    | nil =>
        rw [blockAt?_insert_nil]
        by_cases same : other = outer
        · rw [if_pos same, same, blockAt?, found, Option.map_some,
            Option.map_some, bare_replaceChildren current]
        · rw [if_neg same]
    | cons step elsewhere =>
        obtain ⟨first, index⟩ := step
        rw [blockAt?_insert_cons]
        by_cases same : first = outer
        · rw [if_pos same, getElem?_replaceChildren current, same,
            blockAt?_cons, found, Option.bind_some]
          by_cases last : index = block.rows.length - 1
          · rw [if_pos last, last, getElem?_last current, Option.bind_some,
              Option.bind_some]
            apply appended.others
            rintro ⟨rfl, rfl⟩
            exact apart (by rw [same, last])
          · rw [if_neg last]
        · rw [if_neg same]

end

/-! ## A whole path -/

/-- A row that is opened is appended to the block at the end of the last rows of
the path. -/
theorem exists_appended_of_openAt? {names : List String} {blocks after : Blocks}
    {now : Heap} {handle : List (String × Nat)}
    (opened : openAt? vars heap names blocks = some (after, now, handle)) :
    ∃ around name, names = around.map Prod.fst ++ [name] ∧
      currentAt? (around.map Prod.fst) blocks = some around ∧
      handle =
        around ++
          [(name, (room heap (blockAt? name around blocks)).1.rows.length)] ∧
      Appended vars heap name around blocks after now := by
  induction names generalizing blocks after handle with
  | nil => cases opened
  | cons first names induction =>
      cases names with
      | nil =>
          obtain ⟨rfl, rfl, rfl⟩ : (appendTo first vars heap blocks).1 = after ∧
              (appendTo first vars heap blocks).2.1 = now ∧
              [(first, (appendTo first vars heap blocks).2.2)] = handle := by
            simpa only [openAt?, Option.some.injEq, Prod.mk.injEq] using opened
          refine ⟨[], first, rfl, rfl, ?_, appended_nil vars heap first blocks⟩
          rw [appendTo_eq]
          rfl
      | cons next names =>
          rw [openAt?] at opened
          cases found : Table.get? blocks first with
          | none =>
              rw [found] at opened
              cases opened
          | some block =>
              rw [found] at opened
              cases current : block.current? with
              | none =>
                  simp only [current] at opened
                  cases opened
              | some row =>
                  simp only [current] at opened
                  cases inner :
                    openAt? vars heap (next :: names) row.children with
                  | none =>
                      rw [inner] at opened
                      cases opened
                  | some result =>
                      obtain ⟨children, now, steps⟩ := result
                      rw [inner] at opened
                      cases opened
                      obtain ⟨around, name, path, way, rfl, appended⟩ :=
                        induction inner
                      refine ⟨(first, block.rows.length - 1) :: around, name,
                        ?_, ?_, ?_, appended.inside current found⟩
                      · rw [path]
                        rfl
                      · rw [List.map_cons, currentAt?_cons, found,
                          Option.bind_some, current, Option.bind_some, way]
                        rfl
                      · rw [blockAt?_cons, found, Option.bind_some,
                          getElem?_last current]
                        rfl

/-- A row can be opened just if the path is not empty and all its blocks but the
last have rows. -/
theorem isSome_openAt?_iff {names : List String} {blocks : Blocks} :
    (openAt? vars heap names blocks).isSome ↔
      names ≠ [] ∧ (currentAt? names.dropLast blocks).isSome := by
  induction names generalizing blocks with
  | nil => simp [openAt?]
  | cons first names induction =>
      cases names with
      | nil => simp [openAt?, currentAt?]
      | cons next names =>
          rw [openAt?, List.dropLast_cons_of_ne_nil (List.cons_ne_nil _ _),
            currentAt?_cons]
          cases Table.get? blocks first with
          | none => simp
          | some block =>
              cases current : block.current? with
              | none => simp [current]
              | some row =>
                  have below := @induction row.children
                  simp only [ne_eq, reduceCtorEq, not_false_eq_true, true_and]
                    at below
                  simp only [current, Option.bind_some, Option.isSome_map,
                    ← below]
                  cases openAt? vars heap (next :: names) row.children <;> simp

end

/-! ## Opening at a path -/

section

variable {vars : Table Binding} {heap : Heap} {blocks : Blocks} {path : String}

theorem segments_ne_nil (path : String) : segments path ≠ [] := by
  simp [segments]

/-- Opening fails in one way only, which names the whole path. -/
theorem eq_of_openBlock_error {error : BlockError}
    (failed : openBlock blocks heap path vars = .error error) :
    error = .noParentRow path := by
  rw [openBlock] at failed
  split at failed
  next =>
    cases failed
    rfl
  next =>
    split at failed <;> cases failed
    rfl

/-- A row can be opened at a path just if the last name of the path is not empty
and each start of the path before it has a last row. -/
theorem exists_openBlock_iff :
    (∃ result, openBlock blocks heap path vars = .ok result) ↔
      (segments path).getLast? ≠ some "" ∧
        ∀ start, start ≠ [] → start <+: (segments path).dropLast →
          ((block? start blocks).bind Block.current?).isSome := by
  rw [← isSome_currentAt?_iff, openBlock]
  by_cases unnamed : (segments path).getLast? = some ""
  · simp [unnamed]
  · have opens := @isSome_openAt?_iff vars heap (segments path) blocks
    rw [if_neg unnamed]
    simp only [ne_eq, segments_ne_nil path, not_false_eq_true, true_and]
      at opens
    simp only [ne_eq, unnamed, not_false_eq_true, true_and, ← opens]
    cases openAt? vars heap (segments path) blocks <;> simp

theorem exists_appended_of_openBlock {after : Blocks} {now : Heap}
    {handle : RowHandle}
    (opened : openBlock blocks heap path vars = .ok (after, now, handle)) :
    ∃ around name, segments path = around.map Prod.fst ++ [name] ∧ name ≠ "" ∧
      currentAt? (around.map Prod.fst) blocks = some around ∧
      handle.path =
        around ++
          [(name, (room heap (blockAt? name around blocks)).1.rows.length)] ∧
      Appended vars heap name around blocks after now := by
  rw [openBlock] at opened
  split at opened
  next => cases opened
  next named =>
    cases inner : openAt? vars heap (segments path) blocks with
    | none =>
        rw [inner] at opened
        cases opened
    | some result =>
        rw [inner] at opened
        cases opened
        obtain ⟨around, name, same, way, handle, appended⟩ :=
          exists_appended_of_openAt? inner
        refine ⟨around, name, same, ?_, way, handle, appended⟩
        rintro rfl
        exact named (by rw [same, List.getLast?_concat])

end

end TemplateEngine.Blocks
