import TemplateEngine.Block.Basic

/-!
# Addresses in the block tree

A block is found by the address of the row around it, which gives a name and a
row index for each block on the way, and by its own name.  A path without
indices leads to a block through the last rows of the blocks around it.
-/

namespace TemplateEngine

/-- A row without the blocks in it. -/
def Row.bare (row : Row) : Row :=
  { row with children := [] }

/-- A block without the blocks in its rows. -/
def Block.bare (block : Block) : Block :=
  { block with rows := block.rows.map Row.bare }

@[simp] theorem Block.counter_bare (block : Block) :
    block.bare.counter = block.counter :=
  rfl

@[simp] theorem Block.length_rows_bare (block : Block) :
    block.bare.rows.length = block.rows.length :=
  List.length_map _

@[simp] theorem Block.getElem?_rows_bare (block : Block) (index : Nat) :
    block.bare.rows[index]? = block.rows[index]?.map Row.bare :=
  List.getElem?_map

/-- A block that has a last row ends with it. -/
theorem Block.exists_rows_eq_of_current? {block : Block} {row : Row}
    (current : block.current? = some row) :
    ∃ before, block.rows = before ++ [row] :=
  List.getLast?_eq_some_iff.mp current

/-! ## Marking the last row as followed -/

namespace Row

@[simp] theorem length_markFollowed (rows : List Row) :
    (markFollowed rows).length = rows.length := by
  induction rows using markFollowed.induct with
  | case1 => rfl
  | case2 row => rfl
  | case3 row next rows induction => simp [markFollowed, induction]

@[simp] theorem vars_markFollowed (rows : List Row) :
    (markFollowed rows).map vars = rows.map vars := by
  induction rows using markFollowed.induct with
  | case1 => rfl
  | case2 row => rfl
  | case3 row next rows induction =>
      rw [markFollowed, List.map_cons, induction, ← List.map_cons]

/-- Only the last row is marked. -/
theorem getElem?_markFollowed (rows : List Row) (index : Nat) :
    (markFollowed rows)[index]? = rows[index]?.map fun row =>
      if index + 1 = rows.length then { row with isLast := false }
      else row := by
  induction rows using markFollowed.induct generalizing index with
  | case1 => rfl
  | case2 row => cases index <;> simp [markFollowed]
  | case3 row next rows induction =>
      cases index with
      | zero => simp [markFollowed]
      | succ index => simpa [markFollowed] using induction index

end Row

namespace Blocks

/-- The block with a name in the row at an address, or outside of all rows if
the address is empty. -/
def blockAt? (name : String) :
    (around : List (String × Nat)) → Blocks → Option Block
  | [], blocks => Table.get? blocks name
  | (outer, index) :: around, blocks =>
    ((Table.get? blocks outer).bind (·.rows[index]?)).bind fun row =>
      blockAt? name around row.children

theorem blockAt?_cons (name outer : String) (index : Nat)
    (around : List (String × Nat)) (blocks : Blocks) :
    blockAt? name ((outer, index) :: around) blocks =
      ((Table.get? blocks outer).bind (·.rows[index]?)).bind fun row =>
        blockAt? name around row.children :=
  rfl

/-- There are no blocks where there are none at all. -/
@[simp] theorem blockAt?_nil (name : String) (around : List (String × Nat)) :
    blockAt? name around [] = none := by
  cases around <;> rfl

theorem blockAt?_insert_nil (name other : String) (blocks : Blocks)
    (block : Block) :
    blockAt? other [] (Table.insert blocks name block) =
      if other = name then some block else blockAt? other [] blocks := by
  by_cases same : other = name
  · rw [if_pos same, same]
    exact Table.get?_insert_same blocks name block
  · rw [if_neg same]
    exact Table.get?_insert_other blocks block same

/-- A changed block changes what is found below it and nothing else. -/
theorem blockAt?_insert_cons (name other outer : String) (index : Nat)
    (around : List (String × Nat)) (blocks : Blocks) (block : Block) :
    blockAt? other ((outer, index) :: around) (Table.insert blocks name block) =
      if outer = name then
        block.rows[index]?.bind fun row => blockAt? other around row.children
      else blockAt? other ((outer, index) :: around) blocks := by
  by_cases same : outer = name
  · rw [if_pos same, same, blockAt?_cons, Table.get?_insert_same]
    rfl
  · rw [if_neg same, blockAt?_cons, blockAt?_cons,
      Table.get?_insert_other blocks block same]

/-! ## Paths through last rows -/

theorem currentAt?_cons (name : String) (names : List String)
    (blocks : Blocks) :
    currentAt? (name :: names) blocks =
      (Table.get? blocks name).bind fun block =>
        block.current?.bind fun row =>
          (currentAt? names row.children).map
            ((name, block.rows.length - 1) :: ·) := by
  rw [currentAt?]
  cases Table.get? blocks name with
  | none => rfl
  | some block => cases found : block.current? <;> simp [found]

theorem block?_cons_bind_current? (name : String) (names : List String)
    (blocks : Blocks) :
    (block? (name :: names) blocks).bind Block.current? =
      ((Table.get? blocks name).bind Block.current?).bind fun row =>
        if names = [] then some row
        else (block? names row.children).bind Block.current? := by
  cases names with
  | nil =>
      rw [block?]
      cases (Table.get? blocks name).bind Block.current? <;> rfl
  | cons next names =>
      rw [block?]
      cases Table.get? blocks name with
      | none => rfl
      | some block => cases found : block.current? <;> simp [found]

/-- A path has a last row at its end just if each start of it has one. -/
theorem isSome_currentAt?_iff {names : List String} {blocks : Blocks} :
    (currentAt? names blocks).isSome ↔
      ∀ start, start ≠ [] → start <+: names →
        ((block? start blocks).bind Block.current?).isSome := by
  induction names generalizing blocks with
  | nil =>
      have none : ∀ start : List String, start ≠ [] → start <+: [] →
          ((block? start blocks).bind Block.current?).isSome :=
        fun start some inside => absurd (List.prefix_nil.mp inside) some
      simpa [currentAt?] using none
  | cons name names induction =>
      have starts : (∀ start, start ≠ [] → start <+: name :: names →
            ((block? start blocks).bind Block.current?).isSome) ↔
          ∀ start, start <+: names →
            ((block? (name :: start) blocks).bind Block.current?).isSome := by
        constructor
        · intro each start inside
          exact each (name :: start) (List.cons_ne_nil _ _)
            ((List.prefix_cons_inj name).mpr inside)
        · intro each start some inside
          obtain ⟨first, start, rfl⟩ := List.exists_cons_of_ne_nil some
          obtain ⟨rfl, within⟩ := List.cons_prefix_cons.mp inside
          exact each start within
      rw [starts, currentAt?_cons]
      simp only [block?_cons_bind_current?]
      cases Table.get? blocks name with
      | none => simpa using ⟨[], List.nil_prefix⟩
      | some block =>
          cases found : block.current? with
          | none => simpa [found] using ⟨[], List.nil_prefix⟩
          | some row =>
              simp only [Option.bind_some, found, Option.isSome_map, induction]
              constructor
              · intro each start inside
                by_cases none : start = []
                · simp [none]
                · simpa [none] using each start none inside
              · intro each start some inside
                simpa [some] using each start inside

end Blocks
end TemplateEngine
