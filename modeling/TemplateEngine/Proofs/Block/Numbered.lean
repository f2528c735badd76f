import TemplateEngine.Proofs.Block.Opened

/-!
# The rows of a tree that rows were opened in

Every block of the tree has a name and a row.  Its rows are numbered, the first
and the last of them say so, and all of them count the same number of rows,
whenever they were appended.  The counters carry this: each block has one of its
own, so opening a row changes no other block.
-/

namespace TemplateEngine

/-- A row as the host reads it, apart from the blocks in it. -/
structure Row.Shown where
  vars : Table Binding
  isFirst : Bool
  isLast : Bool
  position : Nat
  count : Nat

def Row.shown (heap : Heap) (row : Row) : Row.Shown :=
  ⟨row.vars, row.isFirst, row.isLast, row.position, row.count.get heap⟩

theorem Row.shown_bare (heap : Heap) (row : Row) :
    row.bare.shown heap = row.shown heap :=
  rfl

namespace Block

/-- The rows of a block as the host reads them. -/
def shown (heap : Heap) (block : Block) : List Row.Shown :=
  block.rows.map (Row.shown heap)

/-- The rows of a block are numbered from 1, the first and the last of them say
so, and all count the rows of the block. -/
structure Numbered (heap : Heap) (block : Block) : Prop where
  filled : block.rows ≠ []
  position : ∀ (index : Nat) (row : Row),
    block.rows[index]? = some row → row.position = index + 1
  isFirst : ∀ (index : Nat) (row : Row),
    block.rows[index]? = some row → (row.isFirst ↔ index = 0)
  isLast : ∀ (index : Nat) (row : Row), block.rows[index]? = some row →
    (row.isLast ↔ index + 1 = block.rows.length)
  count : ∀ (index : Nat) (row : Row), block.rows[index]? = some row →
    row.count.get heap = block.rows.length

/-- The part of the numbering that the rows hold themselves: they share the
counter of the block, whatever it shows. -/
def Marked (block : Block) : Prop :=
  ∀ index row, block.rows[index]? = some row →
    row.position = index + 1 ∧ (row.isFirst ↔ index = 0) ∧
      (row.isLast ↔ index + 1 = block.rows.length) ∧
      row.count = .counted block.counter

/-- What holds of each block of a tree as long as rows are opened in it. -/
structure Kept (heap : Heap) (name : String) (block : Block) : Prop where
  named : name ≠ ""
  filled : block.rows ≠ []
  marked : block.Marked
  shows : heap.counter block.counter = block.rows.length

section

variable {heap : Heap} {name : String} {block other : Block}

theorem shown_bare (heap : Heap) (block : Block) :
    block.bare.shown heap = block.shown heap := by
  simp [shown, bare, Row.shown_bare, Function.comp_def]

theorem marked_nil (counter : Nat) : Marked ⟨[], counter⟩ := by
  simp [Marked]

/-- The numbering does not depend on the blocks in the rows. -/
theorem marked_bare_iff : block.bare.Marked ↔ block.Marked := by
  simp [Marked, Row.bare]

theorem length_append (vars : Table Binding) (heap : Heap) (block : Block) :
    (block.append vars heap).1.rows.length = block.rows.length + 1 := by
  simp [Block.append]

theorem vars_append (vars : Table Binding) (heap : Heap) (block : Block) :
    (block.append vars heap).1.rows.map Row.vars =
      block.rows.map Row.vars ++ [vars] := by
  simp [Block.append]

/-- The row that was last is marked as followed, and the new row is the last
one. -/
theorem Marked.append (marked : block.Marked) (vars : Table Binding)
    (heap : Heap) : (block.append vars heap).1.Marked := by
  intro index row found
  rw [length_append]
  simp only [Block.append, List.getElem?_append, Row.length_markFollowed,
    Row.getElem?_markFollowed] at found
  split at found
  next inside =>
    obtain ⟨old, there, rfl⟩ := Option.map_eq_some_iff.mp found
    obtain ⟨position, first, last, count⟩ := marked index old there
    have followed : index ≠ block.rows.length := Nat.ne_of_lt inside
    split
    next => simpa [followed] using ⟨position, first, count⟩
    next before =>
      simpa [followed]
        using ⟨position, first, by simpa using mt last.mp before, count⟩
  next outside =>
    obtain ⟨place, rfl⟩ : index - block.rows.length = 0 ∧ _ = row := by
      simpa [List.getElem?_singleton] using found
    have place : index = block.rows.length := by omega
    simp [place]
    rfl

theorem Kept.numbered (kept : block.Kept heap name) : block.Numbered heap where
  filled := kept.filled
  position index row found := (kept.marked index row found).1
  isFirst index row found := (kept.marked index row found).2.1
  isLast index row found := (kept.marked index row found).2.2.1
  count index row found := by
    rw [(kept.marked index row found).2.2.2, RowCount.get, kept.shows]

/-- A counter that shows rows is one of the heap. -/
theorem Kept.inside (kept : block.Kept heap name) :
    block.counter < heap.counters.length := by
  apply Nat.lt_of_not_le
  intro outside
  have none : heap.counter block.counter = 0 := by
    rw [Heap.counter, List.getElem?_eq_none outside]
    rfl
  exact kept.filled (List.length_eq_zero_iff.mp (kept.shows.symm.trans none))

/-- What a block shows depends on the heap through its counter only. -/
theorem shown_eq_of_marked {now : Heap} (marked : block.Marked)
    (shows : now.counter block.counter = heap.counter block.counter) :
    block.shown now = block.shown heap := by
  apply List.map_congr_left
  intro row inside
  obtain ⟨index, bound, rfl⟩ := List.getElem_of_mem inside
  have count := (marked index _ (List.getElem?_eq_getElem bound)).2.2.2
  simp only [Row.shown, count, RowCount.get, shows]

theorem counter_eq_of_bare (same : block.bare = other.bare) :
    block.counter = other.counter := by
  rw [← counter_bare, same, counter_bare]

/-- A block that differs in the blocks in its rows only is kept as well, under a
heap whose counter of the block shows the same. -/
theorem Kept.of_bare_eq {now : Heap} (kept : block.Kept heap name)
    (same : block.bare = other.bare)
    (shows : now.counter other.counter = heap.counter other.counter) :
    other.Kept now name := by
  have length : block.rows.length = other.rows.length := by
    rw [← length_rows_bare, same, length_rows_bare]
  refine ⟨kept.named, ?_, ?_, ?_⟩
  · intro none
    exact kept.filled (List.length_eq_zero_iff.mp (by rw [length, none]; rfl))
  · rw [← marked_bare_iff, ← same, marked_bare_iff]
    exact kept.marked
  · rw [shows, ← counter_eq_of_bare same, kept.shows, length]

end

end Block

namespace Blocks

/-- All blocks of a tree are kept, and no two of them have the same counter. -/
structure Tracked (heap : Heap) (blocks : Blocks) : Prop where
  kept : ∀ {name around block},
    blockAt? name around blocks = some block → block.Kept heap name
  apart :
    ∀ {name around block other elsewhere beside},
      blockAt? name around blocks = some block →
        blockAt? other elsewhere blocks = some beside →
        block.counter = beside.counter → (around, name) = (elsewhere, other)

theorem tracked_nil (heap : Heap) : Tracked heap [] where
  kept found := by simp at found
  apart found := by simp at found

/-! ## One row more -/

section

variable {vars : Table Binding} {heap now : Heap} {name : String}
  {around : List (String × Nat)} {blocks after : Blocks}

/-- A new counter shows zero, as does one that there is not. -/
theorem counter_room (heap : Heap) (found : Option Block) (counter : Nat) :
    (room heap found).2.counter counter = heap.counter counter := by
  cases found with
  | some block => rfl
  | none =>
      simp only [room, Heap.counter, Heap.newCounter, List.getElem?_append]
      split
      next => rfl
      next outside =>
        rw [List.getElem?_eq_none (Nat.le_of_not_lt outside),
          List.getElem?_singleton]
        split <;> rfl

/-- Where a row is appended, the rows are marked and the counter is one of the
heap, which no other block has. -/
theorem Tracked.unshared (tracked : Tracked heap blocks) (name : String)
    (around : List (String × Nat)) :
    (room heap (blockAt? name around blocks)).1.Marked ∧
      (room heap (blockAt? name around blocks)).1.counter <
        (room heap (blockAt? name around blocks)).2.counters.length ∧
      ∀ {other elsewhere beside},
        blockAt? other elsewhere blocks = some beside →
          beside.counter = (room heap (blockAt? name around blocks)).1.counter →
          (elsewhere, other) = (around, name) := by
  cases found : blockAt? name around blocks with
  | some block =>
      exact ⟨(tracked.kept found).marked, (tracked.kept found).inside,
        fun there same => tracked.apart there found same⟩
  | none =>
      refine ⟨Block.marked_nil _, by simp [room, Heap.newCounter], ?_⟩
      intro other elsewhere beside there same
      exact absurd (tracked.kept there).inside (by simp [same, Blocks.room])

/-- Apart from the block that the row is appended to, each block was there
before. -/
theorem Appended.exists_before
    (appended : Appended vars heap name around blocks after now)
    {other : String} {elsewhere : List (String × Nat)} {block : Block}
    (found : blockAt? other elsewhere after = some block)
    (apart : (elsewhere, other) ≠ (around, name)) :
    ∃ old,
      blockAt? other elsewhere blocks = some old ∧ old.bare = block.bare := by
  have same := appended.others other elsewhere apart
  rw [found] at same
  exact Option.map_eq_some_iff.mp same.symm

/-- Each block keeps its counter; the only new one is that of a new block. -/
theorem Appended.counter_of_found
    (appended : Appended vars heap name around blocks after now) {block : Block}
    (found : blockAt? name around after = some block) :
    block.counter = (room heap (blockAt? name around blocks)).1.counter := by
  rw [appended.grown] at found
  cases found
  rfl

/-- Appending a row changes one counter, which is that of no other block. -/
theorem Appended.counter_other
    (appended : Appended vars heap name around blocks after now) {counter : Nat}
    (other : counter ≠ (room heap (blockAt? name around blocks)).1.counter) :
    now.counter counter = heap.counter counter := by
  rw [appended.heap, Block.append]
  dsimp only
  rw [Heap.counter_setCounter_other _ _ other, counter_room]

theorem Appended.cells
    (appended : Appended vars heap name around blocks after now) :
    now.cells = heap.cells := by
  rw [appended.heap]
  cases blockAt? name around blocks <;> rfl

theorem Appended.tracked
    (appended : Appended vars heap name around blocks after now)
    (tracked : Tracked heap blocks) (named : name ≠ "") :
    Tracked now after := by
  obtain ⟨marked, inside, unshared⟩ := tracked.unshared name around
  refine ⟨?_, ?_⟩
  · intro other elsewhere block found
    by_cases same : (elsewhere, other) = (around, name)
    · cases same
      have grown := appended.grown
      rw [found, Option.some.injEq] at grown
      subst grown
      refine ⟨named, by simp [Block.append], marked.append vars _, ?_⟩
      rw [appended.heap, Block.length_append]
      exact Heap.counter_setCounter_same _ inside
    · obtain ⟨old, there, bare⟩ := appended.exists_before found same
      refine (tracked.kept there).of_bare_eq bare (appended.counter_other ?_)
      intro shared
      exact same (unshared there ((Block.counter_eq_of_bare bare).trans shared))
  · -- A counter that two blocks share is not that of the block that has grown.
    have only {other elsewhere block}
        (found : blockAt? other elsewhere after = some block)
        (shared :
          block.counter = (room heap (blockAt? name around blocks)).1.counter) :
        (elsewhere, other) = (around, name) := by
      by_cases same : (elsewhere, other) = (around, name)
      · exact same
      obtain ⟨old, there, bare⟩ := appended.exists_before found same
      exact (unshared there ((Block.counter_eq_of_bare bare).trans shared))
    intro first before one second behind two found_one found_two shared
    by_cases grown : (before, first) = (around, name)
    · cases grown
      exact (only found_two (shared ▸ appended.counter_of_found found_one)).symm
    · by_cases grown_too : (behind, second) = (around, name)
      · cases grown_too
        exact only found_one (shared ▸ appended.counter_of_found found_two)
      · obtain ⟨old_one, there_one, bare_one⟩ :=
          appended.exists_before found_one grown
        obtain ⟨old_two, there_two, bare_two⟩ :=
          appended.exists_before found_two grown_too
        exact tracked.apart there_one there_two
          ((Block.counter_eq_of_bare bare_one).trans
            (shared.trans (Block.counter_eq_of_bare bare_two).symm))

/-- Every block but the one that has grown shows what it showed before. -/
theorem Appended.shown_other
    (appended : Appended vars heap name around blocks after now)
    (tracked : Tracked heap blocks) {other : String}
    {elsewhere : List (String × Nat)}
    (apart : (elsewhere, other) ≠ (around, name)) :
    (blockAt? other elsewhere after).map (Block.shown now) =
      (blockAt? other elsewhere blocks).map (Block.shown heap) := by
  have same := appended.others other elsewhere apart
  cases there : blockAt? other elsewhere blocks with
  | none => simpa [there] using same
  | some old =>
      obtain ⟨block, found, bare⟩ :
          ∃ block, blockAt? other elsewhere after = some block ∧
            block.bare = old.bare := by simpa [there] using same
      have counter : now.counter old.counter = heap.counter old.counter :=
        appended.counter_other fun shared =>
          apart ((tracked.unshared name around).2.2 there shared)
      rw [found, Option.map_some, Option.map_some, ← Block.shown_bare, bare,
        Block.shown_bare,
        Block.shown_eq_of_marked (tracked.kept there).marked counter]

end

/-! ## Opening one row after the other -/

/-- Opens rows at paths, one after the other.  Where this fails, nothing
changes. -/
def openAll : List (String × Table Binding) → Blocks → Heap → Blocks × Heap
  | [], blocks, heap => (blocks, heap)
  | (path, vars) :: calls, blocks, heap =>
    match openBlock blocks heap path vars with
    | .error _ => openAll calls blocks heap
    | .ok (after, now, _) => openAll calls after now

section

variable {blocks : Blocks} {heap : Heap}

theorem openAll_append (calls more : List (String × Table Binding))
    (blocks : Blocks) (heap : Heap) :
    openAll (calls ++ more) blocks heap =
      openAll more (openAll calls blocks heap).1
        (openAll calls blocks heap).2 := by
  induction calls generalizing blocks heap with
  | nil => rfl
  | cons call calls induction =>
      obtain ⟨path, vars⟩ := call
      rw [List.cons_append, openAll, openAll]
      cases openBlock blocks heap path vars with
      | error error => exact induction blocks heap
      | ok result => exact induction result.1 result.2.1

theorem Tracked.openBlock (tracked : Tracked heap blocks) {path : String}
    {vars : Table Binding} {after : Blocks} {now : Heap} {handle : RowHandle}
    (opened : blocks.openBlock heap path vars = .ok (after, now, handle)) :
    Tracked now after := by
  obtain ⟨around, name, -, named, -, -, appended⟩ :=
    exists_appended_of_openBlock opened
  exact appended.tracked tracked named

/-- Opening rows one after the other keeps all blocks. -/
theorem Tracked.openAll (tracked : Tracked heap blocks)
    (calls : List (String × Table Binding)) :
    Tracked (openAll calls blocks heap).2 (openAll calls blocks heap).1 := by
  induction calls generalizing blocks heap with
  | nil => exact tracked
  | cons call calls induction =>
      obtain ⟨path, vars⟩ := call
      rw [Blocks.openAll]
      cases opened : blocks.openBlock heap path vars with
      | error error => exact induction tracked
      | ok result => exact induction (tracked.openBlock opened)

/-- The variables of the rows of the block at an address, which has no rows if
there is none. -/
def varsAt (name : String) (around : List (String × Nat)) (blocks : Blocks) :
    List (Table Binding) :=
  ((blockAt? name around blocks).map fun block => block.rows.map Row.vars).getD
    []

theorem Appended.varsAt {vars : Table Binding} {now : Heap} {name : String}
    {around : List (String × Nat)} {after : Blocks}
    (appended : Appended vars heap name around blocks after now) :
    varsAt name around after = varsAt name around blocks ++ [vars] := by
  rw [Blocks.varsAt, Blocks.varsAt, appended.grown, Option.map_some,
    Option.getD_some, Block.vars_append]
  cases blockAt? name around blocks <;> rfl

/-- However rows were opened in an empty tree, each of its blocks has a name and
a row, and its rows are numbered.  A further row can be opened just if its block
has a name and the blocks around it have last rows.  It is then the one row that
the block inside these last rows gets, and all other blocks show what they
showed before.  Otherwise nothing changes. -/
theorem openAll_numbered (heap : Heap) (calls : List (String × Table Binding)) :
    let (blocks, now) := openAll calls [] heap
    (∀ name around block, blockAt? name around blocks = some block →
      name ≠ "" ∧ block.Numbered now) ∧
    ∀ path vars,
      ((∃ result, blocks.openBlock now path vars = .ok result) ↔
          (segments path).getLast? ≠ some "" ∧
            ∀ start, start ≠ [] → start <+: (segments path).dropLast →
              ((block? start blocks).bind Block.current?).isSome) ∧
        (∀ after later handle,
          blocks.openBlock now path vars = .ok (after, later, handle) →
            openAll (calls ++ [(path, vars)]) [] heap = (after, later) ∧
              later.cells = now.cells ∧
              ∃ around name, segments path = around.map Prod.fst ++ [name] ∧
                currentAt? (around.map Prod.fst) blocks = some around ∧
                varsAt name around after = varsAt name around blocks ++ [vars] ∧
                ∀ other elsewhere, (elsewhere, other) ≠ (around, name) →
                  (blockAt? other elsewhere after).map (Block.shown later) =
                    (blockAt? other elsewhere blocks).map (Block.shown now)) ∧
        ∀ error, blocks.openBlock now path vars = .error error →
          openAll (calls ++ [(path, vars)]) [] heap = (blocks, now) ∧
            error = .noParentRow path := by
  have tracked := (tracked_nil heap).openAll calls
  have further (path : String) (vars : Table Binding) :=
    openAll_append calls [(path, vars)] [] heap
  generalize openAll calls [] heap = reached at tracked further
  obtain ⟨blocks, now⟩ := reached
  refine ⟨fun name around block found => ?_,
    fun path vars => ⟨exists_openBlock_iff, ?_, ?_⟩⟩
  · exact ⟨(tracked.kept found).named, (tracked.kept found).numbered⟩
  · intro after later handle opened
    obtain ⟨around, name, names, -, way, -, appended⟩ :=
      exists_appended_of_openBlock opened
    refine ⟨?_, appended.cells, around, name, names, way, appended.varsAt, ?_⟩
    · rw [further, openAll, opened]
      rfl
    · exact fun other elsewhere apart => appended.shown_other tracked apart
  · intro error failed
    refine ⟨?_, eq_of_openBlock_error failed⟩
    rw [further, openAll, failed]
    rfl

/-- The last of two posts has two comments, which are numbered although the
first post has one, too. -/
theorem openAll_numbered_comments :
    let calls : List (String × Table Binding) :=
      [("posts", []), ("posts.comments", []), ("posts", []),
        ("posts.comments", []), ("posts.comments", []), ("authors.posts", [])]
    (varsAt "comments" [("posts", 1)] (openAll calls [] {}).1).length = 2 ∧
      ∃ block,
        blockAt? "comments" [("posts", 1)] (openAll calls [] {}).1 =
            some block ∧
          block.Numbered (openAll calls [] {}).2 := by
  intro calls
  have found :
      (blockAt? "comments" [("posts", 1)] (openAll calls [] {}).1).isSome := by
    decide +kernel
  obtain ⟨block, there⟩ := Option.isSome_iff_exists.mp found
  exact ⟨by decide +kernel, block, there,
    ((openAll_numbered {} calls).1 "comments" _ block there).2⟩

end

end Blocks
end TemplateEngine
