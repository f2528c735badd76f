import TemplateEngine.Proofs.Block.Resolved

/-!
# Handles of opened rows

The handle of a row holds the indices of the rows around it at the time when it
is opened.  Rows are only ever appended, and what a row holds is never changed
except for the mark of the last row and the blocks in it.  So a handle leads to
its row ever after, whatever rows are opened around, beside or inside it, and no
later row gets the same handle.
-/

namespace TemplateEngine

/-- A row without what changes after it was opened: the mark of the last row and
the blocks in it. -/
def Row.lasting (row : Row) : Row :=
  { row with isLast := false, children := [] }

/-- The lasting part of a row by its variables, its index and the counter of its
block. -/
def Row.opened (vars : Table Binding) (index counter : Nat) : Row where
  vars
  isFirst := index == 0
  isLast := false
  position := index + 1
  count := .counted counter
  children := []

theorem Row.lasting_bare (row : Row) : row.bare.lasting = row.lasting :=
  rfl

theorem Row.lasting_markFollowed (rows : List Row) :
    (markFollowed rows).map lasting = rows.map lasting := by
  apply List.ext_getElem?
  intro index
  rw [List.getElem?_map, List.getElem?_map, getElem?_markFollowed,
    Option.map_map]
  congr 1
  funext row
  rw [Function.comp_apply]
  split <;> rfl

theorem Block.lasting_bare (block : Block) :
    block.bare.rows.map Row.lasting = block.rows.map Row.lasting := by
  simp [bare, Row.lasting_bare, Function.comp_def]

theorem Block.lasting_append (vars : Table Binding) (heap : Heap)
    (block : Block) :
    (block.append vars heap).1.rows.map Row.lasting =
      block.rows.map Row.lasting ++
        [.opened vars block.rows.length block.counter] := by
  rw [append, List.map_append, Row.lasting_markFollowed]
  rfl

namespace Blocks

/-- The lasting parts of the rows of the block at an address, which has no rows
if there is none. -/
def lastingAt (name : String) (around : List (String × Nat)) (blocks : Blocks) :
    List Row :=
  ((blockAt? name around blocks).map fun block =>
    block.rows.map Row.lasting).getD []

/-- Whether all rows of a tree are at the same addresses in another one, where
further rows may follow them. -/
def RetainedIn (blocks after : Blocks) : Prop :=
  ∀ name around, lastingAt name around blocks <+: lastingAt name around after

theorem RetainedIn.refl (blocks : Blocks) : RetainedIn blocks blocks :=
  fun _ _ => List.prefix_refl _

theorem RetainedIn.trans {blocks between after : Blocks}
    (first : RetainedIn blocks between) (second : RetainedIn between after) :
    RetainedIn blocks after :=
  fun name around => (first name around).trans (second name around)

/-! ## Opening a row -/

section

variable {vars : Table Binding} {heap now : Heap} {name : String}
  {around : List (String × Nat)} {blocks after : Blocks}

theorem Appended.lastingAt
    (appended : Appended vars heap name around blocks after now) :
    ∃ counter, lastingAt name around after =
      lastingAt name around blocks ++
        [.opened vars (room heap (blockAt? name around blocks)).1.rows.length
          counter] := by
  rw [Blocks.lastingAt, Blocks.lastingAt, appended.grown, Option.map_some,
    Option.getD_some, Block.lasting_append]
  refine ⟨_, congrArg (· ++ _) ?_⟩
  cases blockAt? name around blocks <;> rfl

theorem Appended.retainedIn
    (appended : Appended vars heap name around blocks after now) :
    RetainedIn blocks after := by
  intro other elsewhere
  by_cases same : (elsewhere, other) = (around, name)
  · cases same
    obtain ⟨counter, grown⟩ := appended.lastingAt
    rw [grown]
    exact List.prefix_append _ _
  · have kept := congrArg (Option.map fun block => block.rows.map Row.lasting)
      (appended.others other elsewhere same)
    simp only [Option.map_map, Function.comp_def, Block.lasting_bare] at kept
    have unchanged :
        Blocks.lastingAt other elsewhere after =
          Blocks.lastingAt other elsewhere blocks := by
      rw [Blocks.lastingAt, Blocks.lastingAt, kept]
    exact unchanged ▸ List.prefix_refl _

end

theorem retainedIn_openAll (calls : List (String × Table Binding))
    (blocks : Blocks) (heap : Heap) :
    RetainedIn blocks (openAll calls blocks heap).1 := by
  induction calls generalizing blocks heap with
  | nil => exact .refl blocks
  | cons call calls induction =>
      obtain ⟨path, vars⟩ := call
      rw [openAll]
      cases opened : blocks.openBlock heap path vars with
      | error error => exact induction blocks heap
      | ok result =>
          obtain ⟨around, name, -, -, -, -, appended⟩ :=
            exists_appended_of_openBlock opened
          exact appended.retainedIn.trans (induction result.1 result.2.1)

/-! ## Rows at a handle -/

theorem getElem?_lastingAt (name : String) (around : List (String × Nat))
    (index : Nat) (blocks : Blocks) :
    (lastingAt name around blocks)[index]? =
      (rowAt? (around ++ [(name, index)]) blocks).map Row.lasting := by
  rw [rowAt?_concat, lastingAt]
  cases blockAt? name around blocks with
  | none => rfl
  | some block => exact List.getElem?_map

/-- A handle that leads to a row ends in the index of the row in its block. -/
theorem exists_path_eq_of_row? {blocks : Blocks} {handle : RowHandle}
    {row : Row} (found : blocks.row? handle = some row) :
    ∃ around name, handle.path = around ++ [(name, handle.index)] := by
  obtain ⟨path⟩ := handle
  cases path using List.reverseRecOn with
  | nil => cases found
  | append_singleton around last =>
      exact ⟨around, last.1, by simp [RowHandle.index]⟩

/-- The row at a handle stays where all rows stay, and so do the rows in it. -/
theorem RetainedIn.exists_row? {blocks after : Blocks}
    (retained : RetainedIn blocks after) {handle : RowHandle} {row : Row}
    (found : blocks.row? handle = some row) :
    ∃ grown, after.row? handle = some grown ∧ grown.lasting = row.lasting ∧
      RetainedIn row.children grown.children := by
  obtain ⟨around, name, path⟩ := exists_path_eq_of_row? found
  rw [row?, path] at found
  obtain ⟨more, same⟩ := retained name around
  have there :
      (lastingAt name around after)[handle.index]? = some row.lasting := by
    have before :
        (lastingAt name around blocks)[handle.index]? = some row.lasting := by
      rw [getElem?_lastingAt, found, Option.map_some]
    rw [← same,
      List.getElem?_append_left (List.getElem?_eq_some_iff.mp before).1, before]
  rw [getElem?_lastingAt] at there
  obtain ⟨grown, there, lasting⟩ := Option.map_eq_some_iff.mp there
  refine ⟨grown, by rw [row?, path, there], lasting, fun inner below => ?_⟩
  have further := retained inner (around ++ (name, handle.index) :: below)
  rwa [lastingAt, lastingAt, blockAt?_append_cons found,
    blockAt?_append_cons there] at further

/-- No two handles lead to rows with the same counter and the same position. -/
theorem Tracked.eq_of_row? {heap : Heap} {blocks : Blocks}
    (tracked : Tracked heap blocks) {first second : RowHandle}
    {row beside : Row} (found : blocks.row? first = some row)
    (foundToo : blocks.row? second = some beside)
    (same : (row.count, row.position) = (beside.count, beside.position)) :
    first = second := by
  -- The address of a row is told by what the row itself holds.
  have located {handle : RowHandle} {row : Row}
      (found : blocks.row? handle = some row) :
      ∃ around name block, handle.path = around ++ [(name, row.position - 1)] ∧
        blockAt? name around blocks = some block ∧
        row.count = .counted block.counter := by
    obtain ⟨around, name, path⟩ := exists_path_eq_of_row? found
    rw [row?, path, rowAt?_concat] at found
    obtain ⟨block, there, inside⟩ := Option.bind_eq_some_iff.mp found
    obtain ⟨position, -, -, count⟩ := (tracked.kept there).marked _ _ inside
    exact ⟨around, name, block, by rw [path, position, Nat.add_sub_cancel],
      there, count⟩
  obtain ⟨around, name, block, path, there, count⟩ := located found
  obtain ⟨elsewhere, other, neighbour, pathToo, thereToo, countToo⟩ :=
    located foundToo
  obtain ⟨sameCount, samePosition⟩ := Prod.mk.inj same
  rw [count, countToo] at sameCount
  obtain ⟨rfl, rfl⟩ :=
    Prod.mk.inj (tracked.apart there thereToo (RowCount.counted.inj sameCount))
  obtain ⟨firstPath⟩ := first
  obtain ⟨secondPath⟩ := second
  rw [RowHandle.mk.injEq]
  exact path.trans (samePosition ▸ pathToo.symm)

/-! ## A sequence of calls -/

/-- The tree and the heap after the first calls of a sequence. -/
def openFirst (heap : Heap) (calls : List (String × Table Binding))
    (count : Nat) : Blocks × Heap :=
  openAll (calls.take count) [] heap

/-- Whether the call at a place of a sequence opens a row, and the handle that
it returns. -/
def OpensAt (heap : Heap) (calls : List (String × Table Binding)) (place : Nat)
    (path : String) (vars : Table Binding) (handle : RowHandle) : Prop :=
  calls[place]? = some (path, vars) ∧
    ∃ after now,
      (openFirst heap calls place).1.openBlock (openFirst heap calls place).2
          path vars =
        .ok (after, now, handle)

section

variable {heap : Heap} {calls : List (String × Table Binding)} {place : Nat}
  {path : String} {vars : Table Binding} {handle : RowHandle}

theorem tracked_openFirst (heap : Heap) (calls : List (String × Table Binding))
    (count : Nat) :
    Tracked (openFirst heap calls count).2 (openFirst heap calls count).1 :=
  (tracked_nil heap).openAll _

theorem retainedIn_openFirst (heap : Heap)
    (calls : List (String × Table Binding)) {earlier later : Nat}
    (before : earlier ≤ later) :
    RetainedIn (openFirst heap calls earlier).1
      (openFirst heap calls later).1 := by
  have start : (calls.take later).take earlier = calls.take earlier := by
    rw [List.take_take, Nat.min_eq_left before]
  rw [openFirst, openFirst, ← List.take_append_drop earlier (calls.take later),
    start, openAll_append]
  exact retainedIn_openAll _ _ _

theorem OpensAt.openFirst_succ
    (opens : OpensAt heap calls place path vars handle) :
    ∃ after now, openFirst heap calls (place + 1) = (after, now) ∧
      (openFirst heap calls place).1.openBlock (openFirst heap calls place).2
          path vars =
        .ok (after, now, handle) := by
  obtain ⟨call, after, now, opened⟩ := opens
  refine ⟨after, now, ?_, opened⟩
  rw [openFirst] at opened
  rw [openFirst, List.take_add_one, call, Option.toList_some, openAll_append,
    openAll, opened]
  rfl

/-- Right after a call has opened a row, its handle leads to this row.  It led
to none before. -/
theorem OpensAt.row? (opens : OpensAt heap calls place path vars handle) :
    handle.pathText = path ∧ (openFirst heap calls place).1.row? handle = none ∧
      ∃ row counter,
        (openFirst heap calls (place + 1)).1.row? handle = some row ∧
          row.lasting = .opened vars handle.index counter := by
  obtain ⟨after, now, reached, opened⟩ := opens.openFirst_succ
  generalize (openFirst heap calls place).1 = blocks at opened
  generalize (openFirst heap calls place).2 = before at opened
  obtain ⟨around, name, names, -, -, address, appended⟩ :=
    exists_appended_of_openBlock opened
  obtain ⟨counter, grown⟩ := appended.lastingAt
  have index :
      handle.index =
        (room before (blockAt? name around blocks)).1.rows.length := by
    simp [RowHandle.index, address]
  have length : (lastingAt name around blocks).length = handle.index := by
    rw [index, lastingAt]
    cases blockAt? name around blocks with
    | none => rfl
    | some block => exact List.length_map _
  rw [← index] at address grown
  refine ⟨pathText_eq (by rw [address, names]; simp), ?_, ?_⟩
  · have none : (lastingAt name around blocks)[handle.index]? = none :=
      List.getElem?_eq_none (Nat.le_of_eq length)
    rwa [getElem?_lastingAt, Option.map_eq_none_iff, ← address] at none
  · have there : (lastingAt name around after)[handle.index]? =
        some (.opened vars handle.index counter) := by
      rw [grown, List.getElem?_append_right (Nat.le_of_eq length), length,
        Nat.sub_self]
      rfl
    rw [getElem?_lastingAt, ← address] at there
    obtain ⟨row, found, lasting⟩ := Option.map_eq_some_iff.mp there
    exact ⟨row, counter, by rw [reached]; exact found, lasting⟩

/-- No later call returns the same handle. -/
theorem OpensAt.ne_of_lt (opens : OpensAt heap calls place path vars handle)
    {other : Nat} {otherPath : String} {otherVars : Table Binding}
    {second : RowHandle}
    (opensToo : OpensAt heap calls other otherPath otherVars second)
    (before : place < other) : second ≠ handle := by
  rintro rfl
  obtain ⟨-, -, row, counter, found, -⟩ := opens.row?
  obtain ⟨grown, there, -⟩ :=
    (retainedIn_openFirst heap calls before).exists_row? found
  rw [opensToo.row?.2.1] at there
  cases there

/-- The handle that a call returns leads to the row that it opened, at every
later point of the sequence of calls: the row has the variables of the call, it
is still in its place, and the blocks in it have got at most further rows.  The
calls that open rows return different handles, which lead to different rows. -/
theorem row?_retained (opens : OpensAt heap calls place path vars handle) :
    handle.pathText = path ∧
      (∀ earlier later, place < earlier → earlier ≤ later →
        ∃ row grown, (openFirst heap calls earlier).1.row? handle = some row ∧
          (openFirst heap calls later).1.row? handle = some grown ∧
          row.vars = vars ∧ grown.vars = vars ∧
          row.position = handle.index + 1 ∧ grown.position = handle.index + 1 ∧
          (row.isFirst ↔ handle.index = 0) ∧
          (grown.isFirst ↔ handle.index = 0) ∧
          RetainedIn row.children grown.children) ∧
      ∀ other otherPath otherVars second,
        OpensAt heap calls other otherPath otherVars second → other ≠ place →
          second ≠ handle ∧
            ∀ later row beside,
              (openFirst heap calls later).1.row? handle = some row →
                (openFirst heap calls later).1.row? second = some beside →
                (row.count, row.position) ≠
                  (beside.count, beside.position) := by
  obtain ⟨text, -, opened, counter, found, lasting⟩ := opens.row?
  refine ⟨text, fun earlier later after further => ?_, ?_⟩
  · obtain ⟨row, there, same, -⟩ :=
      (retainedIn_openFirst heap calls after).exists_row? found
    obtain ⟨grown, thereLater, sameLater, retained⟩ :=
      (retainedIn_openFirst heap calls further).exists_row? there
    have known {row : Row}
        (same : row.lasting = .opened vars handle.index counter) :
        row.vars = vars ∧ row.position = handle.index + 1 ∧
          (row.isFirst ↔ handle.index = 0) := by
      obtain ⟨rfl, first, -, position, -, -⟩ := Row.mk.inj same
      exact ⟨rfl, position, by simp [first]⟩
    obtain ⟨rowVars, rowPosition, rowFirst⟩ := known (same.trans lasting)
    obtain ⟨grownVars, grownPosition, grownFirst⟩ :=
      known (sameLater.trans (same.trans lasting))
    exact ⟨row, grown, there, thereLater, rowVars, grownVars, rowPosition,
      grownPosition, rowFirst, grownFirst, retained⟩
  · intro other otherPath otherVars second opensToo apart
    have different : second ≠ handle := by
      rcases Nat.lt_or_gt_of_ne apart with before | after
      · exact (opensToo.ne_of_lt opens before).symm
      · exact opens.ne_of_lt opensToo after
    refine ⟨different, fun later row beside there thereToo same => different ?_⟩
    exact
      ((tracked_openFirst heap calls later).eq_of_row? there thereToo same).symm

/-- The comment of the first of two posts is found by its handle although the
last post has a comment of its own, which is found by another one. -/
theorem row?_retained_comment :
    let calls : List (String × Table Binding) :=
      [("posts", []), ("posts.comments", [("TEXT", .owned (.text "first"))]),
        ("posts", []), ("posts.comments", [("TEXT", .owned (.text "second"))]),
        ("posts.comments", [])]
    OpensAt {} calls 1 "posts.comments" [("TEXT", .owned (.text "first"))]
        ⟨[("posts", 0), ("comments", 0)]⟩ ∧
      (∃ row,
        (openFirst {} calls 5).1.row? ⟨[("posts", 0), ("comments", 0)]⟩ =
            some row ∧
          row.vars = [("TEXT", .owned (.text "first"))] ∧ row.position = 1) ∧
      OpensAt {} calls 3 "posts.comments" [("TEXT", .owned (.text "second"))]
        ⟨[("posts", 1), ("comments", 0)]⟩ ∧
      (⟨[("posts", 1), ("comments", 0)]⟩ : RowHandle) ≠
        ⟨[("posts", 0), ("comments", 0)]⟩ := by
  intro calls
  have opens :
      OpensAt {} calls 1 "posts.comments" [("TEXT", .owned (.text "first"))]
        ⟨[("posts", 0), ("comments", 0)]⟩ := ⟨rfl, _, _, rfl⟩
  have opensToo :
      OpensAt {} calls 3 "posts.comments" [("TEXT", .owned (.text "second"))]
        ⟨[("posts", 1), ("comments", 0)]⟩ := ⟨rfl, _, _, rfl⟩
  obtain ⟨-, stays, differ⟩ := row?_retained opens
  obtain ⟨row, -, found, -, vars, -, position, -⟩ :=
    stays 5 5 (by decide) (by decide)
  exact ⟨opens, ⟨row, found, vars, position⟩, opensToo,
    (differ _ _ _ _ opensToo (by decide)).1⟩

end

end Blocks
end TemplateEngine
