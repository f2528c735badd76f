import Mathlib.Data.List.Induction
import TemplateEngine.Proofs.Block.Numbered

/-!
# What paths resolve to

Rows are looked up in four ways: a block by the names of a path, the handle of
its last row, a field of this row, and a row by its handle.  In a tree whose
blocks all have rows, they agree on where a path leads.
-/

namespace TemplateEngine

theorem Block.current?_bare (block : Block) :
    block.bare.current? = block.current?.map Row.bare :=
  List.getLast?_map

theorem Block.exists_current? {block : Block} (filled : block.rows ≠ []) :
    ∃ row, block.current? = some row :=
  ⟨block.rows.getLast filled, List.getLast?_eq_some_getLast filled⟩

namespace Blocks

/-- The row with an index in the block at an address. -/
theorem rowAt?_concat (around : List (String × Nat)) (name : String)
    (index : Nat) (blocks : Blocks) :
    rowAt? (around ++ [(name, index)]) blocks =
      (blockAt? name around blocks).bind (·.rows[index]?) := by
  induction around generalizing blocks with
  | nil => rfl
  | cons step around induction =>
      obtain ⟨outer, place⟩ := step
      obtain ⟨next, path, same⟩ :
          ∃ next path, around ++ [(name, index)] = next :: path :=
        List.exists_cons_of_ne_nil (by simp)
      rw [List.cons_append, same, rowAt?, ← same, blockAt?_cons]
      cases (Table.get? blocks outer).bind (·.rows[place]?) with
      | none => rfl
      | some row => exact induction row.children

/-- What is found below a row is found in the blocks of the row. -/
theorem blockAt?_append_cons {around : List (String × Nat)} {name : String}
    {index : Nat} {blocks : Blocks} {row : Row}
    (found : rowAt? (around ++ [(name, index)]) blocks = some row)
    (inner : String) (below : List (String × Nat)) :
    blockAt? inner (around ++ (name, index) :: below) blocks =
      blockAt? inner below row.children := by
  induction around generalizing blocks with
  | nil =>
      have there : (Table.get? blocks name).bind (·.rows[index]?) = some row :=
        found
      rw [List.nil_append, blockAt?_cons, there, Option.bind_some]
  | cons step around induction =>
      obtain ⟨outer, place⟩ := step
      rw [rowAt?_concat, blockAt?_cons] at found
      rw [List.cons_append, blockAt?_cons]
      cases there : (Table.get? blocks outer).bind (·.rows[place]?) with
      | none =>
          rw [there] at found
          cases found
      | some outside =>
          rw [there, Option.bind_some, ← rowAt?_concat] at found
          exact induction found

/-- A path through last rows goes on through the last row of one more block. -/
theorem currentAt?_concat (names : List String) (name : String)
    (blocks : Blocks) :
    currentAt? (names ++ [name]) blocks =
      (currentAt? names blocks).bind fun around =>
        (blockAt? name around blocks).bind fun block =>
          block.current?.map fun _ =>
            around ++ [(name, block.rows.length - 1)] := by
  induction names generalizing blocks with
  | nil =>
      simp only [List.nil_append, currentAt?_cons, currentAt?, Option.bind_some,
        blockAt?, Option.map_some]
      congr 1
      funext block
      cases block.current? <;> rfl
  | cons first names induction =>
      rw [List.cons_append, currentAt?_cons, currentAt?_cons]
      cases there : Table.get? blocks first with
      | none => rfl
      | some block =>
          rw [Option.bind_some, Option.bind_some]
          cases current : block.current? with
          | none => rfl
          | some row =>
              rw [Option.bind_some, Option.bind_some, induction]
              cases currentAt? names row.children with
              | none => rfl
              | some around =>
                  simp only [Option.bind_some, Option.map_some, blockAt?_cons,
                    there, getElem?_last current]
                  cases blockAt? name around row.children with
                  | none => rfl
                  | some inner => cases found : inner.current? <;> simp [found]

/-- A path leads to the block inside the last rows of the blocks before. -/
theorem block?_concat (names : List String) (name : String) (blocks : Blocks) :
    block? (names ++ [name]) blocks =
      (currentAt? names blocks).bind fun around =>
        blockAt? name around blocks := by
  induction names generalizing blocks with
  | nil => rfl
  | cons first names induction =>
      obtain ⟨next, path, same⟩ : ∃ next path, names ++ [name] = next :: path :=
        List.exists_cons_of_ne_nil (by simp)
      rw [List.cons_append, same, block?, ← same, currentAt?_cons]
      cases there : Table.get? blocks first with
      | none => rfl
      | some block =>
          rw [Option.bind_some]
          cases current : block.current? with
          | none => simp [current]
          | some row =>
              simp only [current, Option.bind_some, induction]
              cases currentAt? names row.children with
              | none => rfl
              | some around =>
                  simp only [Option.bind_some, Option.map_some, blockAt?_cons,
                    there, getElem?_last current]

theorem map_fst_currentAt? {names : List String} {blocks : Blocks}
    {around : List (String × Nat)}
    (current : currentAt? names blocks = some around) :
    around.map Prod.fst = names := by
  induction names generalizing blocks around with
  | nil =>
      cases current
      rfl
  | cons name names induction =>
      rw [currentAt?_cons] at current
      obtain ⟨block, -, current⟩ := Option.bind_eq_some_iff.mp current
      obtain ⟨row, -, current⟩ := Option.bind_eq_some_iff.mp current
      obtain ⟨below, inner, rfl⟩ := Option.map_eq_some_iff.mp current
      rw [List.map_cons, induction inner]

theorem pathText_eq {path : String} {handle : RowHandle}
    (same : handle.path.map Prod.fst = segments path) :
    handle.pathText = path := by
  have parts :
      (segments path).map String.toList = List.splitOn '.' path.toList := by
    simp [segments, Function.comp_def]
  calc
    handle.pathText
    _ =
        String.ofList (List.intercalate ['.']
          ((handle.path.map Prod.fst).map String.toList)) := by
      rw [RowHandle.pathText, List.map_map]
      rfl
    _ = path := by
      rw [same, parts, List.intercalate_splitOn, String.ofList_toList]

/-- A row that is appended below leaves the last rows on the way to it where
they are. -/
theorem Appended.currentAt? {vars : Table Binding} {heap now : Heap}
    {name : String} {around start : List (String × Nat)} {blocks after : Blocks}
    (appended : Appended vars heap name around blocks after now)
    (onWay : start <+: around)
    (way : currentAt? (start.map Prod.fst) blocks = some start) :
    currentAt? (start.map Prod.fst) after = some start := by
  induction start using List.reverseRecOn with
  | nil => rfl
  | append_singleton before step induction =>
      obtain ⟨outer, index⟩ := step
      rw [List.map_append, List.map_singleton, currentAt?_concat] at way ⊢
      obtain ⟨found, way, inner⟩ := Option.bind_eq_some_iff.mp way
      obtain ⟨block, there, inner⟩ := Option.bind_eq_some_iff.mp inner
      obtain ⟨row, current, same⟩ := Option.map_eq_some_iff.mp inner
      obtain ⟨rfl, place⟩ := List.append_inj' same rfl
      have apart : (found, outer) ≠ (around, name) := by
        rintro ⟨rfl, rfl⟩
        exact absurd onWay.length_le (by simp)
      have kept := appended.others outer found apart
      rw [there, Option.map_some] at kept
      obtain ⟨grown, there, bare⟩ := Option.map_eq_some_iff.mp kept
      have length : grown.rows.length = block.rows.length := by
        rw [← Block.length_rows_bare grown, bare, Block.length_rows_bare]
      obtain ⟨last, current, -⟩ :
          ∃ last, grown.current? = some last ∧ last.bare = row.bare := by
        rw [← Option.map_eq_some_iff, ← Block.current?_bare, bare,
          Block.current?_bare, current, Option.map_some]
      rw [induction ((List.prefix_append _ _).trans onWay) way,
        Option.bind_some, there, Option.bind_some, current, Option.map_some,
        length, ← place]

theorem currentRow_eq_ok_iff {blocks : Blocks} {path : String}
    {handle : RowHandle} :
    blocks.currentRow path = .ok handle ↔
      currentAt? (segments path) blocks = some handle.path := by
  rw [currentRow]
  cases currentAt? (segments path) blocks with
  | none => simp
  | some found =>
      obtain ⟨path⟩ := handle
      simp

theorem currentRow_eq_error_iff {blocks : Blocks} {path : String}
    {error : BlockError} :
    blocks.currentRow path = .error error ↔
      currentAt? (segments path) blocks = none ∧
        error = .undefined path "" := by
  rw [currentRow]
  cases currentAt? (segments path) blocks <;> simp [eq_comm]

/-- The row that was opened last at a path is the one that the path leads to. -/
theorem currentRow_of_openBlock {vars : Table Binding} {heap now : Heap}
    {blocks after : Blocks} {path : String} {handle : RowHandle}
    (opened : blocks.openBlock heap path vars = .ok (after, now, handle)) :
    after.currentRow path = .ok handle := by
  obtain ⟨around, name, names, -, way, same, appended⟩ :=
    exists_appended_of_openBlock opened
  have grown := appended.grown
  generalize (room heap (blockAt? name around blocks)).1 = block at grown same
  generalize (room heap (blockAt? name around blocks)).2 = heap at grown
  obtain ⟨row, current⟩ :
      ∃ row, (block.append vars heap).1.current? = some row :=
    Block.exists_current? (by simp [Block.append])
  rw [currentRow_eq_ok_iff, names, currentAt?_concat,
    appended.currentAt? (List.prefix_refl _) way, Option.bind_some, grown,
    Option.bind_some, current, Option.map_some, Block.length_append, same,
    Nat.add_sub_cancel]

/-- What a path leads to in a tree whose blocks all have rows: either a block,
the handle of its last row and all that the row shows, or nothing. -/
theorem lookup_cases {heap : Heap} {blocks : Blocks}
    (tracked : Tracked heap blocks) (path : String) :
    (∃ handle block row, blocks.currentRow path = .ok handle ∧
        handle.pathText = path ∧ block? (segments path) blocks = some block ∧
        block.current? = some row ∧ blocks.row? handle = some row) ∨
      (blocks.currentRow path = .error (.undefined path "") ∧
        block? (segments path) blocks = none) := by
  obtain ⟨names, name, split⟩ : ∃ names name, segments path = names ++ [name] :=
    ⟨_, _, (List.dropLast_concat_getLast (segments_ne_nil path)).symm⟩
  have leads := currentAt?_concat names name blocks
  have block := block?_concat names name blocks
  rw [← split] at leads block
  cases way : currentAt? names blocks with
  | none =>
      rw [way, Option.bind_none] at leads block
      exact .inr ⟨currentRow_eq_error_iff.mpr ⟨leads, rfl⟩, block⟩
  | some around =>
      rw [way, Option.bind_some] at leads block
      cases found : blockAt? name around blocks with
      | none =>
          rw [found, Option.bind_none] at leads
          exact .inr
            ⟨currentRow_eq_error_iff.mpr ⟨leads, rfl⟩, block.trans found⟩
      | some last =>
          obtain ⟨row, current⟩ :=
            Block.exists_current? (tracked.kept found).filled
          rw [found, Option.bind_some, current, Option.map_some] at leads
          refine .inl ⟨⟨_⟩, last, row, currentRow_eq_ok_iff.mpr leads, ?_,
            block.trans found, current, ?_⟩
          · exact pathText_eq (map_fst_currentAt? leads)
          · rw [row?, rowAt?_concat, found, Option.bind_some,
              getElem?_last current]

/-- The lookups of the block tree agree, however rows were opened in it.  A path
leads to a last row just if it leads to a block; the handle has this path and is
that of the last row of the block, whose fields are those that the path
resolves.  Where a path leads to no row, none of its fields is resolved.  The
row that was just opened at a path is the one that the path leads to. -/
theorem lookups_agree (heap : Heap) (calls : List (String × Table Binding)) :
    let (blocks, now) := openAll calls [] heap
    ∀ path,
      ((∃ handle, blocks.currentRow path = .ok handle) ↔
          ∃ block, block? (segments path) blocks = some block) ∧
        (∀ handle, blocks.currentRow path = .ok handle →
          handle.pathText = path ∧
            ∃ block row, block? (segments path) blocks = some block ∧
              block.current? = some row ∧ blocks.row? handle = some row ∧
              ∀ seen field value, blocks.resolve seen path field = .ok value ↔
                row.get? seen field = some value) ∧
        (∀ error, blocks.currentRow path = .error error →
          ∀ seen field,
            blocks.resolve seen path field = .error (.undefined path field)) ∧
        ∀ vars after later handle,
          blocks.openBlock now path vars = .ok (after, later, handle) →
            after.currentRow path = .ok handle := by
  have tracked := (tracked_nil heap).openAll calls
  generalize openAll calls [] heap = reached at tracked
  obtain ⟨blocks, now⟩ := reached
  intro path
  refine ⟨?_, ?_, ?_, fun vars after later handle => currentRow_of_openBlock⟩
  · rcases lookup_cases tracked path with
      ⟨handle, block, row, leads, -, found, -⟩ | ⟨fails, none⟩
    · simp [leads, found]
    · simp [fails, none]
  · intro handle leads
    rcases lookup_cases tracked path with
      ⟨handle', block, row, leads', text, found, current, there⟩ | ⟨fails, -⟩
    · rw [leads'] at leads
      cases leads
      refine ⟨text, block, row, found, current, there,
        fun seen field value => ?_⟩
      rw [resolve, found, Option.bind_some, current]
      dsimp only
      cases row.get? seen field <;> simp
    · rw [fails] at leads
      cases leads
  · intro error fails seen field
    rcases lookup_cases tracked path with
      ⟨handle, block, row, leads, -⟩ | ⟨-, none⟩
    · rw [leads] at fails
      cases fails
    · rw [resolve, none]
      rfl

/-- The last of two posts has a comment, to which the path leads; without it,
the path leads nowhere, although the first post has one. -/
theorem lookups_agree_comments :
    let calls : List (String × Table Binding) := [("posts", []),
      ("posts.comments", [("TEXT", .owned (.text "first"))]), ("posts", [])]
    let more : List (String × Table Binding) :=
      [("posts.comments", [("TEXT", .owned (.text "second"))])]
    (openAll calls [] {}).1.currentRow "posts.comments" =
      .error (.undefined "posts.comments" "") ∧
    (openAll calls [] {}).1.resolve {} "posts.comments" "TEXT" =
      .error (.undefined "posts.comments" "TEXT") ∧
    (openAll (calls ++ more) [] {}).1.currentRow "posts.comments" =
      .ok ⟨[("posts", 1), ("comments", 0)]⟩ ∧
    (openAll (calls ++ more) [] {}).1.resolve {} "posts.comments" "TEXT" =
      .ok (.text "second") ∧
    ∃ row,
      (openAll (calls ++ more) [] {}).1.row? ⟨[("posts", 1), ("comments", 0)]⟩ =
          some row ∧
        row.get? {} "TEXT" = some (.text "second") := by
  intro calls more
  have fails : (openAll calls [] {}).1.currentRow "posts.comments" =
      .error (.undefined "posts.comments" "") := rfl
  have leads : (openAll (calls ++ more) [] {}).1.currentRow "posts.comments" =
      .ok ⟨[("posts", 1), ("comments", 0)]⟩ := rfl
  have resolved :
      (openAll (calls ++ more) [] {}).1.resolve {} "posts.comments" "TEXT" =
        .ok (.text "second") := rfl
  obtain ⟨-, -, unresolved, -⟩ := lookups_agree {} calls "posts.comments"
  obtain ⟨-, resolves, -⟩ := lookups_agree {} (calls ++ more) "posts.comments"
  obtain ⟨-, block, row, -, -, found, same⟩ := resolves _ leads
  exact ⟨fails, unresolved _ fails {} "TEXT", leads, resolved, row, found,
    (same {} "TEXT" _).mp resolved⟩

end Blocks
end TemplateEngine
