import TemplateEngine.Error
import TemplateEngine.Heap

/-!
# The block tree

A block is a list of rows, which the host fills before rendering.  A row has
variables and blocks of its own.  Blocks are addressed by names joined with
dots, each name after the first standing for a block of the last row of the
block before it.

Besides its variables a row has the fields `FIRST`, `LAST`, `CURRENT` and
`SIZE_OF`, which are also spelled `is_first`, `is_last`, `current` and `size`.
The size is that of the whole block: rows share its counter, so earlier rows see
the rows that come after them.
-/

namespace TemplateEngine

/-- The number of rows beside and including a row. -/
inductive RowCount
  /-- Of a list that does not grow. -/
  | fixed (count : Nat)
  /-- Of a block, which has a counter. -/
  | counted (counter : Nat)
  deriving DecidableEq

mutual

structure Row where
  vars : List (String × Binding)
  isFirst : Bool
  isLast : Bool
  /-- The number of the row, counted from 1. -/
  position : Nat
  count : RowCount
  children : List (String × Block)

/-- The rows of a block, and its counter. -/
structure Block where
  rows : List Row
  counter : Nat

end

abbrev Blocks := Table Block

/-- The number of rows as of now. -/
def RowCount.get (heap : Heap) : RowCount → Nat
  | fixed count => count
  | counted counter => heap.counter counter

namespace Row

/-- A field of a row: one of those that every row has, or a variable. -/
def get? (heap : Heap) (row : Row) (field : String) : Option Value :=
  if field = "FIRST" || field = "is_first" then some (.bool row.isFirst)
  else if field = "LAST" || field = "is_last" then some (.bool row.isLast)
  else if field = "CURRENT" || field = "current" then some (.int row.position)
  else
    if field = "SIZE_OF" || field = "size" then some (.int (row.count.get heap))
  else (Table.get? row.vars field).map (Binding.get heap)

def child? (row : Row) (name : String) : Option Block :=
  Table.get? row.children name

/-- The rows with a key and a value for the items of a list, from a place on. -/
def ofItems (total : Nat) : (place : Nat) → List (Value × Value) → List Row
  | _, [] => []
  | place, (key, value) :: items =>
    { vars := [("key", .owned key), ("value", .owned value)]
      isFirst := place == 0
      isLast := place + 1 == total
      position := place + 1
      count := .fixed total
      children := [] } :: ofItems total (place + 1) items

/-- One row for each item of a list or entry of a map; other values have no
rows. -/
def ofCollection : Value → List Row
  | .list items =>
    ofItems items.length 0
      (items.zipIdx.map fun (item, place) => (.int place, item))
  | .map entries =>
    ofItems entries.length 0
      (entries.map fun (name, item) => (.text name, item))
  | _ => []

end Row

/-- The last row of a block. -/
def Block.current? (block : Block) : Option Row :=
  block.rows.getLast?

/-- Marks the last of some rows as followed by another. -/
def Row.markFollowed : List Row → List Row
  | [] => []
  | [row] => [{ row with isLast := false }]
  | row :: next :: rows => row :: Row.markFollowed (next :: rows)

/-- Appends a row to a block. -/
def Block.append (vars : Table Binding) (heap : Heap) (block : Block) :
    Block × Heap :=
  let index := block.rows.length
  let row : Row := {
    vars
    isFirst := index == 0
    isLast := true
    position := index + 1
    count := .counted block.counter
    children := [] }
  ({ block with rows := Row.markFollowed block.rows ++ [row] },
    heap.setCounter block.counter (index + 1))

/-- The address of a row: a row index for each name of the path of its block. -/
structure RowHandle where
  path : List (String × Nat)
  deriving DecidableEq

namespace RowHandle

def pathText (handle : RowHandle) : String :=
  String.ofList
    (List.intercalate ['.'] (handle.path.map fun (name, _) => name.toList))

/-- The index of the row in its block, counted from 0. -/
def index (handle : RowHandle) : Nat :=
  (handle.path.getLast?.map Prod.snd).getD 0

end RowHandle

namespace Blocks

def segments (path : String) : List String :=
  (List.splitOn '.' path.toList).map String.ofList

/-- Appends a row to a block of some blocks, which is new if it has no row
yet. -/
def appendTo (name : String) (vars : Table Binding) (heap : Heap)
    (blocks : Blocks) : Blocks × Heap × Nat :=
  match Table.get? blocks name with
  | some block =>
    let (appended, heap) := block.append vars heap
    (Table.insert blocks name appended, heap, block.rows.length)
  | none =>
    let (appended, heap) :=
      Block.append vars heap.newCounter ⟨[], heap.counters.length⟩
    (Table.insert blocks name appended, heap, 0)

/-- Replaces the blocks of the last row of a block. -/
def replaceChildren (block : Block) (row : Row) (children : Blocks) : Block :=
  { block with rows := block.rows.dropLast ++ [{ row with children }] }

/-- Appends a row to the block at the names of a path, if every block before the
last has a row. -/
def openAt? (vars : Table Binding) (heap : Heap) :
    List String → Blocks → Option (Blocks × Heap × List (String × Nat))
  | [], _ => none
  | [name], blocks =>
    let (blocks, heap, index) := appendTo name vars heap blocks
    some (blocks, heap, [(name, index)])
  | ancestor :: next :: names, blocks =>
    match Table.get? blocks ancestor with
    | none => none
    | some block =>
      match block.current? with
      | none => none
      | some row =>
        match openAt? vars heap (next :: names) row.children with
        | none => none
        | some (children, heap, handle) =>
          some
            (Table.insert blocks ancestor (replaceChildren block row children),
              heap, (ancestor, block.rows.length - 1) :: handle)

/-- Appends a row to the block at a path.  The last name of the path is not
empty. -/
def openBlock (blocks : Blocks) (heap : Heap) (path : String)
    (vars : Table Binding) : Except BlockError (Blocks × Heap × RowHandle) :=
  let names := segments path
  if names.getLast? = some "" then .error (.noParentRow path)
  else
    match openAt? vars heap names blocks with
    | none => .error (.noParentRow path)
    | some (blocks, heap, handle) => .ok (blocks, heap, ⟨handle⟩)

/-- The block at the names of a path, found through the last rows of the blocks
around it. -/
def block? : List String → Blocks → Option Block
  | [], _ => none
  | [name], blocks => Table.get? blocks name
  | name :: next :: names, blocks =>
    match Table.get? blocks name with
    | none => none
    | some block =>
      match block.current? with
      | none => none
      | some row => block? (next :: names) row.children

/-- The address of the last row of the block at the names of a path. -/
def currentAt? : List String → Blocks → Option (List (String × Nat))
  | [], _ => some []
  | name :: names, blocks =>
    match Table.get? blocks name with
    | none => none
    | some block =>
      match block.current? with
      | none => none
      | some row =>
        (currentAt? names row.children).map ((name, block.rows.length - 1) :: ·)

/-- The address of the last row of the block at a path. -/
def currentRow (blocks : Blocks) (path : String) :
    Except BlockError RowHandle :=
  match currentAt? (segments path) blocks with
  | none => .error (.undefined path "")
  | some handle => .ok ⟨handle⟩

/-- A field of the last row of the block at a path. -/
def resolve (heap : Heap) (blocks : Blocks) (path field : String) :
    Except BlockError Value :=
  match (block? (segments path) blocks).bind Block.current? with
  | none => .error (.undefined path field)
  | some row =>
    match row.get? heap field with
    | none => .error (.undefined path field)
    | some value => .ok value

def rowAt? : List (String × Nat) → Blocks → Option Row
  | [], _ => none
  | [(name, index)], blocks => (Table.get? blocks name).bind (·.rows[index]?)
  | (name, index) :: next :: path, blocks =>
    match (Table.get? blocks name).bind (·.rows[index]?) with
    | none => none
    | some row => rowAt? (next :: path) row.children

def row? (blocks : Blocks) (handle : RowHandle) : Option Row :=
  rowAt? handle.path blocks

end Blocks
end TemplateEngine
