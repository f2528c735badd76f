import TemplateEngine.Value.Basic

/-!
# Shared state

Contexts that are copied from each other share two kinds of storage: cells,
which the host owns and variables may be bound to, and the counters of the rows
of blocks.  A heap holds both.
-/

namespace TemplateEngine

structure Heap where
  cells : List Value := []
  counters : List Nat := []

namespace Heap

/-- What a cell holds. -/
def cell (heap : Heap) (place : Nat) : Value :=
  heap.cells[place]?.getD .null

def writeCell (heap : Heap) (place : Nat) (value : Value) : Heap :=
  { heap with cells := heap.cells.set place value }

/-- Adds a cell; its place is the number of cells before. -/
def newCell (heap : Heap) (value : Value) : Heap :=
  { heap with cells := heap.cells ++ [value] }

/-- What a counter shows. -/
def counter (heap : Heap) (place : Nat) : Nat :=
  heap.counters[place]?.getD 0

def setCounter (heap : Heap) (place count : Nat) : Heap :=
  { heap with counters := heap.counters.set place count }

/-- Adds a counter that shows zero; its place is the number of counters
before. -/
def newCounter (heap : Heap) : Heap :=
  { heap with counters := heap.counters ++ [0] }

theorem counter_setCounter_same {heap : Heap} {place : Nat} (count : Nat)
    (inside : place < heap.counters.length) :
    (heap.setCounter place count).counter place = count := by
  simp [counter, setCounter, inside]

theorem counter_setCounter_other {place other : Nat} (heap : Heap) (count : Nat)
    (distinct : other ≠ place) :
    (heap.setCounter place count).counter other = heap.counter other := by
  simp [counter, setCounter, List.getElem?_set_ne (Ne.symm distinct)]

end Heap

/-- How a context or a row holds a variable: on its own, or in a cell of the
host. -/
inductive Binding
  | owned (value : Value)
  | shared (cell : Nat)

namespace Binding

def get (heap : Heap) : Binding → Value
  | owned value => value
  | shared cell => heap.cell cell

/-- Whether a variable is held in a cell. -/
def isShared : Binding → Bool
  | owned _ => false
  | shared _ => true

/-- Assigns to a variable under a chain of subscripts. -/
def assign (keys : List Value) (new : Value) (heap : Heap) :
    Binding → Binding × Heap
  | owned old => (owned (Value.assign keys new old), heap)
  | shared cell =>
    (shared cell, heap.writeCell cell (Value.assign keys new (heap.cell cell)))

end Binding
end TemplateEngine
