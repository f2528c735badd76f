import TemplateEngine.Block.Basic

/-!
# Contexts

Everything that a template reads while it is rendered: variables, constants and
the block tree.
-/

namespace TemplateEngine

/-- What a host hands to a template. -/
structure Context where
  vars : Table Binding := []
  constants : Table Value := []
  blocks : Blocks := []

namespace Context

/-- Gives a variable a value of its own. -/
def set (context : Context) (name : String) (value : Value) : Context :=
  { context with vars := Table.insert context.vars name (.owned value) }

/-- Binds a variable to a cell of the host. -/
def bind (context : Context) (name : String) (cell : Nat) : Context :=
  { context with vars := Table.insert context.vars name (.shared cell) }

/-- Gives values to variables, one after the other. -/
def extend (context : Context) (values : Table Value) : Context :=
  { context with
    vars := Table.insertAll context.vars
      (values.map fun (name, value) => (name, Binding.owned value)) }

def constant (context : Context) (name : String) (value : Value) : Context :=
  { context with constants := Table.insert context.constants name value }

/-- The value of a variable; one that is not defined is `null`. -/
def get (heap : Heap) (context : Context) (name : String) : Value :=
  ((Table.get? context.vars name).map (Binding.get heap)).getD .null

/-- Appends a row to the block at a path. -/
def openBlock (context : Context) (heap : Heap) (path : String)
    (vars : Table Binding) : Except BlockError (Context × Heap × RowHandle) :=
  match context.blocks.openBlock heap path vars with
  | .error error => .error error
  | .ok (blocks, heap, handle) => .ok ({ context with blocks }, heap, handle)

end Context
end TemplateEngine
