import TemplateEngine.Block.Basic
import TemplateEngine.Condition.Token
import TemplateEngine.Filter.Basic
import TemplateEngine.Program.Listing

/-!
# Evaluating expressions

Expressions read what a template sees at a point of its rendering: the
variables, constants and blocks, and the active rows of the iterations around
it.  Reading changes nothing.
-/

namespace TemplateEngine

/-- The active row of an iteration, and the rows after it. -/
structure Frame where
  id : Nat
  row : Row
  following : List Row

/-- What expressions read. -/
structure View where
  filters : Filters
  constants : Table Value
  blocks : Blocks
  vars : Table Binding
  heap : Heap
  /-- The open iterations, innermost first. -/
  frames : List Frame

namespace View

/-- The active row of an iteration. -/
def row? (view : View) (id : Nat) : Option Row :=
  (view.frames.find? fun frame => frame.id == id).map Frame.row

/-- The last row of a block below a row, found through the last rows of the
blocks around it. -/
def descend? : Row → List String → Option Row
  | row, [] => some row
  | row, name :: names =>
    match (row.child? name).bind Block.current? with
    | none => none
    | some child => descend? child names

def reference (view : View) : Reference → Except Error Value
  | .var name =>
    .ok (((Table.get? view.vars name).map (Binding.get view.heap)).getD .null)
  | .const name =>
    match Table.get? view.constants name with
    | some value => .ok value
    | none => .error (.undefinedConstant name)
  | .frame id rowAlias path field =>
    match ((view.row? id).bind fun row => descend? row path).bind
        fun row => row.get? view.heap field with
    | some value => .ok value
    | none =>
      .error (.block
        (.undefined (String.ofList (joinNames (rowAlias :: path))) field))
  | .block path field =>
    match view.blocks.resolve view.heap (String.ofList (joinNames path))
      field with
    | .ok value => .ok value
    | .error error => .error (.block error)

end View

mutual

/-- The value of an expression.  A filter that is not registered is passed over,
and its arguments are not evaluated. -/
def Expr.eval (view : View) : Expr → Except Error Value
  | .access reference subscripts =>
    match view.reference reference with
    | .error error => .error error
    | .ok value => Argument.select view value subscripts
  | .filter name input arguments =>
    match input.eval view with
    | .error error => .error error
    | .ok value =>
      if view.filters.has name then
        match Argument.evalAll view arguments with
        | .error error => .error error
        | .ok values => view.filters.invoke name value values
      else .ok value

/-- The value of a subscript or an argument. -/
def Argument.eval (view : View) : Argument → Except Error Value
  | .int number => .ok (.int number)
  | .text content => .ok (.text content)
  | .expr inner => inner.eval view

/-- The part of a value that subscripts select, one after the other. -/
def Argument.select (view : View) (value : Value) :
    List Argument → Except Error Value
  | [] => .ok value
  | subscript :: others =>
    match subscript.eval view with
    | .error error => .error error
    | .ok key => Argument.select view (value.subscript key) others

/-- The values of arguments, from left to right. -/
def Argument.evalAll (view : View) : List Argument → Except Error (List Value)
  | [] => .ok []
  | argument :: others =>
    match argument.eval view with
    | .error error => .error error
    | .ok value => (Argument.evalAll view others).map (value :: ·)

end

def Piece.eval (view : View) : Piece → Except Error Value
  | .text content => .ok (.text content)
  | .expr inner => inner.eval view

/-- The printed values of pieces in a row. -/
def Piece.evalText (view : View) : List Piece → Except Error (List Char)
  | [] => .ok []
  | piece :: pieces =>
    match piece.eval view with
    | .error error => .error error
    | .ok value => (Piece.evalText view pieces).map (value.print ++ ·)

/-- The value that is assigned: that of a single expression as it is, and
otherwise a text. -/
def Piece.assigned (view : View) : List Piece → Except Error Value
  | [.expr inner] => inner.eval view
  | pieces =>
    (Piece.evalText view pieces).map fun text => .text (String.ofList text)

/-- The pieces of a condition with the values in it. -/
def Piece.operands (view : View) : List Piece → Except Error (List Operand)
  | [] => .ok []
  | .text content :: pieces =>
    (Piece.operands view pieces).map (.text content :: ·)
  | .expr inner :: pieces =>
    match inner.eval view with
    | .error error => .error error
    | .ok value => (Piece.operands view pieces).map (.value value :: ·)

/-- The rows an iteration walks over. -/
def Source.rows (view : View) : Source → Except Error (List Row)
  | .collection expr => (expr.eval view).map Row.ofCollection
  | .nested frame name =>
    .ok
      ((((view.row? frame).bind fun row => row.child? name).map Block.rows).getD
        [])
  | .path names =>
    .ok (((Blocks.block? names view.blocks).map Block.rows).getD [])

end TemplateEngine
