import TemplateEngine.Error
import TemplateEngine.Table
import TemplateEngine.Text.Quoted
import TemplateEngine.Value.Basic

/-!
# Filters

A filter turns a value and arguments into a value, or says why it cannot.  A
registry holds filters by name.
-/

namespace TemplateEngine

abbrev Filter := Value → List Value → Except String Value

abbrev Filters := Table Filter

namespace Filters

def has (filters : Filters) (name : String) : Bool :=
  Table.contains filters name

/-- Registers a filter, in place of one with the same name. -/
def register (filters : Filters) (name : String) (filter : Filter) : Filters :=
  Table.insert filters name filter

def invoke (filters : Filters) (name : String) (input : Value)
    (arguments : List Value) : Except Error Value :=
  match Table.get? filters name with
  | none => .error (.unknownFilter name)
  | some filter =>
    match filter input arguments with
    | .ok value => .ok value
    | .error message => .error (.filter name message)

/-- The registry in messages: the names of its filters in order. -/
def describe (filters : Filters) : String :=
  let names := (Table.names filters).mergeSort fun left right => left ≤ right
  "Filters \x7b names: [" ++
    String.ofList (List.intercalate [',', ' ']
      (names.map fun name => Text.quote name.toList)) ++ "] \x7d"

end Filters

/-- A filter on the text of its input. -/
def Filter.ofText (change : List Char → List Char) : Filter := fun input _ =>
  .ok (.text (String.ofList (change input.print)))

end TemplateEngine
