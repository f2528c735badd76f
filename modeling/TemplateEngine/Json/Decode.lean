import TemplateEngine.Json.Reader

/-!
# Reading typed data from JSON

A decoder turns a JSON value into data of a type.  Every array and object that
holds data takes one level of nesting, of which there are `levels`; parts that a
decoder skips may be nested to any depth and hold any well-formed number or
string.

A record is written as an object with exactly its fields, in any order and
beside others that are skipped, or as the array of its fields in their order.  A
choice is written as an object with one member, the name of the alternative; an
alternative without data may be its name alone.
-/

namespace TemplateEngine.Json

/-- The deepest nesting of arrays and objects in data. -/
def levels : Nat := 127

/-- Reads data of a type from a value, within a number of levels of nesting. -/
abbrev Decoder (α : Type) := Nat → Json → Option α

namespace Decoder

def text : Decoder String
  | _, .string text => text
  | _, _ => none

def bool : Decoder Bool
  | _, .bool flag => some flag
  | _, _ => none

/-- An integer of 64 bits, written without point and exponent.  Minus zero is
none. -/
def int : Decoder Int
  | _, .number literal =>
    (Number.integer? literal).filter fun _ => literal ≠ ['-', '0']
  | _, _ => none

/-- A count of 64 bits, written without point and exponent. -/
def count : Decoder Nat
  | _, .number literal => Number.count? literal
  | _, _ => none

def list {α : Type} (item : Decoder α) : Decoder (List α)
  | levels + 1, .array items => items.mapM (item levels)
  | _, _ => none

/-- The value of a field that occurs exactly once. -/
def field? (members : List (Option String × Json)) (name : String) :
    Option Json :=
  match members.filter fun member => member.1 == some name with
  | [(_, value)] => some value
  | _ => none

/-- The fields of a record in the order of their names, and the levels left for
them. -/
def fields (names : List String) : Nat → Json → Option (Nat × List Json)
  | levels + 1, .array items =>
    if items.length = names.length then some (levels, items) else none
  | levels + 1, .object members =>
    if members.any fun member => member.1.isNone then none
    else (names.mapM (field? members)).map fun values => (levels, values)
  | _, _ => none

/-- The name of the alternative of a choice, and its data. -/
def alternative : Nat → Json → Option (String × Nat × Option Json)
  | levels, .string name => name.map fun name => (name, levels, none)
  | levels + 1, .object [(some name, value)] => some (name, levels, some value)
  | _, _ => none

def unit {α : Type} (value : α) : Option Json → Option α
  | none => some value
  | some .null => some value
  | some _ => none

/-- A pair, written as an array. -/
def pair {α β : Type} (first : Decoder α) (second : Decoder β) : Decoder (α × β)
  | levels + 1, .array [left, right] => do
    let left ← first levels left
    let right ← second levels right
    return (left, right)
  | _, _ => none

end Decoder
end TemplateEngine.Json
