import TemplateEngine.Number.Decimal
import TemplateEngine.Table
import TemplateEngine.Text.Blank

/-!
# Values

What a template can print, iterate over or test.  Lists and maps are looked up
by subscripts and changed by assignment along a chain of subscripts; whatever is
missing is `null`.
-/

namespace TemplateEngine

inductive Value
  | null
  | bool (flag : Bool)
  | int (number : Int)
  | float (number : Number.Binary64)
  | text (text : String)
  | list (items : List Value)
  | map (entries : List (String × Value))

namespace Value

instance : Inhabited Value := ⟨null⟩

/-- The name of the kind of a value. -/
def kind : Value → String
  | null => "null"
  | bool _ => "bool"
  | int _ => "int"
  | float _ => "float"
  | text _ => "string"
  | list _ => "list"
  | map _ => "map"

/-- The text of a value that is one. -/
def asText? : Value → Option String
  | text content => some content
  | _ => none

/-- Whether a value counts as true: neither `null`, zero, the text `0` nor
empty. -/
def isTruthy : Value → Bool
  | null => false
  | bool flag => flag
  | int number => number != 0
  | float number => number.isNonzero
  | text content => content != "" && content != "0"
  | list items => !items.isEmpty
  | map entries => !entries.isEmpty

/-- The number that a value stands for in comparisons and rounding. -/
def number? : Value → Option Number.Binary64
  | bool flag =>
    some (if flag then Number.Binary64.one else Number.Binary64.zero)
  | int number => some (Number.Binary64.ofInt number)
  | float number => some number
  | text content => Number.Binary64.read? (Text.trim content.toList)
  | _ => none

mutual

/-- The text of a value as it is printed.  Items stand between commas. -/
def print : Value → List Char
  | null => []
  | bool true => ['1']
  | bool false => []
  | int number => Number.integerText number
  | float number => Number.Layout.plain.write number
  | text content => content.toList
  | list items => printItems items
  | map entries => printEntries entries

/-- The printed items of a list. -/
def printItems : List Value → List Char
  | [] => []
  | [item] => print item
  | item :: next :: items =>
    print item ++ [',', ' '] ++ printItems (next :: items)

/-- The printed entries of a map, without their names. -/
def printEntries : List (String × Value) → List Char
  | [] => []
  | [(_, item)] => print item
  | (_, item) :: next :: entries =>
    print item ++ [',', ' '] ++ printEntries (next :: entries)

end

/-- The text of a value: what it prints, and the name it stands for as a
subscript of a map. -/
def toText (value : Value) : String :=
  String.ofList (print value)

/-- The place in a list that a subscript stands for. -/
def index? : Value → Option Nat
  | int number => if 0 ≤ number then some number.toNat else none
  | text content => Number.count? content.toList
  | _ => none

/-- Looks up an item of a list by its place or an entry of a map by its name. -/
def subscript : Value → Value → Value
  | list items, key => (key.index?.bind (items[·]?)).getD null
  | map entries, key => (Table.get? entries key.toText).getD null
  | _, _ => null

/-- The value as a map: the items of a list by their places, and no entry for
other values. -/
def entries : Value → Table Value
  | map entries => entries
  | list items => items.zipIdx.map fun (item, place) =>
      (String.ofList (Number.naturalText place), item)
  | _ => []

/-- The place of a list that an assignment under a subscript writes: one of its
items, or the place after the last. -/
def slot? : Value → Value → Option (List Value × Nat)
  | list items, int number =>
    if 0 ≤ number && number.toNat ≤ items.length then some (items, number.toNat)
    else none
  | _, _ => none

/-- Writes a value under a chain of subscripts.  An item of a list is written in
place and a new one only at the end; otherwise the value becomes a map and the
subscript a name in it. -/
def assign : (keys : List Value) → (new old : Value) → Value
  | [], new, _ => new
  | key :: keys, new, old =>
    match slot? old key with
    | some (items, place) =>
      let item := assign keys new (items[place]?.getD null)
      list (items.take place ++ item :: items.drop (place + 1))
    | none => map (Table.alter key.toText null (assign keys new) old.entries)

mutual

/-- Applies a function to every text of a value, at any depth, from left to
right. -/
def mapTexts {ε : Type} (change : String → Except ε Value) :
    Value → Except ε Value
  | text content => change content
  | list items => (mapItemTexts change items).map list
  | map entries => (mapEntryTexts change entries).map map
  | value => .ok value

/-- Applies a function to every text of the items of a list. -/
def mapItemTexts {ε : Type} (change : String → Except ε Value) :
    List Value → Except ε (List Value)
  | [] => .ok []
  | item :: items =>
    match mapTexts change item with
    | .error error => .error error
    | .ok item => (mapItemTexts change items).map (item :: ·)

/-- Applies a function to every text of the entries of a map. -/
def mapEntryTexts {ε : Type} (change : String → Except ε Value) :
    List (String × Value) → Except ε (List (String × Value))
  | [] => .ok []
  | (name, item) :: entries =>
    match mapTexts change item with
    | .error error => .error error
    | .ok item => (mapEntryTexts change entries).map ((name, item) :: ·)

end

end Value
end TemplateEngine
