import TemplateEngine.Text.Quoted
import TemplateEngine.Value.Basic

/-!
# Values in messages

Messages about conditions name a value with its kind, so that the text `2` and
the number `2` can be told apart.
-/

namespace TemplateEngine.Value

mutual

/-- A value as messages show it. -/
def describe : Value → List Char
  | null => "Null".toList
  | bool true => "Bool(true)".toList
  | bool false => "Bool(false)".toList
  | int number => "Int(".toList ++ Number.integerText number ++ [')']
  | float number =>
    "Float(".toList ++ Number.Layout.message.write number ++ [')']
  | text content => "String(".toList ++ Text.quote content.toList ++ [')']
  | list items => "List([".toList ++ describeItems items ++ "])".toList
  | map entries =>
    "Map(\x7b".toList ++ describeEntries entries ++ "\x7d)".toList

def describeItems : List Value → List Char
  | [] => []
  | [item] => describe item
  | item :: next :: items =>
    describe item ++ [',', ' '] ++ describeItems (next :: items)

def describeEntries : List (String × Value) → List Char
  | [] => []
  | [(name, item)] => Text.quote name.toList ++ [':', ' '] ++ describe item
  | (name, item) :: next :: entries =>
    Text.quote name.toList ++ [':', ' '] ++ describe item ++ [',', ' '] ++
      describeEntries (next :: entries)

end

end TemplateEngine.Value
