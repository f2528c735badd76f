import TemplateEngine.Number.Whole
import TemplateEngine.Text.Quoted

/-!
# JSON values and their text

A JSON text as a tree.  Numbers are kept as they are written, since what they
stand for depends on who reads them.  A string is `none` if its escapes name
half of a surrogate pair on its own: such a string is well written but stands
for no text.
-/

namespace TemplateEngine

inductive Json
  | null
  | bool (flag : Bool)
  | number (literal : List Char)
  | string (text : Option String)
  | array (items : List Json)
  | object (members : List (Option String × Json))

namespace Json

def int (number : Int) : Json :=
  .number (Number.integerText number)

def count (count : Nat) : Json :=
  .int count

/-- A string that stands for a text. -/
def text (text : String) : Json :=
  .string (some text)

def texts (texts : List String) : Json :=
  .array (texts.map text)

def record (fields : List (String × Json)) : Json :=
  .object (fields.map fun (name, value) => (some name, value))

/-- An alternative of a choice with its data. -/
def tagged (name : String) (data : Json) : Json :=
  .record [(name, data)]

/-- A character inside a string: quotes, backslashes and control characters are
escaped. -/
def escapeCharacter (character : Char) : List Char :=
  match character with
  | '"' => ['\\', '"']
  | '\\' => ['\\', '\\']
  | '\x08' => ['\\', 'b']
  | '\x0c' => ['\\', 'f']
  | '\n' => ['\\', 'n']
  | '\r' => ['\\', 'r']
  | '\t' => ['\\', 't']
  | _ =>
    if character.toNat < 0x20 then
      ['\\', 'u', '0', '0', Nat.digitChar (character.toNat / 16),
        Nat.digitChar (character.toNat % 16)]
    else [character]

def writeText (text : List Char) : List Char :=
  '"' :: text.flatMap escapeCharacter ++ ['"']

mutual

/-- The text of a value, without blanks. -/
def write : Json → List Char
  | .null => ['n', 'u', 'l', 'l']
  | .bool true => ['t', 'r', 'u', 'e']
  | .bool false => ['f', 'a', 'l', 's', 'e']
  | .number literal => literal
  | .string text => writeText (text.getD "").toList
  | .array [] => ['[', ']']
  | .array (item :: items) => '[' :: write item ++ writeItems items
  | .object [] => ['\x7b', '\x7d']
  | .object ((name, value) :: members) =>
    '\x7b' :: writeText (name.getD "").toList ++ ':' :: write value ++
      writeMembers members

/-- The further items of an array, up to its end. -/
def writeItems : List Json → List Char
  | [] => [']']
  | item :: items => ',' :: write item ++ writeItems items

/-- The further members of an object, up to its end. -/
def writeMembers : List (Option String × Json) → List Char
  | [] => ['\x7d']
  | (name, value) :: members =>
    ',' :: writeText (name.getD "").toList ++ ':' :: write value ++
      writeMembers members

end

end Json
end TemplateEngine
