import TemplateEngine.Text.Case.Table

/-!
# Upper and lower case

The full case mappings of Unicode: a character may become several, and a capital
sigma at the end of a word becomes a final sigma.
-/

namespace TemplateEngine.Text

/-- A mapping below code point 128 by rule, above by the tables. -/
private def mapCase (ascii : Char → Char) (shifts : List Shift)
    (expansions : List (Nat × List Nat)) (character : Char) : List Char :=
  if character.toNat < 0x80 then [ascii character]
  else
    match expansions.lookup character.toNat with
    | some codes => codes.map Char.ofNat
    | none =>
      match Shift.image? shifts character.toNat with
      | some code => [Char.ofNat code]
      | none => [character]

/-- The upper case form of a character. -/
def upper (character : Char) : List Char :=
  mapCase Char.toUpper Case.toUpperRuns Case.toUpperExpansions character

/-- The lower case form of a character on its own. -/
def lower (character : Char) : List Char :=
  mapCase Char.toLower Case.toLowerRuns Case.toLowerExpansions character

/-- The characters with the property Uppercase. -/
def isUppercase (character : Char) : Bool :=
  if character.toNat < 0x80 then 'A' ≤ character && character ≤ 'Z'
  else Case.uppercase.any (·.moves character.toNat)

/-- The characters with the property Cased. -/
def isCased (character : Char) : Bool :=
  if character.toNat < 0x80 then
    ('A' ≤ character && character ≤ 'Z') || ('a' ≤ character && character ≤ 'z')
  else CodePoints.cover Case.cased character.toNat

/-- The characters with the property Case_Ignorable. -/
def isCaseIgnorable (character : Char) : Bool :=
  CodePoints.cover Case.caseIgnorable character.toNat

/-- Whether the first character that is not case ignorable has a case. -/
def nextIsCased (text : List Char) : Bool :=
  match text.dropWhile isCaseIgnorable with
  | [] => false
  | character :: _ => isCased character

/-- The upper case form of a text. -/
def upperText (text : List Char) : List Char :=
  text.flatMap upper

/-- Lower case of the rest of a text, `before` being what precedes it, last
character first. -/
def lowerAfter (before : List Char) : List Char → List Char
  | [] => []
  | character :: rest =>
    (if character = 'Σ' then
        if nextIsCased before && !nextIsCased rest then ['ς'] else ['σ']
      else lower character) ++ lowerAfter (character :: before) rest

/-- The lower case form of a text: a capital sigma that ends a word becomes a
final sigma. -/
def lowerText (text : List Char) : List Char :=
  lowerAfter [] text

end TemplateEngine.Text
