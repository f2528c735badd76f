import TemplateEngine.Table
import TemplateEngine.Text.Case
import TemplateEngine.Text.Letter

/-!
# Function names

A bundle gives every template a function, whose name comes from the name of the
template: without its extension, in lower case, with underscores between words.
An upper case character starts a word unless another stands before it.
-/

namespace TemplateEngine.Bundle

/-- The name of a template without its extension.  A dot at the very start, or
one before a slash, does not start an extension. -/
def withoutExtension (name : List Char) : List Char :=
  let extension := name.reverse.takeWhile fun c => c != '.' && c != '/'
  match name.reverse.drop extension.length with
  | '.' :: base => if base.isEmpty then name else base.reverse
  | _ => name

/-- The words of a name in lower case with underscores. `previous` is the
character before, and `underscored` tells whether an underscore was written
last. -/
def snakeFrom (previous : Char) (underscored : Bool) : List Char → List Char
  | [] => []
  | character :: name =>
    if Text.isUppercase character then
      (if previous != '_' && !Text.isUppercase previous then ['_'] else []) ++
        Text.lower character ++ snakeFrom character false name
    else if Text.isAlphanumeric character || character == '_' then
      character :: snakeFrom character (character == '_') name
    else if underscored then snakeFrom character true name
    else '_' :: snakeFrom character true name

/-- Drops the underscores at both ends. -/
def trimUnderscores (name : List Char) : List Char :=
  ((name.dropWhile (· == '_')).reverse.dropWhile (· == '_')).reverse

/-- A name in lower case with underscores between words.  One that would start
with a digit gets an underscore. -/
def snakeCase (name : List Char) : List Char :=
  let words := trimUnderscores (snakeFrom '_' false name)
  match words with
  | first :: _ => if Text.isAsciiDigit first then '_' :: words else words
  | [] => []

/-- The name of the function for a template. -/
def functionName (name : String) : String :=
  String.ofList (snakeCase (withoutExtension name.toList))

/-- Alphabetic characters that identifiers may not hold. -/
private def outsideIdentifiers : List Text.CodePoints :=
  [⟨0x37A, 0x37A⟩, ⟨0x24B6, 0x24E9⟩, ⟨0x2E2F, 0x2E2F⟩, ⟨0xFC5E, 0xFC63⟩,
    ⟨0xFDFA, 0xFDFB⟩, ⟨0xFE70, 0xFE70⟩, ⟨0xFE72, 0xFE72⟩, ⟨0xFE74, 0xFE74⟩,
    ⟨0xFE76, 0xFE76⟩, ⟨0xFE78, 0xFE78⟩, ⟨0xFE7A, 0xFE7A⟩, ⟨0xFE7C, 0xFE7C⟩,
    ⟨0xFE7E, 0xFE7E⟩, ⟨0x1F130, 0x1F149⟩, ⟨0x1F150, 0x1F169⟩,
    ⟨0x1F170, 0x1F189⟩]

/-- Letters that identifiers may hold but not start with. -/
private def insideIdentifiers : List Text.CodePoints :=
  [⟨0xE33, 0xE33⟩, ⟨0xEB3, 0xEB3⟩, ⟨0xFF9E, 0xFF9F⟩]

/-- Characters other than letters that identifiers may start with. -/
private def identifierMarks : List Text.CodePoints :=
  [⟨0x16EE, 0x16F0⟩, ⟨0x1885, 0x1886⟩, ⟨0x2160, 0x2182⟩, ⟨0x2185, 0x2188⟩,
    ⟨0x3007, 0x3007⟩, ⟨0x3021, 0x3029⟩, ⟨0x3038, 0x303A⟩, ⟨0xA6E6, 0xA6EF⟩,
    ⟨0x10140, 0x10174⟩, ⟨0x10341, 0x10341⟩, ⟨0x1034A, 0x1034A⟩,
    ⟨0x103D1, 0x103D5⟩, ⟨0x12400, 0x1246E⟩, ⟨0x16FF4, 0x16FF6⟩]

/-- Numbers and marks beside alphabetic characters and digits that identifiers
may hold. -/
private def identifierOthers : List Text.CodePoints :=
  [⟨0x307, 0x307⟩, ⟨0x1369, 0x1371⟩, ⟨0x19DA, 0x19DA⟩]

/-- Whether an identifier may start with a character of a function name. -/
def startsIdentifier (character : Char) : Bool :=
  let code := character.toNat
  if code < 0x80 then Text.isAsciiLetter character || character == '_'
  else
    (Text.isLetter character &&
        !Text.CodePoints.cover outsideIdentifiers code &&
        !Text.CodePoints.cover insideIdentifiers code) ||
      Text.CodePoints.cover identifierMarks code

/-- Whether an identifier may hold a character of a function name. -/
def continuesIdentifier (character : Char) : Bool :=
  let code := character.toNat
  if code < 0x80 then Text.isAsciiAlphanumeric character || character == '_'
  else
    (Text.isAlphabetic character &&
        !Text.CodePoints.cover outsideIdentifiers code) ||
      Text.isDigit character || Text.CodePoints.cover identifierOthers code

/-- Whether a function may have a name. -/
def isIdentifier (name : String) : Bool :=
  match name.toList with
  | [] => false
  | first :: rest => startsIdentifier first && rest.all continuesIdentifier

/-- The first template, in order, whose function has the name of one before it:
the one before, and itself. -/
def collisionAfter (seen : Table String) :
    List String → Option (String × String)
  | [] => none
  | name :: names =>
    match Table.get? seen (functionName name) with
    | some earlier => some (earlier, name)
    | none => collisionAfter (Table.insert seen (functionName name) name) names

/-- The first two templates whose functions have the same name. -/
def collision? (names : List String) : Option (String × String) :=
  collisionAfter [] names

end TemplateEngine.Bundle
