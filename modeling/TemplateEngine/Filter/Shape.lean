import TemplateEngine.Text.Blank
import TemplateEngine.Text.Case
import TemplateEngine.Text.Letter

/-!
# Filters for case and length

Changing the case of a text, making a slug of it, and cutting it at the end of a
word.
-/

namespace TemplateEngine.Filter

/-- Changes the first character of a text. -/
def changeFirst (change : Char → List Char) : List Char → List Char
  | [] => []
  | first :: rest => change first ++ rest

/-- The other case of a character: lower case if that differs from it. -/
def otherCase (character : Char) : List Char :=
  let lowered := Text.lower character
  if lowered = [character] then Text.upper character else lowered

/-- The letters and digits that the words of a slug are made of: those of
version 16 of the Unicode character database.  An address must not change with
the database, so later ones are taken for separators. -/
def isSlugCharacter (character : Char) : Bool :=
  (Text.isLetter character || Text.isDigit character) &&
    !Text.isRecent character

/-- Replaces every run of characters that are no letters or digits by a dash.  A
text that starts inside such a run has its dash before it. -/
def dashed : (inside : Bool) → List Char → List Char
  | _, [] => []
  | inside, character :: text =>
    if isSlugCharacter character then character :: dashed false text
    else if inside then dashed true text
    else '-' :: dashed true text

/-- Drops the dashes at both ends. -/
def trimDashes (text : List Char) : List Char :=
  (((text.dropWhile (· == '-')).reverse).dropWhile (· == '-')).reverse

/-- A text for use in an address: ASCII letters in lower case, digits and
dashes. -/
def slug (text : List Char) : List Char :=
  let letters :=
    (Text.lowerText (trimDashes (dashed false (Text.trim text)))).filter
      fun c => Text.isAsciiAlphanumeric c || c == '_' || c == '-'
  if letters.isEmpty then "n-a".toList else letters

/-- The text before its last blank character, without blanks at the end. -/
def beforeLastBlank (text : List Char) : List Char :=
  match text.reverse.dropWhile fun c => !Text.isBlank c with
  | [] => []
  | _ :: before => Text.trimEnd before.reverse

/-- Shortens a text that is longer than `limit` at the end of a word, and puts
`finish` after it. -/
def cutAt (limit : Nat) (finish text : List Char) : List Char :=
  if text.length ≤ limit then text
  else beforeLastBlank (text.take (limit - finish.length + 1)) ++ finish

end TemplateEngine.Filter
