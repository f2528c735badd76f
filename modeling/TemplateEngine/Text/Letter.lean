import TemplateEngine.Text.Letter.Table

/-!
# Letters, digits and names

Names in templates are made of the letters and numbers of all scripts and of the
underscore.  The classes are those of version 17 of the Unicode character
database; below code point 128 they are the letters and digits of ASCII.
-/

namespace TemplateEngine.Text

/-- The letters `a` to `z` and `A` to `Z`. -/
def isAsciiLetter (character : Char) : Bool :=
  ('a' ≤ character && character ≤ 'z') || ('A' ≤ character && character ≤ 'Z')

/-- The digits `0` to `9`. -/
def isAsciiDigit (character : Char) : Bool :=
  '0' ≤ character && character ≤ '9'

/-- The letters and digits of ASCII. -/
def isAsciiAlphanumeric (character : Char) : Bool :=
  isAsciiLetter character || isAsciiDigit character

/-- The letters of all scripts: general category L. -/
def isLetter (character : Char) : Bool :=
  if character.toNat < 0x80 then isAsciiLetter character
  else CodePoints.cover Letter.letters character.toNat

/-- The decimal digits of all scripts: general category Nd. -/
def isDigit (character : Char) : Bool :=
  if character.toNat < 0x80 then isAsciiDigit character
  else CodePoints.cover Letter.digits character.toNat

/-- The letters and decimal digits that version 17 of the database added. -/
def isRecent (character : Char) : Bool :=
  CodePoints.cover Letter.recent character.toNat

/-- The property Alphabetic: letters, letter numbers and vowel signs. -/
def isAlphabetic (character : Char) : Bool :=
  if character.toNat < 0x80 then isAsciiLetter character
  else
    CodePoints.cover Letter.letters character.toNat ||
      CodePoints.cover Letter.letterMarks character.toNat

/-- Alphabetic characters and the numbers of all scripts. -/
def isAlphanumeric (character : Char) : Bool :=
  if character.toNat < 0x80 then isAsciiAlphanumeric character
  else
    isAlphabetic character || CodePoints.cover Letter.digits character.toNat ||
      CodePoints.cover Letter.otherNumbers character.toNat

/-- A name starts with an alphabetic character or an underscore. -/
def isNameStart (character : Char) : Bool :=
  isAlphabetic character || character == '_'

/-- A name goes on with alphanumeric characters and underscores. -/
def isNamePart (character : Char) : Bool :=
  isAlphanumeric character || character == '_'

/-- Whether a whole text is a name. -/
def isName : List Char → Bool
  | [] => false
  | first :: rest => isNameStart first && rest.all isNamePart

/-- Whether a text is a chain of names joined by dots. -/
def isDottedName (text : List Char) : Bool :=
  (List.splitOn '.' text).all isName

theorem isNamePart_of_isNameStart {character : Char}
    (start : isNameStart character = true) : isNamePart character = true := by
  unfold isNameStart at start
  unfold isNamePart isAlphanumeric
  split
  · rename_i small
    simp only [isAlphabetic, small, if_true] at start
    simp only [isAsciiAlphanumeric]
    grind
  · grind

theorem not_mem_of_isName {text : List Char} {character : Char}
    (isName : isName text = true) (other : isNamePart character = false) :
    character ∉ text := by
  intro inside
  cases text with
  | nil => cases isName
  | cons first rest =>
      rw [Text.isName, Bool.and_eq_true, List.all_eq_true] at isName
      have part : isNamePart character = true := by
        rcases List.mem_cons.mp inside with rfl | inside
        · exact isNamePart_of_isNameStart isName.1
        · exact isName.2 character inside
      rw [other] at part
      cases part

end TemplateEngine.Text
