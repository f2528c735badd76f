/-!
# Blank characters and trimming

A character is blank when it has the Unicode property White_Space.  Trimming
removes blank characters from the ends of a text and nothing else.
-/

namespace TemplateEngine.Text

/-- The characters with the property White_Space. -/
def isBlank (character : Char) : Bool :=
  let code := character.toNat
  if code < 0x80 then (0x09 ≤ code && code ≤ 0x0D) || code == 0x20
  else
    code == 0x85 || code == 0xA0 || code == 0x1680 ||
      (0x2000 ≤ code && code ≤ 0x200A) || code == 0x2028 || code == 0x2029 ||
      code == 0x202F || code == 0x205F || code == 0x3000

/-- Drops the blank characters at the start. -/
def trimStart (text : List Char) : List Char :=
  text.dropWhile isBlank

/-- Drops the blank characters at the end. -/
def trimEnd (text : List Char) : List Char :=
  (text.reverse.dropWhile isBlank).reverse

/-- Drops the blank characters at both ends. -/
def trim (text : List Char) : List Char :=
  trimEnd (trimStart text)

/-- Whether a text consists of blank characters alone. -/
def isAllBlank (text : List Char) : Bool :=
  text.all isBlank

end TemplateEngine.Text
