import TemplateEngine.Text.Quoted.Table

/-!
# Quoted text in listings and messages

A quoted text stands between double quotes.  Quotes and backslashes get a
backslash, the usual control characters their letter, and every character
without a picture of its own the hexadecimal number of its code point in braces.
-/

namespace TemplateEngine.Text

/-- Whether quoted text shows a character by its number. -/
def isInvisible (character : Char) : Bool :=
  if character.toNat < 0x80 then
    character.toNat < 0x20 || character.toNat == 0x7F
  else CodePoints.cover Quoted.invisible character.toNat

/-- A number in hexadecimal, without leading zeros. -/
def hexadecimal (number : Nat) : List Char :=
  Nat.toDigits 16 number

/-- A character inside a quoted text. -/
def quoteCharacter (character : Char) : List Char :=
  match character with
  | '"' => ['\\', '"']
  | '\\' => ['\\', '\\']
  | '\n' => ['\\', 'n']
  | '\r' => ['\\', 'r']
  | '\t' => ['\\', 't']
  | '\x00' => ['\\', '0']
  | _ =>
    if isInvisible character then
      ['\\', 'u', '\x7b'] ++ hexadecimal character.toNat ++ ['\x7d']
    else [character]

/-- A text between double quotes, for listings and messages. -/
def quote (text : List Char) : List Char :=
  '"' :: text.flatMap quoteCharacter ++ ['"']

/-- A file path between double quotes: quoted text in which single quotes are
escaped too. -/
def quotePath (path : List Char) : List Char :=
  '"' ::
    path.flatMap
      (fun c => if c = '\'' then ['\\', '\''] else quoteCharacter c) ++ ['"']

end TemplateEngine.Text
