import TemplateEngine.Text.Letter
import TemplateEngine.Text.Utf8

/-!
# Percent encoding

A percent sign with two hexadecimal digits stands for a byte.  Reading leaves a
percent sign without them alone; writing keeps the characters of a given set and
encodes every byte of the others, with digits in upper case.
-/

namespace TemplateEngine.Text.Percent

/-- The digit of a value below 16, in upper case. -/
def digit (value : Nat) : Char :=
  if value < 10 then Char.ofNat (48 + value) else Char.ofNat (55 + value)

/-- The value of a hexadecimal digit of either case. -/
def value? (character : Char) : Option Nat :=
  let code := character.toNat
  if 48 ≤ code && code ≤ 57 then some (code - 48)
  else if 65 ≤ code && code ≤ 70 then some (code - 55)
  else if 97 ≤ code && code ≤ 102 then some (code - 87)
  else none

/-- A byte as a percent sign and two digits. -/
def encodeByte (byte : UInt8) : List Char :=
  ['%', digit (byte.toNat / 16), digit (byte.toNat % 16)]

/-- Encodes the bytes of all characters but those to keep. -/
def encode (keep : Char → Bool) (text : List Char) : List Char :=
  text.flatMap fun character =>
    if keep character then [character]
    else (Utf8.bytes character).flatMap encodeByte

/-- The bytes that a text with percent signs stands for. -/
def decodeBytes : List Char → List UInt8
  | [] => []
  | '%' :: high :: low :: rest =>
    match value? high, value? low with
    | some high, some low => UInt8.ofNat (high * 16 + low) :: decodeBytes rest
    | _, _ => Utf8.bytes '%' ++ decodeBytes (high :: low :: rest)
  | character :: rest => Utf8.bytes character ++ decodeBytes rest

/-- The text that a text with percent signs stands for. -/
def decode (text : List Char) : List Char :=
  Utf8.decode (decodeBytes text)

/-- A name or value of a query string: a plus sign stands for a space. -/
def decodeComponent (text : List Char) : List Char :=
  decode (text.map fun character => if character = '+' then ' ' else character)

/-- The characters that file names keep: ASCII letters and digits, the dot, the
dash and the underscore. -/
def isFileNameCharacter (character : Char) : Bool :=
  isAsciiAlphanumeric character || character == '.' || character == '-' ||
    character == '_'

/-- A text as part of a file name. -/
def fileName (text : List Char) : List Char :=
  encode isFileNameCharacter text

end TemplateEngine.Text.Percent
