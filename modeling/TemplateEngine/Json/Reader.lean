import TemplateEngine.Json.Basic

/-!
# Reading JSON

The reader accepts exactly one JSON value, with blanks around it.  It reads
well-formed text of any depth; limits on depth and on numbers are those of what
is read from the tree.
-/

namespace TemplateEngine.Json

/-- Drops the blanks that JSON allows between its parts. -/
def skipBlanks (text : List Char) : List Char :=
  text.dropWhile fun c => c == ' ' || c == '\n' || c == '\r' || c == '\t'

/-- The value of a hexadecimal digit of either case. -/
def hexadecimal? (digit : Char) : Option Nat :=
  let code := digit.toNat
  if 48 ≤ code && code ≤ 57 then some (code - 48)
  else if 65 ≤ code && code ≤ 70 then some (code - 55)
  else if 97 ≤ code && code ≤ 102 then some (code - 87)
  else none

/-- The value of four hexadecimal digits. -/
def hexadecimalUnit? (first second third fourth : Char) : Option Nat := do
  let first ← hexadecimal? first
  let second ← hexadecimal? second
  let third ← hexadecimal? third
  let fourth ← hexadecimal? fourth
  return ((first * 16 + second) * 16 + third) * 16 + fourth

/-- What a letter after a backslash stands for. -/
def escaped? : Char → Option Char
  | '"' => some '"'
  | '\\' => some '\\'
  | '/' => some '/'
  | 'b' => some '\x08'
  | 'f' => some '\x0c'
  | 'n' => some '\n'
  | 'r' => some '\r'
  | 't' => some '\t'
  | _ => none

/-- Reads a string after its opening quote as numbers: code points as they
stand, and the numbers of escapes. -/
def readUnits : List Char → Option (List Nat × List Char)
  | [] => none
  | '"' :: rest => some ([], rest)
  | '\\' :: 'u' :: first :: second :: third :: fourth :: rest => do
    let unit ← hexadecimalUnit? first second third fourth
    let (units, rest) ← readUnits rest
    return (unit :: units, rest)
  | '\\' :: letter :: rest => do
    let character ← escaped? letter
    let (units, rest) ← readUnits rest
    return (character.toNat :: units, rest)
  | character :: rest =>
    if character.toNat < 0x20 || character == '\\' then none
    else do
      let (units, rest) ← readUnits rest
      return (character.toNat :: units, rest)

/-- The first half of a surrogate pair. -/
def isHighSurrogate (unit : Nat) : Bool :=
  0xD800 ≤ unit && unit < 0xDC00

/-- The second half of a surrogate pair. -/
def isLowSurrogate (unit : Nat) : Bool :=
  0xDC00 ≤ unit && unit < 0xE000

/-- The text of numbers in which each surrogate is one of a pair. -/
def textOfUnits : List Nat → Option (List Char)
  | [] => some []
  | [unit] =>
    if isHighSurrogate unit || isLowSurrogate unit then none
    else some [Char.ofNat unit]
  | unit :: next :: units =>
    if isHighSurrogate unit then
      if isLowSurrogate next then
        (textOfUnits units).map (Char.ofNat
            (0x10000 + (unit - 0xD800) * 0x400 + (next - 0xDC00)) :: ·)
      else none
    else if isLowSurrogate unit then none
    else (textOfUnits (next :: units)).map (Char.ofNat unit :: ·)

/-- Reads a string after its opening quote. -/
def readString (text : List Char) : Option (Option String × List Char) := do
  let (units, rest) ← readUnits text
  return ((textOfUnits units).map String.ofList, rest)

/-- Takes the digits at the start of a text, of which there must be one. -/
def readDigits (text : List Char) : Option (List Char × List Char) :=
  match text.takeWhile Text.isAsciiDigit with
  | [] => none
  | digits => some (digits, text.dropWhile Text.isAsciiDigit)

/-- Reads the digits before the point: no zero stands before another digit. -/
def readWhole : List Char → Option (List Char × List Char)
  | '0' :: rest =>
    match rest with
    | [] => some (['0'], [])
    | next :: _ => if Text.isAsciiDigit next then none else some (['0'], rest)
  | text => readDigits text

/-- Reads the point and the digits after it, if there is a point. -/
def readFraction : List Char → Option (List Char × List Char)
  | '.' :: rest =>
    (readDigits rest).map fun (digits, rest) => ('.' :: digits, rest)
  | rest => some ([], rest)

/-- Reads the exponent, if there is one. -/
def readExponent : List Char → Option (List Char × List Char)
  | [] => some ([], [])
  | letter :: rest =>
    if letter == 'e' || letter == 'E' then
      match rest with
      | '+' :: rest =>
        (readDigits rest).map fun (digits, rest) =>
          (letter :: '+' :: digits, rest)
      | '-' :: rest =>
        (readDigits rest).map fun (digits, rest) =>
          (letter :: '-' :: digits, rest)
      | rest =>
        (readDigits rest).map fun (digits, rest) => (letter :: digits, rest)
    else some ([], letter :: rest)

/-- Reads a number as it is written. -/
def readNumber (text : List Char) : Option (List Char × List Char) := do
  let (sign, text) :=
    match text with
    | '-' :: rest => (['-'], rest)
    | rest => ([], rest)
  let (whole, rest) ← readWhole text
  let (fraction, rest) ← readFraction rest
  let (exponent, rest) ← readExponent rest
  return (sign ++ whole ++ fraction ++ exponent, rest)

mutual

/-- Reads a value, with fuel for its parts. -/
def readValue : Nat → List Char → Option (Json × List Char)
  | 0, _ => none
  | fuel + 1, text =>
    match skipBlanks text with
    | 'n' :: 'u' :: 'l' :: 'l' :: rest => some (.null, rest)
    | 't' :: 'r' :: 'u' :: 'e' :: rest => some (.bool true, rest)
    | 'f' :: 'a' :: 'l' :: 's' :: 'e' :: rest => some (.bool false, rest)
    | '"' :: rest =>
      (readString rest).map fun (text, rest) => (.string text, rest)
    | '[' :: rest =>
      match skipBlanks rest with
      | ']' :: rest => some (.array [], rest)
      | _ => (readItems fuel rest).map fun (items, rest) => (.array items, rest)
    | '\x7b' :: rest =>
      match skipBlanks rest with
      | '\x7d' :: rest => some (.object [], rest)
      | _ =>
        (readMembers fuel rest).map fun (members, rest) =>
          (.object members, rest)
    | rest =>
      (readNumber rest).map fun (literal, rest) => (.number literal, rest)

/-- Reads the items of an array up to its end, of which there is at least
one. -/
def readItems : Nat → List Char → Option (List Json × List Char)
  | 0, _ => none
  | fuel + 1, text =>
    match readValue fuel text with
    | none => none
    | some (item, rest) =>
      match skipBlanks rest with
      | ']' :: rest => some ([item], rest)
      | ',' :: rest =>
        (readItems fuel rest).map fun (items, rest) => (item :: items, rest)
      | _ => none

/-- Reads the members of an object up to its end, of which there is at least
one. -/
def readMembers :
    Nat → List Char → Option (List (Option String × Json) × List Char)
  | 0, _ => none
  | fuel + 1, text =>
    match skipBlanks text with
    | '"' :: rest =>
      match readString rest with
      | none => none
      | some (name, rest) =>
        match skipBlanks rest with
        | ':' :: rest =>
          match readValue fuel rest with
          | none => none
          | some (value, rest) =>
            match skipBlanks rest with
            | '\x7d' :: rest => some ([(name, value)], rest)
            | ',' :: rest =>
              (readMembers fuel rest).map fun (members, rest) =>
                ((name, value) :: members, rest)
            | _ => none
        | _ => none
    | _ => none

end

/-- Reads a text that holds one value and blanks. -/
def read? (text : List Char) : Option Json :=
  match readValue (2 * text.length + 1) text with
  | some (value, rest) => if (skipBlanks rest).isEmpty then some value else none
  | none => none

end TemplateEngine.Json
