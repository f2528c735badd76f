import TemplateEngine.Text.Letter

/-!
# Whole numbers in decimal

Reading and writing of whole numbers, and the two ranges that bound them: 64-bit
signed integers for values and 64-bit unsigned ones for counts and positions.
-/

namespace TemplateEngine.Number

/-- The value of an ASCII digit. -/
def digitValue (digit : Char) : Nat :=
  digit.toNat - 48

/-- The number that a run of digits stands for, read after the digits of
`high`. -/
def naturalFrom (high : Nat) (digits : List Char) : Nat :=
  digits.foldl (fun number digit => number * 10 + digitValue digit) high

/-- The number that a non-empty text of ASCII digits stands for. -/
def natural? (text : List Char) : Option Nat :=
  if text.isEmpty || !text.all Text.isAsciiDigit then none
  else some (naturalFrom 0 text)

def naturalText (number : Nat) : List Char :=
  Nat.toDigits 10 number

/-- The digits of an integer, after a minus sign if it is negative. -/
def integerText : Int → List Char
  | .ofNat number => naturalText number
  | .negSucc number => '-' :: naturalText (number + 1)

def isInteger (number : Int) : Bool :=
  -0x8000000000000000 ≤ number && number < 0x8000000000000000

def isCount (number : Nat) : Bool :=
  number < 0x10000000000000000

/-- Reads an integer of 64 bits, with or without a sign. -/
def integer? (text : List Char) : Option Int :=
  let signed :=
    match text with
    | '-' :: digits => (natural? digits).map fun number => -(number : Int)
    | '+' :: digits => (natural? digits).map fun number => (number : Int)
    | digits => (natural? digits).map fun number => (number : Int)
  signed.filter isInteger

/-- Reads a count of 64 bits, with or without a plus sign. -/
def count? (text : List Char) : Option Nat :=
  let digits :=
    match text with
    | '+' :: digits => digits
    | digits => digits
  (natural? digits).filter isCount

end TemplateEngine.Number
