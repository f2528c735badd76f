import TemplateEngine.Number.Binary64

/-!
# Floating point numbers in decimal

A number is written with the fewest digits that read back as the same number,
and of those with the digits nearest to it.  Which of two equally near decimals
is written, where the point stands, and from where on and how an exponent is
written instead, is decided by a `Layout`: the three kinds of output differ in
that only.
-/

namespace TemplateEngine.Number

/-- Which of two equally near decimals stands for a number. -/
inductive Tie
  /-- The greater magnitude. -/
  | away
  /-- The one with an even last digit. -/
  | even
  deriving DecidableEq

/-- Whether of two neighbours the lower one is to be taken, `remainder /
denominator` being the distance to it in units of their distance. -/
def Tie.takesLower (tie : Tie) (lower remainder denominator : Nat) : Bool :=
  2 * remainder < denominator ||
    (2 * remainder == denominator && tie == even && lower % 2 == 0)

/-- Decimal digits of a positive number, the point standing `point` digits after
the start. -/
structure Decimal where
  digits : List Char
  point : Int

namespace Decimal

/-- Number of digits before the point of `numerator / 2 ^ 1074`; for a number
below one, minus the number of zeros after the point. -/
def pointOf (numerator : Nat) : Int :=
  let whole := numerator / Nat.pow 2 1074
  if whole ≠ 0 then (naturalText whole).length
  else -zeros 325 numerator
where
  /-- How often a number below one can be multiplied by ten and stay below a
  tenth. -/
  zeros : Nat → Nat → Int
    | 0, _ => 0
    | fuel + 1, numerator =>
      if Nat.pow 2 1074 ≤ numerator * 10 then 0
      else 1 + zeros fuel (numerator * 10)

/-- Digits without the zeros at the end. -/
def withoutTrailingZeros (digits : List Char) : List Char :=
  (digits.reverse.dropWhile (· == '0')).reverse

/-- The decimal of `length` digits that is nearest to a place and reads back as
it. -/
def ofLength? (tie : Tie) (place : Nat) (point : Int) (length : Nat) :
    Option Decimal :=
  let exponent := point - length
  let numerator :=
    Binary64.units place *
      (if exponent < 0 then Nat.pow 10 exponent.natAbs else 1)
  let denominator :=
    Nat.pow 2 1074 * (if exponent < 0 then 1 else Nat.pow 10 exponent.natAbs)
  let below := numerator / denominator
  let readsBack (coefficient : Nat) : Bool :=
    Binary64.nearestDecimal coefficient exponent == place
  let takesBelow := tie.takesLower below (numerator % denominator) denominator
  let chosen :=
    if readsBack below && (takesBelow || !readsBack (below + 1)) then some below
    else if readsBack (below + 1) then some (below + 1)
    else none
  chosen.map fun coefficient =>
    let digits := naturalText coefficient
    ⟨withoutTrailingZeros digits, exponent + digits.length⟩

/-- The shortest decimal that reads back as a positive finite place.  Seventeen
digits always do. -/
def shortest (tie : Tie) (place : Nat) : Decimal :=
  let point := pointOf (Binary64.units place)
  ((List.range 17).findSome? fun length =>
    ofLength? tie place point (length + 1)).getD ⟨['0'], 1⟩

/-- The digits with the point in its place, and zeros where there is no
digit. -/
def positional (decimal : Decimal) (pointZero : Bool) : List Char :=
  let ⟨digits, point⟩ := decimal
  if point ≤ 0 then ['0', '.'] ++ List.replicate point.natAbs '0' ++ digits
  else if digits.length ≤ point then
    digits ++ List.replicate (point.natAbs - digits.length) '0' ++
      (if pointZero then ['.', '0'] else [])
  else digits.take point.natAbs ++ '.' :: digits.drop point.natAbs

/-- One digit before the point, and the exponent of ten after an `e`: with a
sign if it is negative, and, with `plus`, if it is not. -/
def scientific (decimal : Decimal) (plus : Bool) : List Char :=
  let ⟨digits, point⟩ := decimal
  let mantissa :=
    match digits with
    | first :: second :: rest => first :: '.' :: second :: rest
    | digits => digits
  mantissa ++ 'e' :: (if plus && 1 ≤ point then ['+'] else []) ++
    integerText (point - 1)

end Decimal

/-- How floating point numbers are written. -/
structure Layout where
  /-- Whether there is no exponent, by the place of the point. -/
  isPositional : Int → Bool
  /-- Whether whole numbers end in `.0`. -/
  pointZero : Bool
  /-- Whether an exponent that is not negative has a sign. -/
  plus : Bool
  tie : Tie

namespace Layout

/-- Text output never has an exponent, and whole numbers look like integers. -/
def plain : Layout := ⟨fun _ => true, false, false, .away⟩

/-- In messages an exponent is written below `10 ^ -4` and from `10 ^ 16` on. -/
def message : Layout :=
  ⟨fun point => -3 ≤ point && point ≤ 16, true, false, .away⟩

/-- In JSON an exponent is written below `10 ^ -5` and from `10 ^ 16` on, always
with its sign, and of two equally near decimals the even one. -/
def json : Layout := ⟨fun point => -4 ≤ point && point ≤ 16, true, true, .even⟩

/-- Writes a positive finite place or zero. -/
def magnitude (layout : Layout) (place : Nat) : List Char :=
  if place = 0 then '0' :: (if layout.pointZero then ['.', '0'] else [])
  else
    let decimal := Decimal.shortest layout.tie place
    if layout.isPositional decimal.point then decimal.positional
      layout.pointZero
    else decimal.scientific layout.plus

def write (layout : Layout) : Binary64 → List Char
  | .nan => ['N', 'a', 'N']
  | .signed negative place =>
    (if negative then ['-'] else []) ++
      (if Binary64.infinity ≤ place then ['i', 'n', 'f']
        else layout.magnitude place)

end Layout

namespace Binary64

/-- The exponent after the letter `e`: digits, with or without a sign, up to the
end. -/
def readExponent? : List Char → Option Int
  | '-' :: digits => (natural? digits).map fun number => -(number : Int)
  | '+' :: digits => (natural? digits).map fun number => (number : Int)
  | digits => (natural? digits).map fun number => (number : Int)

/-- Reads a number without a sign: digits with a point anywhere among them or
none, and an exponent if one is written.  At least one digit must stand before
the exponent. -/
def readMagnitude? (text : List Char) : Option Nat :=
  let whole := text.takeWhile Text.isAsciiDigit
  let afterWhole := text.dropWhile Text.isAsciiDigit
  let fractionText :=
    match afterWhole with
    | '.' :: rest => rest
    | rest => rest
  let hasPoint := afterWhole.head? == some '.'
  let fraction :=
    if hasPoint then fractionText.takeWhile Text.isAsciiDigit else []
  let afterFraction :=
    if hasPoint then fractionText.dropWhile Text.isAsciiDigit else afterWhole
  if whole.isEmpty && fraction.isEmpty then none
  else
    let exponent? :=
      match afterFraction with
      | [] => some 0
      | letter :: rest =>
        if letter == 'e' || letter == 'E' then readExponent? rest else none
    exponent?.map fun exponent =>
      nearestDecimal (naturalFrom 0 (whole ++ fraction))
        (exponent - fraction.length)

/-- Reads a number: a sign or none, then digits or the name of an infinity, in
any case.  The word for no number takes a sign too. -/
def read? (text : List Char) : Option Binary64 :=
  let (negative, rest) :=
    match text with
    | '-' :: rest => (true, rest)
    | '+' :: rest => (false, rest)
    | rest => (false, rest)
  let word := String.ofList (rest.map Char.toLower)
  if word = "nan" then some nan
  else if word = "inf" || word = "infinity" then some (signed negative infinity)
  else (readMagnitude? rest).map (signed negative)

end Binary64
end TemplateEngine.Number
