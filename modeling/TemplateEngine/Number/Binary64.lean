import TemplateEngine.Number.Whole

/-!
# Binary floating point numbers of 64 bits

The magnitudes of a floating point number form an ascending grid.  A number is
held as its sign and its place on that grid: the first `2 ^ 52` places are the
multiples of `2 ^ -1074`, and every further `2 ^ 52` places are twice as far
apart as those before.  Infinity is the place after the last finite one.  Order
and equality of numbers are those of their places, and every operation is exact
arithmetic on natural numbers followed by one rounding, to the nearest place and
of two equally near ones to the even.
-/

namespace TemplateEngine.Number

/-- A floating point number: a sign and a place on the grid of magnitudes, or no
number. -/
inductive Binary64
  | nan
  | signed (negative : Bool) (place : Nat)
  deriving DecidableEq

namespace Binary64

def infinity : Nat := 2047 * Nat.pow 2 52

/-- The magnitude at a finite place, in units of `2 ^ -1074`. -/
def units (place : Nat) : Nat :=
  if place < Nat.pow 2 52 then place
  else (Nat.pow 2 52 + place % Nat.pow 2 52) *
    Nat.pow 2 (place / Nat.pow 2 52 - 1)

/-- A quotient rounded to the nearest integer, a half to the even one. -/
def roundQuotient (numerator denominator : Nat) : Nat :=
  let quotient := numerator / denominator
  let twice := 2 * (numerator % denominator)
  if twice < denominator then quotient
  else if denominator < twice then quotient + 1
  else quotient + quotient % 2

/-- The place nearest to a quotient. -/
def nearest (numerator denominator : Nat) : Nat :=
  let scaled := numerator * Nat.pow 2 1074
  let octave := (scaled / denominator).log2 - 52
  min infinity (octave * Nat.pow 2 52 +
    roundQuotient scaled (denominator * Nat.pow 2 octave))

/-- The number nearest to a quotient, with a sign. -/
def ofQuotient (negative : Bool) (numerator denominator : Nat) : Binary64 :=
  signed negative (nearest numerator denominator)

/-- The number nearest to an integer. -/
def ofInt (number : Int) : Binary64 :=
  ofQuotient (number < 0) number.natAbs 1

def zero : Binary64 := signed false 0

def one : Binary64 := ofInt 1

/-- The place of a number on the grid with its sign, which orders all
numbers. -/
def order? : Binary64 → Option Int
  | nan => none
  | signed negative place => some (if negative then -(place : Int) else place)

/-- Equality of numbers: both zeros are equal, and what is no number equals
nothing. -/
def equals (left right : Binary64) : Bool :=
  match left.order?, right.order? with
  | some left, some right => left == right
  | _, _ => false

def compare? (left right : Binary64) : Option Ordering :=
  match left.order?, right.order? with
  | some left, some right => some (compare left right)
  | _, _ => none

/-- Whether a number differs from zero. -/
def isNonzero : Binary64 → Bool
  | nan => true
  | signed _ place => place != 0

/-- Whether a number is neither infinite nor none. -/
def isFinite : Binary64 → Bool
  | nan => false
  | signed _ place => place < infinity

def negate : Binary64 → Binary64
  | nan => nan
  | signed negative place => signed (!negative) place

/-- The place of the whole number next to a finite place, towards zero or away
from it. -/
def whole (away : Bool) (place : Nat) : Nat :=
  if infinity ≤ place then place
  else
    let below := units place / Nat.pow 2 1074
    let above := if units place % Nat.pow 2 1074 = 0 then below else below + 1
    nearest (if away then above else below) 1

/-- The greatest whole number that is not above. -/
def floor : Binary64 → Binary64
  | nan => nan
  | signed negative place => signed negative (whole negative place)

/-- The least whole number that is not below. -/
def ceil : Binary64 → Binary64
  | nan => nan
  | signed negative place => signed negative (whole (!negative) place)

/-- The count of 64 bits nearest to a number, without its fraction. -/
def toCount : Binary64 → Nat
  | nan => 0
  | signed true _ => 0
  | signed false place =>
    if infinity ≤ place then Nat.pow 2 64 - 1
    else min (Nat.pow 2 64 - 1) (units place / Nat.pow 2 1074)

/-- The product of a finite number and a finite positive place. -/
def scaleUp (factor : Nat) : Binary64 → Binary64
  | nan => nan
  | signed negative place =>
    ofQuotient negative (units place * units factor) (Nat.pow 2 2148)

/-- The quotient of a finite number and a finite positive place. -/
def scaleDown (divisor : Nat) : Binary64 → Binary64
  | nan => nan
  | signed negative place => ofQuotient negative (units place) (units divisor)

/-- The place nearest to a number in decimal notation, `coefficient * 10 ^
exponent`.  Exponents that lead beyond the grid are not computed. -/
def nearestDecimal (coefficient : Nat) (exponent : Int) : Nat :=
  if coefficient = 0 then 0
  else
    let leading := exponent + (naturalText coefficient).length
    if 310 < leading then infinity
    else if leading < -330 then 0
    else
      match exponent with
      | .ofNat up => nearest (coefficient * Nat.pow 10 up) 1
      | .negSucc down => nearest coefficient (Nat.pow 10 (down + 1))

end Binary64
end TemplateEngine.Number
