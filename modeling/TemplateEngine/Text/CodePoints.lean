/-!
# Ranges of code points

Classes of characters are given by ascending lists of ranges, and case mappings
by ranges that are moved as a whole.  Most classes decide the code points below
128 by a rule of their own, so that the tables are read for text in other
scripts only.
-/

namespace TemplateEngine.Text

/-- The code points from `first` to `last`. -/
structure CodePoints where
  first : Nat
  last : Nat

/-- Whether a code point lies in one of the ranges. -/
def CodePoints.cover (ranges : List CodePoints) (code : Nat) : Bool :=
  ranges.any fun range => range.first ≤ code && code ≤ range.last

/-- The code points `first`, `first + step`, … up to `last`, moved so that
`first` becomes `image`. -/
structure Shift where
  first : Nat
  last : Nat
  step : Nat
  image : Nat

/-- Whether a code point is moved by a shift. -/
def Shift.moves (shift : Shift) (code : Nat) : Bool :=
  shift.first ≤ code && code ≤ shift.last &&
    (code - shift.first) % shift.step == 0

/-- Where the first shift that moves a code point takes it. -/
def Shift.image? (shifts : List Shift) (code : Nat) : Option Nat :=
  (shifts.find? (·.moves code)).map fun shift =>
    shift.image + (code - shift.first)

end TemplateEngine.Text
