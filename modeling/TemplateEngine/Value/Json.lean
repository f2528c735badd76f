import TemplateEngine.Json.Decode
import TemplateEngine.Value.Basic

/-!
# Values as JSON

Every value has a JSON form; numbers that are infinite or none become `null`.
Reading takes a number for an integer if it is written without point and
exponent and has 64 bits.  Other numbers are floating point: of their digits as
many are used as fit 64 bits, and the powers of ten are multiplied in
afterwards, each step rounding once more.
-/

namespace TemplateEngine.Value

mutual

/-- The JSON form of a value. -/
def toJson : Value → Json
  | null => .null
  | bool flag => .bool flag
  | int number => .int number
  | float number =>
    if number.isFinite then .number (Number.Layout.json.write number) else .null
  | text content => .text content
  | list items => .array (itemsToJson items)
  | map entries => .object (entriesToJson entries)

/-- The JSON forms of the items of a list. -/
def itemsToJson : List Value → List Json
  | [] => []
  | item :: items => toJson item :: itemsToJson items

/-- The JSON members for the entries of a map. -/
def entriesToJson : List (String × Value) → List (Option String × Json)
  | [] => []
  | (name, item) :: entries => (some name, toJson item) :: entriesToJson entries

end

/-- Takes digits into a number as long as it has 64 bits: the number, and how
many were taken. -/
def absorb : (significand : Nat) → List Char → Nat × Nat
  | significand, [] => (significand, 0)
  | significand, digit :: digits =>
    let next := significand * 10 + Number.digitValue digit
    if Number.isCount next then
      let (result, taken) := absorb next digits
      (result, taken + 1)
    else (significand, 0)

/-- The greatest power of ten that numbers are multiplied by at once. -/
def greatestPower : Nat := 308

/-- Multiplies a number by a power of ten.  A number that becomes infinite is
out of range. -/
def scale : (steps : Nat) → Number.Binary64 → Int → Option Number.Binary64
  | 0, number, _ => some number
  | steps + 1, number, exponent =>
    let power (exponent : Nat) : Nat :=
      Number.Binary64.nearestDecimal 1 exponent
    if exponent.natAbs ≤ greatestPower then
      if 0 ≤ exponent then
        let product := number.scaleUp (power exponent.natAbs)
        if product.isFinite then some product else none
      else some (number.scaleDown (power exponent.natAbs))
    else if !number.isNonzero then some number
    else if 0 ≤ exponent then none
    else scale steps (number.scaleDown (power greatestPower))
      (exponent + greatestPower)

/-- The floating point number of a JSON number. -/
def floatOfLiteral? (literal : List Char) : Option Number.Binary64 :=
  let negative := literal.head? == some '-'
  let digits := if negative then literal.drop 1 else literal
  let whole := digits.takeWhile Text.isAsciiDigit
  let afterWhole := digits.dropWhile Text.isAsciiDigit
  let hasPoint := afterWhole.head? == some '.'
  let fraction :=
    if hasPoint then (afterWhole.drop 1).takeWhile Text.isAsciiDigit else []
  let afterFraction :=
    if hasPoint then (afterWhole.drop 1).dropWhile Text.isAsciiDigit
    else afterWhole
  let exponent := (Number.Binary64.readExponent? (afterFraction.drop 1)).getD 0
  let (significand, taken) := absorb 0 whole
  let (significand, fractionTaken) := absorb significand fraction
  let exponent := exponent + (whole.length - taken : Nat) - fractionTaken
  (scale 5 (Number.Binary64.ofInt significand) exponent).map fun number =>
    if negative then number.negate else number

/-- The value of a JSON number. -/
def ofLiteral? (literal : List Char) : Option Value :=
  match Json.Decoder.int 0 (.number literal) with
  | some number => some (int number)
  | none => (floatOfLiteral? literal).map float

mutual

/-- The value of a JSON value that is nested within a number of levels. -/
def ofJson? : Nat → Json → Option Value
  | _, .null => some null
  | _, .bool flag => some (bool flag)
  | _, .number literal => ofLiteral? literal
  | _, .string content => content.map text
  | 0, .array _ => none
  | levels + 1, .array items => (itemsOfJson? levels items).map list
  | 0, .object _ => none
  | levels + 1, .object members =>
    (entriesOfJson? levels members).map fun entries =>
      map (Table.ofEntries entries)

/-- The values of the items of a JSON array. -/
def itemsOfJson? : Nat → List Json → Option (List Value)
  | _, [] => some []
  | levels, item :: items =>
    match ofJson? levels item, itemsOfJson? levels items with
    | some item, some items => some (item :: items)
    | _, _ => none

/-- The values of the members of a JSON object. -/
def entriesOfJson? :
    Nat → List (Option String × Json) → Option (List (String × Value))
  | _, [] => some []
  | levels, (name, value) :: members =>
    match name, ofJson? levels value, entriesOfJson? levels members with
    | some name, some value, some members => some ((name, value) :: members)
    | _, _, _ => none

end

/-- Reads a value from JSON text. -/
def readJson? (text : List Char) : Option Value :=
  (Json.read? text).bind (ofJson? Json.levels)

end TemplateEngine.Value
