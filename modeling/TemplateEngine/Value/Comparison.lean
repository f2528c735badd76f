import TemplateEngine.Value.Basic

/-!
# Comparing values

Conditions compare loosely: as truth values if one side is one or is `null`, as
numbers if both sides stand for numbers, and otherwise by their text.  Equality
of data is strict: the kinds agree, and the entries of maps agree in any order.
-/

namespace TemplateEngine.Value

/-- Loose equality, as the conditions of templates use it. -/
def looseEquals (left right : Value) : Bool :=
  match left, right with
  | null, null => true
  | bool _, _ => left.isTruthy == right.isTruthy
  | _, bool _ => left.isTruthy == right.isTruthy
  | null, _ => left.isTruthy == right.isTruthy
  | _, null => left.isTruthy == right.isTruthy
  | _, _ =>
    match left.number?, right.number? with
    | some leftNumber, some rightNumber => leftNumber.equals rightNumber
    | _, _ => left.toText == right.toText

/-- The order of two values that stand for numbers, or of two texts by their
code points. -/
def compare? (left right : Value) : Option Ordering :=
  match left.number?, right.number? with
  | some leftNumber, some rightNumber => leftNumber.compare? rightNumber
  | _, _ =>
    match left, right with
    | text leftText, text rightText => some (compare leftText rightText)
    | _, _ => none

mutual

def equals : Value → Value → Bool
  | null, null => true
  | bool left, bool right => left == right
  | int left, int right => left == right
  | float left, float right => left.equals right
  | text left, text right => left == right
  | list left, list right => equalItems left right
  | map left, map right =>
    left.length == right.length && equalEntries left right
  | _, _ => false

/-- Equality of the items of two lists. -/
def equalItems : List Value → List Value → Bool
  | [], [] => true
  | left :: lefts, right :: rights =>
    equals left right && equalItems lefts rights
  | _, _ => false

/-- Whether every entry has its equal in a map. -/
def equalEntries : List (String × Value) → List (String × Value) → Bool
  | [], _ => true
  | (name, left) :: lefts, rights =>
    (match Table.get? rights name with
      | some right => equals left right
      | none => false) && equalEntries lefts rights

end

end TemplateEngine.Value
