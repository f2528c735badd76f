import TemplateEngine.Value.Comparison

/-!
# Equality and order of values

Loose equality does not depend on the sides, and the order of two values turns
around with them.  Every value equals itself but for what stands for the number
that is none: that number, and the texts that spell it, such as the name `Nan`.

Where neither side is a truth value, equal values have no other order.  A truth
value is compared by truth but ordered as a number, so that true equals values
that it is less or greater than: those that count as true and stand for a number
other than one.
-/

namespace TemplateEngine

/-! ## Numbers -/

namespace Number

/-- A text without the sign in front of it. -/
def withoutSign : List Char → List Char
  | '-' :: rest => rest
  | '+' :: rest => rest
  | text => text

/-- Whether a text is the word for no number, in any case and with a sign or
without. -/
def spellsNaN (text : List Char) : Bool :=
  (withoutSign text).map Char.toLower == ['n', 'a', 'n']

namespace Binary64

variable {left right : Binary64}

/-- Reads a number whose sign is known. -/
def readUnsigned? (negative : Bool) (text : List Char) : Option Binary64 :=
  let word := String.ofList (text.map Char.toLower)
  if word = "nan" then some nan
  else if word = "inf" || word = "infinity" then some (signed negative infinity)
  else (readMagnitude? text).map (signed negative)

theorem exists_read?_eq (text : List Char) :
    ∃ negative, read? text = readUnsigned? negative (withoutSign text) := by
  cases text with
  | nil => exact ⟨false, rfl⟩
  | cons first rest =>
      by_cases minus : first = '-'
      · subst minus
        exact ⟨true, rfl⟩
      · by_cases plus : first = '+'
        · subst plus
          exact ⟨false, rfl⟩
        · refine ⟨false, ?_⟩
          simp [read?, readUnsigned?, withoutSign, minus, plus]

/-- The only text that is read as no number is the word for it. -/
theorem read?_eq_nan_iff {text : List Char} :
    read? text = some nan ↔ spellsNaN text = true := by
  obtain ⟨negative, shape⟩ := exists_read?_eq text
  have isWord : String.ofList ((withoutSign text).map Char.toLower) = "nan" ↔
      spellsNaN text = true := by
    rw [spellsNaN, beq_iff_eq, ← String.toList_inj, String.toList_ofList]
    rfl
  rw [shape, ← isWord, readUnsigned?]
  constructor
  · intro found
    split at found
    next word => exact word
    next =>
      split at found
      · cases found
      · simp at found
  · intro word
    simp [word]

theorem equals_comm (left right : Binary64) :
    left.equals right = right.equals left := by
  unfold equals
  cases left.order? with
  | none => cases right.order? <;> rfl
  | some place =>
      cases right.order? with
      | none => rfl
      | some other => exact Bool.beq_comm

theorem equals_self_iff {number : Binary64} :
    number.equals number = true ↔ number ≠ nan := by
  cases number with
  | nan => simp [equals, order?]
  | signed negative place => simp [equals, order?]

theorem compare?_swap (left right : Binary64) :
    right.compare? left = (left.compare? right).map Ordering.swap := by
  unfold compare?
  cases left.order? with
  | none => cases right.order? <;> rfl
  | some place =>
      cases right.order? with
      | none => rfl
      | some other => exact congrArg some Std.OrientedCmp.eq_swap

theorem equals_iff_compare?_eq :
    left.equals right = true ↔ left.compare? right = some .eq := by
  unfold equals compare?
  cases left.order? with
  | none => cases right.order? <;> simp
  | some place =>
      cases right.order? with
      | none => simp
      | some other => simp [Std.LawfulEqCmp.compare_eq_iff_eq]

/-- Only what is no number has no order. -/
theorem exists_compare?_eq (leftSome : left ≠ nan) (rightSome : right ≠ nan) :
    ∃ order, left.compare? right = some order := by
  cases left with
  | nan => exact absurd rfl leftSome
  | signed _ _ =>
      cases right with
      | nan => exact absurd rfl rightSome
      | signed _ _ => exact ⟨_, rfl⟩

end Binary64

end Number

namespace Value

open Number

variable {left right value : Value}

/-! ## Equality -/

/-- Whether a value is a truth value or none at all. -/
def isLogical : Value → Bool
  | null => true
  | bool _ => true
  | _ => false

/-- Whether the numbers of two values are equal, or their texts if one of them
is no number. -/
def contentEquals (left right : Value) : Bool :=
  match left.number?, right.number? with
  | some leftNumber, some rightNumber => leftNumber.equals rightNumber
  | _, _ => left.toText == right.toText

/-- Whether a value stands for the number that is none: as a number, or as a
text that spells it. -/
def isNaN : Value → Bool
  | float number => number == .nan
  | text content => spellsNaN (Text.trim content.toList)
  | _ => false

theorem looseEquals_of_isLogical
    (logical : left.isLogical = true ∨ right.isLogical = true) :
    looseEquals left right = (left.isTruthy == right.isTruthy) := by
  unfold looseEquals
  split
  case h_6 =>
      exfalso
      cases left <;> cases right <;> simp_all [isLogical]
  all_goals rfl

theorem looseEquals_of_plain (leftPlain : left.isLogical = false)
    (rightPlain : right.isLogical = false) :
    looseEquals left right = contentEquals left right := by
  unfold looseEquals
  split
  case h_6 => rfl
  all_goals simp [isLogical] at leftPlain rightPlain

theorem contentEquals_comm (left right : Value) :
    contentEquals left right = contentEquals right left := by
  unfold contentEquals
  cases left.number? with
  | none => cases right.number? <;> exact Bool.beq_comm
  | some number =>
      cases right.number? with
      | none => exact Bool.beq_comm
      | some other => exact Binary64.equals_comm number other

theorem looseEquals_comm (left right : Value) :
    looseEquals left right = looseEquals right left := by
  by_cases logical : left.isLogical = true ∨ right.isLogical = true
  · rw [looseEquals_of_isLogical logical, looseEquals_of_isLogical logical.symm]
    exact Bool.beq_comm
  · simp only [not_or, Bool.not_eq_true] at logical
    obtain ⟨leftPlain, rightPlain⟩ := logical
    rw [looseEquals_of_plain leftPlain rightPlain,
      looseEquals_of_plain rightPlain leftPlain, contentEquals_comm]

theorem number?_eq_nan_iff :
    value.number? = some .nan ↔ value.isNaN = true := by
  cases value with
  | float number => simp [number?, isNaN]
  | text content => exact Binary64.read?_eq_nan_iff
  | bool flag =>
      cases flag <;>
        simp [number?, isNaN, Binary64.zero, Binary64.one, Binary64.ofInt,
          Binary64.ofQuotient]
  | int number => simp [number?, isNaN, Binary64.ofInt, Binary64.ofQuotient]
  | null | list _ | map _ => simp [number?, isNaN]

/-- A value equals itself unless it stands for the number that is none. -/
theorem looseEquals_self (value : Value) :
    looseEquals value value = !value.isNaN := by
  cases logical : value.isLogical with
  | true =>
      rw [looseEquals_of_isLogical (.inl logical)]
      cases value <;> simp_all [isLogical, isNaN]
  | false =>
      rw [looseEquals_of_plain logical logical, contentEquals, Bool.eq_iff_iff,
        Bool.not_eq_true', ← Bool.not_eq_true, ← number?_eq_nan_iff]
      cases value.number? with
      | none => simp
      | some number => simp [Binary64.equals_self_iff]

/-! ## Order -/

/-- The order of two texts by their code points; other values have none. -/
def textOrder? (left right : Value) : Option Ordering :=
  match left, right with
  | text leftText, text rightText => some (compare leftText rightText)
  | _, _ => none

theorem textOrder?_swap (left right : Value) :
    textOrder? right left = (textOrder? left right).map Ordering.swap := by
  cases left <;> cases right
  case text.text leftText rightText =>
    exact congrArg some Std.OrientedCmp.eq_swap
  all_goals rfl

theorem compare?_of_numbers {leftNumber rightNumber : Binary64}
    (leftIs : left.number? = some leftNumber)
    (rightIs : right.number? = some rightNumber) :
    compare? left right = leftNumber.compare? rightNumber := by
  unfold compare?
  rw [leftIs, rightIs]

theorem compare?_of_none
    (missing : left.number? = none ∨ right.number? = none) :
    compare? left right = textOrder? left right := by
  unfold compare?
  split
  next leftIs rightIs => simp [leftIs, rightIs] at missing
  next => rfl

/-- The order of two values turns around with their sides. -/
theorem compare?_swap (left right : Value) :
    compare? right left = (compare? left right).map Ordering.swap := by
  cases leftIs : left.number? with
  | none =>
      rw [compare?_of_none (.inl leftIs), compare?_of_none (.inr leftIs)]
      exact textOrder?_swap left right
  | some number =>
      cases rightIs : right.number? with
      | none =>
          rw [compare?_of_none (.inl rightIs), compare?_of_none (.inr rightIs)]
          exact textOrder?_swap left right
      | some other =>
          rw [compare?_of_numbers leftIs rightIs,
            compare?_of_numbers rightIs leftIs]
          exact Binary64.compare?_swap number other

theorem textOrder?_of_toText_eq {order : Ordering}
    (same : left.toText = right.toText)
    (ordered : textOrder? left right = some order) : order = .eq := by
  unfold textOrder? at ordered
  split at ordered
  next leftText rightText =>
    have texts : leftText = rightText := by
      simpa [toText, print] using same
    simpa [texts] using ordered.symm
  next => cases ordered

/-- Where neither side is a truth value, equal values have no other order. -/
theorem compare?_of_contentEquals {order : Ordering}
    (same : contentEquals left right = true)
    (ordered : compare? left right = some order) : order = .eq := by
  unfold contentEquals at same
  split at same
  next number other leftIs rightIs =>
    rw [compare?_of_numbers leftIs rightIs,
      Binary64.equals_iff_compare?_eq.mp same] at ordered
    exact (Option.some.inj ordered).symm
  next noNumbers =>
    apply textOrder?_of_toText_eq (beq_iff_eq.mp same)
    rw [← ordered, compare?_of_none]
    cases leftIs : left.number? with
    | none => exact .inl rfl
    | some number =>
        cases rightIs : right.number? with
        | none => exact .inr rfl
        | some other => exact absurd rightIs (noNumbers number other leftIs)

theorem compare?_of_looseEquals {order : Ordering}
    (leftOther : ∀ flag, left ≠ bool flag)
    (rightOther : ∀ flag, right ≠ bool flag)
    (same : looseEquals left right = true)
    (ordered : compare? left right = some order) : order = .eq := by
  have eq_null {value : Value} (other : ∀ flag, value ≠ bool flag)
      (logical : value.isLogical = true) : value = null := by
    cases value <;> simp_all [isLogical]
  cases leftLogical : left.isLogical with
  | true =>
      obtain rfl := eq_null leftOther leftLogical
      rw [compare?_of_none (.inl rfl)] at ordered
      cases ordered
  | false =>
      cases rightLogical : right.isLogical with
      | true =>
          obtain rfl := eq_null rightOther rightLogical
          rw [compare?_of_none (.inr rfl)] at ordered
          cases left <;> cases ordered
      | false =>
          rw [looseEquals_of_plain leftLogical rightLogical] at same
          exact compare?_of_contentEquals same ordered

/-! ## Truth values -/

/-- Whether a value counts as true and stands for a number other than one. -/
def IsOtherTruth (value : Value) : Prop :=
  value.isTruthy = true ∧
    ∃ number, value.number? = some number ∧ number ≠ .nan ∧
      Binary64.one.equals number = false

/-- What does not count as true and stands for a number stands for zero. -/
theorem compare?_zero_of_not_isTruthy {number : Binary64}
    (falsy : value.isTruthy = false) (isNumber : value.number? = some number) :
    Binary64.zero.compare? number = some .eq := by
  cases value with
  | null | list _ | map _ => cases isNumber
  | bool flag =>
      obtain rfl : flag = false := falsy
      cases isNumber
      rfl
  | int integer =>
      obtain rfl : integer = 0 := by simpa [isTruthy] using falsy
      cases isNumber
      decide +kernel
  | float float =>
      cases isNumber
      cases number with
      | nan => cases falsy
      | signed negative place =>
          obtain rfl : place = 0 := by
            simpa [isTruthy, Binary64.isNonzero] using falsy
          cases negative <;> rfl
  | text content =>
      have either : content = "" ∨ content = "0" := by
        simp only [isTruthy, Bool.and_eq_false_iff, bne_eq_false_iff_eq]
          at falsy
        exact falsy
      rcases either with rfl | rfl
      · have none : number? (text "") = none := by decide +kernel
        rw [none] at isNumber
        cases isNumber
      · have zero : number? (text "0") = some .zero := by decide +kernel
        rw [zero] at isNumber
        cases isNumber
        rfl

/-- Whether two values are equal and yet one is less than the other. -/
def Overlap (left right : Value) : Prop :=
  looseEquals left right = true ∧
    ∃ order, compare? left right = some order ∧ order ≠ .eq

theorem Overlap.symm (overlap : Overlap left right) : Overlap right left := by
  obtain ⟨same, order, ordered, other⟩ := overlap
  refine ⟨by rwa [looseEquals_comm], order.swap, ?_, ?_⟩
  · rw [compare?_swap, ordered]
    rfl
  · cases order <;> simp at other ⊢

/-- Of the truth values only true equals values that it is less or greater
than. -/
theorem overlap_bool_iff {flag : Bool} :
    Overlap (bool flag) value ↔ flag = true ∧ value.IsOtherTruth := by
  rw [Overlap, looseEquals_of_isLogical (.inl rfl), beq_iff_eq]
  constructor
  · rintro ⟨same, order, ordered, other⟩
    cases isNumber : value.number? with
    | none =>
        rw [compare?_of_none (.inr isNumber)] at ordered
        cases ordered
    | some number =>
        cases flag with
        | false =>
            rw [compare?_of_numbers rfl isNumber] at ordered
            have zero := compare?_zero_of_not_isTruthy same.symm isNumber
            exact absurd (Option.some.inj (ordered.symm.trans zero)) other
        | true =>
            rw [compare?_of_numbers rfl isNumber] at ordered
            refine ⟨rfl, same.symm, number, isNumber, ?_, ?_⟩
            · rintro rfl
              cases ordered
            · rw [← Bool.not_eq_true, Binary64.equals_iff_compare?_eq]
              intro equal
              exact other (Option.some.inj (ordered.symm.trans equal))
  · rintro ⟨rfl, truthy, number, isNumber, isSome, unequal⟩
    obtain ⟨order, ordered⟩ :=
      Binary64.exists_compare?_eq (by decide : Binary64.one ≠ .nan) isSome
    refine ⟨truthy.symm, order, ?_, ?_⟩
    · rw [compare?_of_numbers rfl isNumber]
      exact ordered
    · rintro rfl
      rw [Binary64.equals_iff_compare?_eq.mpr ordered] at unequal
      cases unequal

theorem overlap_iff :
    Overlap left right ↔
      (left = bool true ∧ right.IsOtherTruth) ∨
        (right = bool true ∧ left.IsOtherTruth) := by
  constructor
  · intro overlap
    by_cases leftBool : ∃ flag, left = bool flag
    · obtain ⟨flag, rfl⟩ := leftBool
      obtain ⟨rfl, isOther⟩ := overlap_bool_iff.mp overlap
      exact .inl ⟨rfl, isOther⟩
    · by_cases rightBool : ∃ flag, right = bool flag
      · obtain ⟨flag, rfl⟩ := rightBool
        obtain ⟨rfl, isOther⟩ := overlap_bool_iff.mp overlap.symm
        exact .inr ⟨rfl, isOther⟩
      · obtain ⟨same, order, ordered, other⟩ := overlap
        simp only [not_exists] at leftBool rightBool
        exact absurd (compare?_of_looseEquals leftBool rightBool same ordered)
          other
  · rintro (⟨rfl, isOther⟩ | ⟨rfl, isOther⟩)
    · exact overlap_bool_iff.mpr ⟨rfl, isOther⟩
    · exact (overlap_bool_iff.mpr ⟨rfl, isOther⟩).symm

end Value

end TemplateEngine
