import TemplateEngine.Number.Whole

/-!
# Numbers that are written are read back

The digits of a number stand for it, and they start with a zero only if the
number is zero.
-/

namespace TemplateEngine.Number

theorem isAsciiDigit_of_isDigit {digit : Char}
    (isDigit : digit.isDigit = true) : Text.isAsciiDigit digit = true := by
  simp only [Char.isDigit, Bool.and_eq_true, decide_eq_true_eq] at isDigit
  simp only [Text.isAsciiDigit, Bool.and_eq_true, decide_eq_true_eq]
  exact ⟨isDigit.1, isDigit.2⟩

theorem isAsciiDigit_of_mem_naturalText (number : Nat) {digit : Char}
    (member : digit ∈ naturalText number) : Text.isAsciiDigit digit = true :=
  isAsciiDigit_of_isDigit
    (Nat.isDigit_of_mem_toDigits (by decide) (by decide) member)

theorem naturalFrom_eq_ofDigitChars (high : Nat) (digits : List Char) :
    naturalFrom high digits = Nat.ofDigitChars 10 digits high := by
  rw [naturalFrom, Nat.ofDigitChars_eq_foldl]
  congr 1
  funext number digit
  rw [Nat.mul_comm]
  rfl

theorem natural?_naturalText (number : Nat) :
    natural? (naturalText number) = some number := by
  have notEmpty : (naturalText number).isEmpty = false := by
    simp [naturalText]
  have digits : (naturalText number).all Text.isAsciiDigit = true := by
    rw [List.all_eq_true]
    exact fun _ => isAsciiDigit_of_mem_naturalText number
  rw [natural?, notEmpty, digits, naturalFrom_eq_ofDigitChars, naturalText,
    Nat.ofDigitChars_ten_toDigits]
  rfl

/-- A number starts with a digit. -/
theorem exists_naturalText_eq_cons (number : Nat) :
    ∃ digit digits, naturalText number = digit :: digits ∧
      Text.isAsciiDigit digit = true := by
  cases written : naturalText number with
  | nil => exact absurd written Nat.toDigits_ne_nil
  | cons digit digits =>
      refine ⟨digit, digits, rfl, isAsciiDigit_of_mem_naturalText number ?_⟩
      rw [written]
      exact List.mem_cons_self

/-- A number that is not zero does not start with a zero. -/
theorem head?_naturalText {number : Nat} (positive : number ≠ 0) :
    (naturalText number).head? ≠ some '0' := by
  induction number using Nat.strongRecOn with
  | ind number induction =>
      rw [naturalText, Nat.toDigits_eq_if (by decide)]
      split
      next small =>
        have digits : ∀ digit < 10,
            digit ≠ 0 → [Nat.digitChar digit].head? ≠ some '0' := by decide
        exact digits number small positive
      next large =>
        have inner := induction (number / 10) (by omega) (by omega)
        rw [naturalText] at inner
        cases written : Nat.toDigits 10 (number / 10) with
        | nil => exact absurd written Nat.toDigits_ne_nil
        | cons digit digits =>
            rw [written] at inner
            exact inner

/-- A number is written without a sign. -/
theorem naturalText_ne_sign {number : Nat} {sign : Char}
    (noDigit : Text.isAsciiDigit sign = false) (digits : List Char) :
    naturalText number ≠ sign :: digits := by
  intro same
  have isDigit :=
    isAsciiDigit_of_mem_naturalText number (same ▸ List.mem_cons_self)
  rw [noDigit] at isDigit
  cases isDigit

theorem count?_naturalText {number : Nat} (counts : isCount number = true) :
    count? (naturalText number) = some number := by
  unfold count?
  split
  next digits same => exact absurd same (naturalText_ne_sign (by decide) digits)
  next => simp [natural?_naturalText, counts]

theorem integer?_integerText {number : Int}
    (bounded : isInteger number = true) :
    integer? (integerText number) = some number := by
  cases number with
  | ofNat number =>
      unfold integerText integer?
      split
      next digits same =>
        exact absurd same (naturalText_ne_sign (by decide) digits)
      next digits same =>
        exact absurd same (naturalText_ne_sign (by decide) digits)
      next =>
        rw [natural?_naturalText]
        exact Option.filter_eq_some_iff.mpr ⟨rfl, bounded⟩
  | negSucc number =>
      rw [integerText, integer?, natural?_naturalText]
      exact Option.filter_eq_some_iff.mpr ⟨rfl, bounded⟩

/-- Minus zero is not written. -/
theorem integerText_ne_minus_zero (number : Int) :
    integerText number ≠ ['-', '0'] := by
  cases number with
  | ofNat number => exact naturalText_ne_sign (by decide) _
  | negSucc number =>
      intro same
      have head := head?_naturalText (Nat.succ_ne_zero number)
      rw [(List.cons.inj same).2] at head
      exact head rfl

/-- What is read as an integer is one of 64 bits. -/
theorem isInteger_of_integer? {text : List Char} {number : Int}
    (read : integer? text = some number) : isInteger number = true :=
  (Option.filter_eq_some_iff.mp read).2

end TemplateEngine.Number
