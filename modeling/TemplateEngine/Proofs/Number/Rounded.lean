import Mathlib
import TemplateEngine.Number.Binary64

/-!
# Integers as floating point numbers

A floating point number has 53 binary digits.  An integer with more digits is
taken for the nearest one that has zeros after the first 53, of two equally near
ones for that with an even last digit.  Different integers may be taken for the
same number, but none for one beyond another.
-/

namespace TemplateEngine.Number

namespace Binary64

/-! ## Rounded quotients -/

theorem le_roundQuotient (numerator denominator : Nat) :
    numerator / denominator ≤ roundQuotient numerator denominator := by
  unfold roundQuotient
  dsimp only
  split
  · exact Nat.le_refl _
  · split <;> omega

theorem roundQuotient_le (numerator denominator : Nat) :
    roundQuotient numerator denominator ≤ numerator / denominator + 1 := by
  unfold roundQuotient
  dsimp only
  split
  · omega
  · split <;> omega

/-- A quotient without a remainder is not rounded. -/
theorem roundQuotient_mul_self (quotient : Nat) {denominator : Nat}
    (positive : 0 < denominator) :
    roundQuotient (quotient * denominator) denominator = quotient := by
  simp [roundQuotient, Nat.mul_div_cancel _ positive, positive]

theorem roundQuotient_mul_right (numerator denominator : Nat) {factor : Nat}
    (positive : 0 < factor) :
    roundQuotient (numerator * factor) (denominator * factor) =
      roundQuotient numerator denominator := by
  have lower : 2 * (numerator % denominator * factor) < denominator * factor ↔
      2 * (numerator % denominator) < denominator := by
    rw [← Nat.mul_assoc, Nat.mul_lt_mul_right positive]
  have upper : denominator * factor < 2 * (numerator % denominator * factor) ↔
      denominator < 2 * (numerator % denominator) := by
    rw [← Nat.mul_assoc, Nat.mul_lt_mul_right positive]
  simp only [roundQuotient, Nat.mul_div_mul_right _ _ positive,
    Nat.mul_mod_mul_right, lower, upper]

theorem roundQuotient_mono {less more : Nat} (le : less ≤ more)
    (denominator : Nat) :
    roundQuotient less denominator ≤ roundQuotient more denominator := by
  rcases Nat.lt_or_eq_of_le (Nat.div_le_div_right (c := denominator) le) with
    below | same
  · calc
      roundQuotient less denominator ≤ less / denominator + 1 :=
        roundQuotient_le _ _
      _ ≤ more / denominator := below
      _ ≤ roundQuotient more denominator := le_roundQuotient _ _
  · have remainder : less % denominator ≤ more % denominator := by
      have whole := Nat.div_add_mod less denominator
      have wholeMore := Nat.div_add_mod more denominator
      rw [same] at whole
      omega
    unfold roundQuotient
    dsimp only
    rw [same]
    repeat' split
    all_goals omega

/-- Rounding moves a quotient by at most a half. -/
theorem two_mul_roundQuotient_le (numerator : Nat) {denominator : Nat}
    (positive : 0 < denominator) :
    2 * (roundQuotient numerator denominator * denominator) ≤
        2 * numerator + denominator ∧
      2 * numerator ≤
        2 * (roundQuotient numerator denominator * denominator) +
          denominator := by
  have whole := Nat.div_add_mod' numerator denominator
  have small := Nat.mod_lt numerator positive
  unfold roundQuotient
  dsimp only
  generalize numerator / denominator = quotient at *
  have next :
      (quotient + 1) * denominator = quotient * denominator + denominator :=
    Nat.succ_mul _ _
  split
  · omega
  · split
    · omega
    · rcases Nat.mod_two_eq_zero_or_one quotient with even | odd
      · rw [even, Nat.add_zero]
        omega
      · rw [odd]
        omega

/-! ## Magnitudes -/

theorem units_of_lt {place : Nat} (small : place < 2 ^ 52) :
    units place = place :=
  if_pos small

/-- The places of an octave are as far apart as a power of two says. -/
theorem units_octave (octave : Nat) {digits : Nat} (lower : 2 ^ 52 ≤ digits)
    (upper : digits ≤ 2 ^ 53) :
    units (octave * 2 ^ 52 + digits) = digits * 2 ^ octave := by
  have large : ¬ octave * 2 ^ 52 + digits < Nat.pow 2 52 := by
    rw [Nat.pow_eq]
    omega
  rw [units, if_neg large]
  simp only [Nat.pow_eq]
  -- All digits set and one more make the first place of the next octave.
  rcases Nat.lt_or_eq_of_le upper with inside | rfl
  · have above : (octave * 2 ^ 52 + digits) / 2 ^ 52 = octave + 1 := by omega
    have within : (octave * 2 ^ 52 + digits) % 2 ^ 52 = digits - 2 ^ 52 := by
      omega
    rw [above, within, Nat.add_sub_cancel, Nat.add_sub_cancel' lower]
  · have above : (octave * 2 ^ 52 + 2 ^ 53) / 2 ^ 52 = octave + 1 + 1 := by
      omega
    have within : (octave * 2 ^ 52 + 2 ^ 53) % 2 ^ 52 = 0 := by omega
    rw [above, within, Nat.add_sub_cancel, Nat.add_zero, Nat.pow_succ]
    omega

theorem strictMono_units : StrictMono units := by
  refine strictMono_nat_of_lt_succ fun place => ?_
  rcases Nat.lt_or_ge (place + 1) (2 ^ 52) with small | large
  · rw [units_of_lt small, units_of_lt (Nat.lt_of_succ_lt small)]
    exact Nat.lt_succ_self place
  · rcases Nat.eq_or_lt_of_le large with first | further
    · have digits := units_octave 0 (Nat.le_refl _) (by decide)
      rw [Nat.zero_mul, Nat.zero_add, Nat.pow_zero, Nat.mul_one, first]
        at digits
      rw [digits, units_of_lt (by omega)]
      exact Nat.lt_succ_self place
    · obtain ⟨octave, digits, rfl, lower, upper⟩ :
          ∃ octave digits, place = octave * 2 ^ 52 + digits ∧ 2 ^ 52 ≤ digits ∧
            digits < 2 ^ 53 :=
        ⟨place / 2 ^ 52 - 1, place - (place / 2 ^ 52 - 1) * 2 ^ 52, by omega,
          by omega, by omega⟩
      rw [Nat.add_assoc, units_octave octave lower upper.le,
        units_octave octave (Nat.le_succ_of_le lower) upper]
      exact Nat.mul_lt_mul_of_pos_right (Nat.lt_succ_self digits)
        (Nat.two_pow_pos octave)

end Binary64

/-! ## Rounded integers -/

/-- A natural number with zeros after its first 53 binary digits, nearest to a
number; of two that are equally near, the one whose last digit before the zeros
is even. -/
def significant (number : Nat) : Nat :=
  Binary64.roundQuotient number (2 ^ (number.log2 - 52)) *
    2 ^ (number.log2 - 52)

/-- An integer whose magnitude is changed and whose sign is kept. -/
def withSign (change : Nat → Nat) (number : Int) : Int :=
  number.sign * change number.natAbs

/-- The integer that an integer is taken for as a floating point number. -/
def rounded : Int → Int :=
  withSign significant

open Binary64

/-- A number of at most 53 binary digits is not rounded. -/
theorem significant_of_le {number : Nat} (small : number ≤ 2 ^ 53) :
    significant number = number := by
  rw [significant]
  rcases Nat.lt_or_eq_of_le small with below | rfl
  · have short : number.log2 - 52 = 0 := by
      rcases Nat.eq_zero_or_pos number with rfl | positive
      · rfl
      · have := (Nat.log2_lt positive.ne').mpr below
        omega
    rw [short, Nat.pow_zero, Nat.mul_one, ← Nat.mul_one number,
      roundQuotient_mul_self number Nat.one_pos, Nat.mul_one]
  · rfl

/-- Rounding keeps the number of digits, or carries into the next one. -/
theorem significant_bounds {number : Nat} (positive : number ≠ 0) :
    2 ^ number.log2 ≤ significant number ∧
      significant number ≤ 2 ^ (number.log2 + 1) := by
  have lower : 2 ^ number.log2 ≤ number := Nat.log2_self_le positive
  have upper : number < 2 ^ (number.log2 + 1) := Nat.lt_log2_self
  rcases Nat.lt_or_ge number.log2 52 with short | long
  · have small : number ≤ 2 ^ 53 :=
      upper.le.trans (Nat.pow_le_pow_right Nat.two_pos (by omega))
    rw [significant_of_le small]
    exact ⟨lower, upper.le⟩
  · rw [significant]
    generalize split : number.log2 - 52 = zeros at *
    have log : number.log2 = 52 + zeros := by omega
    rw [log] at lower upper ⊢
    have positiveStep : 0 < 2 ^ zeros := Nat.two_pow_pos zeros
    have below : roundQuotient (2 ^ 52 * 2 ^ zeros) (2 ^ zeros) ≤
        roundQuotient number (2 ^ zeros) :=
      roundQuotient_mono (by rwa [← Nat.pow_add]) _
    have above : roundQuotient number (2 ^ zeros) ≤
        roundQuotient (2 ^ 53 * 2 ^ zeros) (2 ^ zeros) :=
      roundQuotient_mono
        (by rw [← Nat.pow_add, Nat.add_right_comm 52 1]; exact upper.le) _
    rw [roundQuotient_mul_self _ positiveStep] at below above
    constructor
    · rw [Nat.pow_add]
      exact Nat.mul_le_mul_right _ below
    · rw [Nat.add_right_comm, Nat.pow_add]
      exact Nat.mul_le_mul_right _ above

/-- Rounding moves a number of 64 bits by at most a half of its last digit. -/
theorem significant_near {number : Nat} (bounded : number ≤ 2 ^ 63) :
    significant number ≤ number + 512 ∧ number ≤ significant number + 512 := by
  rcases Nat.lt_or_eq_of_le bounded with below | rfl
  · have near :=
      two_mul_roundQuotient_le number (Nat.two_pow_pos (number.log2 - 52))
    have zeros : 2 ^ (number.log2 - 52) ≤ 2 ^ 10 := by
      refine Nat.pow_le_pow_right Nat.two_pos ?_
      rcases Nat.eq_zero_or_pos number with rfl | positive
      · exact Nat.zero_le _
      · have := (Nat.log2_lt positive.ne').mpr below
        omega
    rw [significant]
    omega
  · have exact : significant (2 ^ 63) = 2 ^ 63 := by decide +kernel
    rw [exact]
    decide

theorem significant_mono {less more : Nat} (le : less ≤ more) :
    significant less ≤ significant more := by
  rcases Nat.eq_zero_or_pos less with rfl | positive
  · exact Nat.zero_le _
  have positiveMore : more ≠ 0 := by omega
  have logs : less.log2 ≤ more.log2 := by
    rw [Nat.log2_eq_log_two, Nat.log2_eq_log_two]
    exact Nat.log_mono_right le
  rcases Nat.lt_or_eq_of_le logs with fewer | same
  · calc
      significant less ≤ 2 ^ (less.log2 + 1) :=
        (significant_bounds positive.ne').2
      _ ≤ 2 ^ more.log2 := Nat.pow_le_pow_right Nat.two_pos fewer
      _ ≤ significant more := (significant_bounds positiveMore).1
  · rw [significant, significant, same]
    exact Nat.mul_le_mul_right _ (roundQuotient_mono le _)

theorem log2_mul_two_pow {number : Nat} (positive : number ≠ 0)
    (exponent : Nat) :
    (number * 2 ^ exponent).log2 = number.log2 + exponent := by
  rw [Nat.log2_eq_iff (Nat.mul_ne_zero positive (Nat.two_pow_pos exponent).ne'),
    Nat.add_right_comm, Nat.pow_add, Nat.pow_add]
  exact ⟨Nat.mul_le_mul_right _ (Nat.log2_self_le positive),
    Nat.mul_lt_mul_of_pos_right Nat.lt_log2_self (Nat.two_pow_pos exponent)⟩

/-- Rounding to the last digit of a scaled number is rounding the number, and
scaling. -/
theorem roundQuotient_scaled {number exponent : Nat} (large : 52 ≤ exponent) :
    roundQuotient (number * 2 ^ exponent) (2 ^ (number.log2 + exponent - 52)) *
        2 ^ (number.log2 + exponent - 52) =
      significant number * 2 ^ exponent := by
  rcases Nat.le_total number.log2 52 with short | long
  · -- The number has digits to spare, and the quotient is exact.
    have small : number ≤ 2 ^ 53 :=
      Nat.lt_log2_self.le.trans (Nat.pow_le_pow_right Nat.two_pos (by omega))
    have split :
        2 ^ exponent =
          2 ^ (52 - number.log2) * 2 ^ (number.log2 + exponent - 52) := by
      rw [← Nat.pow_add]
      congr 1
      omega
    rw [split, ← Nat.mul_assoc, roundQuotient_mul_self _ (Nat.two_pow_pos _),
      significant_of_le small, Nat.mul_assoc]
  · have split :
        2 ^ (number.log2 + exponent - 52) =
          2 ^ (number.log2 - 52) * 2 ^ exponent := by
      rw [← Nat.pow_add]
      congr 1
      omega
    rw [split, roundQuotient_mul_right _ _ (Nat.two_pow_pos _), significant,
      Nat.mul_assoc]

/-- The place of a scaled number on the grid stands for the number rounded, and
scaled. -/
theorem units_scaled {number exponent : Nat} (positive : number ≠ 0)
    (large : 52 ≤ exponent) : 
    let octave := (number * 2 ^ exponent).log2 - 52
    let place :=
      octave * 2 ^ 52 + roundQuotient (number * 2 ^ exponent) (2 ^ octave)
    place ≤ (number.log2 + exponent - 50) * 2 ^ 52 ∧
      units place = significant number * 2 ^ exponent := by
  dsimp only
  rw [log2_mul_two_pow positive]
  obtain ⟨lower, upper⟩ := significant_bounds positive
  have value := @roundQuotient_scaled number exponent large
  generalize roundQuotient (number * 2 ^ exponent)
      (2 ^ (number.log2 + exponent - 52)) =
    digits at *
  have scale (extra : Nat) : 2 ^ (number.log2 + extra) * 2 ^ exponent =
      2 ^ (52 + extra) * 2 ^ (number.log2 + exponent - 52) := by
    rw [← Nat.pow_add, ← Nat.pow_add]
    congr 1
    omega
  have bounds : 2 ^ 52 ≤ digits ∧ digits ≤ 2 ^ 53 := by
    constructor
    · refine Nat.le_of_mul_le_mul_right ?_
        (Nat.two_pow_pos (number.log2 + exponent - 52))
      calc
        2 ^ 52 * 2 ^ (number.log2 + exponent - 52) =
          2 ^ number.log2 * 2 ^ exponent :=
          (scale 0).symm
        _ ≤ significant number * 2 ^ exponent := Nat.mul_le_mul_right _ lower
        _ = digits * 2 ^ (number.log2 + exponent - 52) := value.symm
    · refine Nat.le_of_mul_le_mul_right ?_
        (Nat.two_pow_pos (number.log2 + exponent - 52))
      calc
        digits * 2 ^ (number.log2 + exponent - 52) =
          significant number * 2 ^ exponent := value
        _ ≤ 2 ^ (number.log2 + 1) * 2 ^ exponent := Nat.mul_le_mul_right _ upper
        _ = 2 ^ 53 * 2 ^ (number.log2 + exponent - 52) := scale 1
  exact ⟨by omega, (units_octave _ bounds.1 bounds.2).trans value⟩

/-- The place of a natural number on the grid of magnitudes. -/
def placeOf (number : Nat) : Nat :=
  nearest number 1

theorem placeOf_zero : placeOf 0 = 0 := by
  decide +kernel

/-- The magnitude of the floating point number for a natural number of 64 bits
is that of the number rounded, in units that do not depend on the number. -/
theorem exists_units_placeOf :
    ∃ unit, 0 < unit ∧
      ∀ {number : Nat}, number < 2 ^ 64 →
        units (placeOf number) = significant number * unit := by
  -- The exponent is a variable here, so that no step computes the power.
  obtain ⟨exponent, same⟩ : ∃ exponent, exponent = 1074 := ⟨_, rfl⟩
  refine ⟨2 ^ exponent, Nat.two_pow_pos exponent, fun {number} bounded => ?_⟩
  rcases Nat.eq_zero_or_pos number with rfl | positive
  · rw [placeOf_zero, significant_of_le (Nat.zero_le _), Nat.zero_mul]
    exact units_of_lt (Nat.two_pow_pos 52)
  have digits : number.log2 < 64 := (Nat.log2_lt positive.ne').mpr bounded
  obtain ⟨near, magnitude⟩ :=
    units_scaled positive.ne' (by omega : 52 ≤ exponent)
  have finite : (number.log2 + exponent - 50) * 2 ^ 52 < infinity := by
    rw [infinity, Nat.pow_eq]
    omega
  rw [placeOf, nearest, ← same, Nat.div_one, Nat.one_mul, Nat.pow_eq,
    Nat.pow_eq, Nat.pow_eq, Nat.min_eq_right (near.trans finite.le)]
  exact magnitude

/-! ## Signs -/

section

variable {change : Nat → Nat}

theorem withSign_neg (change : Nat → Nat) (number : Int) :
    withSign change (-number) = -withSign change number := by
  rw [withSign, withSign, Int.sign_neg, Int.natAbs_neg, Int.neg_mul]

theorem withSign_natCast (zero : change 0 = 0) (number : Nat) :
    withSign change number = change number := by
  rcases Nat.eq_zero_or_pos number with rfl | positive
  · rw [zero, withSign, Int.natCast_zero, Int.sign_zero, Int.zero_mul]
  · rw [withSign, Int.sign_natCast_of_ne_zero positive.ne', Int.one_mul,
      Int.natAbs_natCast]

theorem withSign_withSign {further : Nat → Nat} (zero : change 0 = 0)
    (furtherZero : further 0 = 0) (number : Int) :
    withSign further (withSign change number) =
      withSign (fun magnitude => further (change magnitude)) number := by
  have bothZero : further (change 0) = 0 := by rw [zero, furtherZero]
  obtain ⟨magnitude, rfl | rfl⟩ := number.eq_nat_or_neg
  · rw [withSign_natCast zero, withSign_natCast furtherZero,
      withSign_natCast bothZero]
  · rw [withSign_neg, withSign_neg, withSign_neg, withSign_natCast zero,
      withSign_natCast furtherZero, withSign_natCast bothZero]

theorem withSign_strictMono (zero : change 0 = 0) (mono : StrictMono change) :
    StrictMono (withSign change) := by
  refine strictMono_of_odd_strictMonoOn_nonneg (withSign_neg change) ?_
  intro less nonneg more nonnegMore lt
  obtain ⟨less, rfl⟩ := Int.eq_ofNat_of_zero_le nonneg
  obtain ⟨more, rfl⟩ := Int.eq_ofNat_of_zero_le nonnegMore
  rw [withSign_natCast zero, withSign_natCast zero]
  exact_mod_cast mono (Int.ofNat_lt.mp lt)

theorem withSign_mono (zero : change 0 = 0) (mono : Monotone change) :
    Monotone (withSign change) := by
  refine monotone_of_odd_of_monotoneOn_nonneg (withSign_neg change) ?_
  intro less nonneg more nonnegMore le
  obtain ⟨less, rfl⟩ := Int.eq_ofNat_of_zero_le nonneg
  obtain ⟨more, rfl⟩ := Int.eq_ofNat_of_zero_le nonnegMore
  rw [withSign_natCast zero, withSign_natCast zero]
  exact_mod_cast mono (Int.ofNat_le.mp le)

end

theorem significant_zero : significant 0 = 0 :=
  significant_of_le (Nat.zero_le _)

theorem rounded_mono : Monotone rounded :=
  withSign_mono significant_zero fun _ _ => significant_mono

theorem rounded_of_le {number : Int} (small : number.natAbs ≤ 2 ^ 53) :
    rounded number = number := by
  rw [rounded, withSign, significant_of_le small, Int.sign_mul_natAbs]

/-- Integers of 64 bits that are taken for the same number are not far from each
other. -/
theorem natAbs_sub_le_of_rounded_eq {left right : Int}
    (leftBound : left.natAbs ≤ 2 ^ 63) (rightBound : right.natAbs ≤ 2 ^ 63)
    (same : rounded left = rounded right) : (left - right).natAbs ≤ 1024 := by
  have near {number : Int} (bounded : number.natAbs ≤ 2 ^ 63) :
      (rounded number - number).natAbs ≤ 512 := by
    have magnitudes := significant_near bounded
    obtain ⟨magnitude, rfl | rfl⟩ := number.eq_nat_or_neg
    · rw [Int.natAbs_natCast] at magnitudes
      rw [rounded, withSign_natCast significant_zero]
      omega
    · rw [Int.natAbs_neg, Int.natAbs_natCast] at magnitudes
      rw [rounded, withSign_neg, withSign_natCast significant_zero]
      omega
  have leftNear := near leftBound
  have rightNear := near rightBound
  omega

/-! ## The order of integers as floating point numbers -/

namespace Binary64

theorem order?_ofInt (number : Int) :
    (ofInt number).order? = some (withSign placeOf number) := by
  have shape : ofInt number = signed (number < 0) (placeOf number.natAbs) := rfl
  rw [shape, order?]
  obtain ⟨magnitude, rfl | rfl⟩ := number.eq_nat_or_neg
  · rw [withSign_natCast placeOf_zero, Int.natAbs_natCast]
    simp
  · rw [withSign_neg, withSign_natCast placeOf_zero, Int.natAbs_neg,
      Int.natAbs_natCast]
    rcases Nat.eq_zero_or_pos magnitude with rfl | positive
    · rw [placeOf_zero]
      rfl
    · simp [positive]

/-- The places of two integers of 64 bits compare as the integers that these are
taken for. -/
theorem compare_withSign_placeOf {left right : Int}
    (leftBound : left.natAbs < 2 ^ 64) (rightBound : right.natAbs < 2 ^ 64) :
    compare (withSign placeOf left) (withSign placeOf right) =
      compare (rounded left) (rounded right) := by
  obtain ⟨unit, unitPositive, magnitudes⟩ := exists_units_placeOf
  have unitsZero : units 0 = 0 := units_of_lt (Nat.two_pow_pos 52)
  have scaled {number : Int} (bounded : number.natAbs < 2 ^ 64) :
      withSign units (withSign placeOf number) = rounded number * unit := by
    rw [withSign_withSign placeOf_zero unitsZero, withSign, magnitudes bounded,
      Int.natCast_mul, ← Int.mul_assoc]
    rfl
  have scale : StrictMono fun number : Int => number * unit :=
    fun _ _ lt =>
      Int.mul_lt_mul_of_pos_right lt (by exact_mod_cast unitPositive)
  rw [← cmp_eq_compare, ← cmp_eq_compare,
    ← (withSign_strictMono unitsZero strictMono_units).cmp_map_eq,
    scaled leftBound, scaled rightBound, scale.cmp_map_eq]

theorem compare?_ofInt {left right : Int} (leftBound : left.natAbs < 2 ^ 64)
    (rightBound : right.natAbs < 2 ^ 64) :
    (ofInt left).compare? (ofInt right) =
      some (compare (rounded left) (rounded right)) := by
  rw [compare?, order?_ofInt, order?_ofInt]
  exact congrArg some (compare_withSign_placeOf leftBound rightBound)

theorem equals_ofInt {left right : Int} (leftBound : left.natAbs < 2 ^ 64)
    (rightBound : right.natAbs < 2 ^ 64) :
    (ofInt left).equals (ofInt right) =
      decide (rounded left = rounded right) := by
  have same := compare_withSign_placeOf leftBound rightBound
  rw [equals, order?_ofInt, order?_ofInt]
  dsimp only
  rw [Bool.eq_iff_iff, beq_iff_eq, decide_eq_true_iff, ← compare_eq_iff_eq,
    same, compare_eq_iff_eq]

/-- An integer that floating point numbers hold exactly is the count that its
number stands for. -/
theorem toCount_ofInt {number : Nat} (small : number < 2 ^ 53) :
    (ofInt number).toCount = number := by
  obtain ⟨unit, positive, magnitudes⟩ := exists_units_placeOf
  have exactly {number : Nat} (small : number ≤ 2 ^ 53) :
      units (placeOf number) = number * unit := by
    rw [magnitudes (by omega), significant_of_le small]
  have isUnit : Nat.pow 2 1074 = unit := by
    have one : units (placeOf 1) = Nat.pow 2 1074 := by decide +kernel
    rw [← one, exactly (by decide), Nat.one_mul]
  have finite : placeOf number < infinity := by
    have bound : placeOf (2 ^ 53) < infinity := by decide +kernel
    refine Nat.lt_of_le_of_lt (strictMono_units.le_iff_le.mp ?_) bound
    rw [exactly small.le, exactly (Nat.le_refl _)]
    exact Nat.mul_le_mul_right _ small.le
  have shape : ofInt number = signed false (placeOf number) := by
    simp [ofInt, ofQuotient, placeOf]
  rw [shape, toCount, if_neg (Nat.not_le.mpr finite), isUnit, exactly small.le,
    Nat.mul_div_cancel _ positive]
  apply Nat.min_eq_right
  rw [Nat.pow_eq]
  omega

end Binary64

end TemplateEngine.Number
