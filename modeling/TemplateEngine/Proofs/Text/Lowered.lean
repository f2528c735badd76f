import TemplateEngine.Text.Case
import TemplateEngine.Text.Letter

/-!
# ASCII in lower case texts

The letters and digits of ASCII that a text in lower case has are small letters
and digits, and those that are small already stay as they are.  Of the letters
of other scripts only two become letters of ASCII, both small ones.  A sigma
becomes none, whether it ends a word or not.
-/

namespace TemplateEngine.Text

/-- The small letters and the digits of ASCII. -/
def isSmallAlphanumeric (character : Char) : Bool :=
  ('a' ≤ character && character ≤ 'z') || isAsciiDigit character

/-- The characters of ASCII are given by their code points. -/
theorem exists_ascii {character : Char} (ascii : character.toNat < 0x80) :
    ∃ code < 0x80, character = Char.ofNat code :=
  ⟨character.toNat, ascii, (Char.ofNat_toNat character).symm⟩

theorem toNat_lt_of_isAsciiAlphanumeric {character : Char}
    (isAscii : isAsciiAlphanumeric character = true) :
    character.toNat < 0x80 := by
  simp only [isAsciiAlphanumeric, isAsciiLetter, isAsciiDigit, Bool.or_eq_true,
    Bool.and_eq_true, decide_eq_true_eq, Char.le_def, UInt32.le_iff_toNat_le]
    at isAscii
  have last :
      'z'.val.toNat = 0x7A ∧ 'Z'.val.toNat = 0x5A ∧ '9'.val.toNat = 0x39 := by
    decide
  have code : character.toNat = character.val.toNat := rfl
  omega

theorem isAsciiAlphanumeric_of_isSmall {character : Char}
    (isSmall : isSmallAlphanumeric character = true) :
    isAsciiAlphanumeric character = true := by
  simp only [isSmallAlphanumeric, Bool.or_eq_true] at isSmall
  simp only [isAsciiAlphanumeric, isAsciiLetter, Bool.or_eq_true]
  exact isSmall.imp_left .inl

/-! ## Single characters -/

theorem lower_eq (character : Char) :
    lower character =
      if character.toNat < 0x80 then [character.toLower]
      else
        match Case.toLowerExpansions.lookup character.toNat with
        | some codes => codes.map Char.ofNat
        | none =>
          match Shift.image? Case.toLowerRuns character.toNat with
          | some code => [Char.ofNat code]
          | none => [character] :=
  rfl

theorem lower_of_isSmall {character : Char}
    (isSmall : isSmallAlphanumeric character = true) :
    lower character = [character] := by
  have same : ∀ code < 0x80, isSmallAlphanumeric (Char.ofNat code) = true →
      lower (Char.ofNat code) = [Char.ofNat code] := by decide
  obtain ⟨code, below, rfl⟩ :=
    exists_ascii
      (toNat_lt_of_isAsciiAlphanumeric (isAsciiAlphanumeric_of_isSmall isSmall))
  exact same code below isSmall

/-- The code point that a single one becomes is beyond ASCII, but for the sign
of a unit that becomes a `k`. -/
theorem image?_toLowerRuns {code image : Nat} (large : 0x80 ≤ code)
    (found : Shift.image? Case.toLowerRuns code = some image) :
    0x80 ≤ image ∨ image = 0x6B := by
  have images :
      ∀ shift ∈ Case.toLowerRuns, shift.last < 0x80 ∨ 0x80 ≤ shift.image ∨
        shift.first = shift.last ∧ shift.image = 0x6B := by
    decide +kernel
  obtain ⟨shift, here, rfl⟩ := Option.map_eq_some_iff.mp found
  have moves := List.find?_some here
  simp only [Shift.moves, Bool.and_eq_true, decide_eq_true_eq] at moves
  rcases images shift (List.mem_of_find?_eq_some here) with
    below | above | single <;> omega

theorem toNat_ofNat_cases (code : Nat) :
    (Char.ofNat code).toNat = code ∨ Char.ofNat code = '\x00' := by
  by_cases valid : code.isValidChar
  · left
    rw [Char.ofNat, dif_pos valid]
    rfl
  · right
    rw [Char.ofNat, dif_neg valid]
    rfl

/-- What a character becomes in lower case is beyond ASCII, unless the character
is of ASCII itself or one of the letters that become an `i` or a `k`. -/
theorem lower_cases {character lowered : Char}
    (member : lowered ∈ lower character) :
    (character.toNat < 0x80 ∧ lowered = character.toLower) ∨
      0x80 ≤ lowered.toNat ∨ lowered ∈ ['i', 'k', '\x00'] := by
  rw [lower_eq] at member
  split at member
  next ascii => exact .inl ⟨ascii, List.mem_singleton.mp member⟩
  next other =>
    right
    split at member
    next codes expanded =>
      have known :
          ∀ entry ∈ Case.toLowerExpansions, ∀ code ∈ entry.2,
            0x80 ≤ (Char.ofNat code).toNat ∨
              Char.ofNat code ∈ ['i', 'k', '\x00'] := by decide
      obtain ⟨before, after, listed, -⟩ := List.lookup_eq_some_iff.mp expanded
      obtain ⟨code, inside, rfl⟩ := List.mem_map.mp member
      exact known (character.toNat, codes) (by simp [listed]) code inside
    next =>
      split at member
      next image found =>
        obtain rfl := List.mem_singleton.mp member
        rcases image?_toLowerRuns (Nat.le_of_not_lt other) found with
          large | rfl
        · rcases toNat_ofNat_cases image with valid | invalid
          · exact .inl (by rwa [valid])
          · exact .inr (by simp [invalid])
        · decide
      next =>
        obtain rfl := List.mem_singleton.mp member
        exact .inl (Nat.le_of_not_lt other)

/-- A letter or digit of ASCII in lower case is small, whatever it was
before. -/
theorem isSmall_of_mem_lower {character lowered : Char}
    (member : lowered ∈ lower character)
    (isAscii : isAsciiAlphanumeric lowered = true) :
    isSmallAlphanumeric lowered = true := by
  rcases lower_cases member with ⟨below, rfl⟩ | large | known
  · have small :
        ∀ code < 0x80, isAsciiAlphanumeric (Char.ofNat code).toLower = true →
          isSmallAlphanumeric (Char.ofNat code).toLower = true := by decide
    obtain ⟨code, codeBelow, rfl⟩ := exists_ascii below
    exact small code codeBelow isAscii
  · exact absurd (toNat_lt_of_isAsciiAlphanumeric isAscii)
      (Nat.not_lt.mpr large)
  · simp only [List.mem_cons, List.not_mem_nil, or_false] at known
    rcases known with rfl | rfl | rfl
    · decide
    · decide
    · exact absurd isAscii (by decide)

/-! ## Texts -/

/-- Without the two forms of the small sigma a text is lowered character by
character. -/
theorem filter_lowerText {kept : Char → Bool} (noSigma : kept 'σ' = false)
    (noFinalSigma : kept 'ς' = false) (text : List Char) :
    (lowerText text).filter kept =
      text.flatMap fun character => (lower character).filter kept := by
  have lowerSigma : lower 'Σ' = ['σ'] := by decide +kernel
  have lowered (before : List Char) : (lowerAfter before text).filter kept =
      text.flatMap fun character => (lower character).filter kept := by
    induction text generalizing before with
    | nil => rfl
    | cons character text induction =>
        rw [lowerAfter, List.filter_append, induction, List.flatMap_cons]
        congr 1
        split
        next sigma =>
          rw [sigma, lowerSigma]
          split <;> simp [noSigma, noFinalSigma]
        next => rfl
  exact lowered []

end TemplateEngine.Text
