import TemplateEngine.Proofs.Text.Utf8
import TemplateEngine.Text.Percent

/-!
# Reading percent encoding undoes writing it

A text may be written with some of its characters as they are and the bytes of
all others as two hexadecimal digits of either case after a percent sign.
Unless a percent sign is kept as it is, every such text is read back, whichever
characters and cases were chosen.
-/

namespace TemplateEngine.Text.Percent

/-- Whether a character is the hexadecimal digit of a value, in either case. -/
def IsDigit (value : Nat) (character : Char) : Prop :=
  character = Nat.digitChar value ∨ character = (Nat.digitChar value).toUpper

/-- How bytes are written. -/
inductive WritesBytes : List UInt8 → List Char → Prop
  | nil : WritesBytes [] []
  | cons {byte : UInt8} {bytes : List UInt8} {high low : Char}
      {written : List Char} :
      IsDigit (byte.toNat / 16) high → IsDigit (byte.toNat % 16) low →
      WritesBytes bytes written →
      WritesBytes (byte :: bytes) ('%' :: high :: low :: written)

/-- How a text is written: some of the characters to keep as they are, and the
bytes of all others. -/
inductive Writes (keep : Char → Bool) : List Char → List Char → Prop
  | nil : Writes keep [] []
  | kept {character : Char} {text written : List Char} :
      keep character = true → Writes keep text written →
      Writes keep (character :: text) (character :: written)
  | encoded {character : Char} {text spelled written : List Char} :
      WritesBytes (String.utf8EncodeChar character) spelled →
      Writes keep text written →
      Writes keep (character :: text) (spelled ++ written)

/-! ## Bytes -/

theorem value?_of_isDigit {value : Nat} {character : Char} (below : value < 16)
    (digit : IsDigit value character) : value? character = some value := by
  have both : ∀ value < 16, value? (Nat.digitChar value) = some value ∧
      value? (Nat.digitChar value).toUpper = some value := by decide
  rcases digit with rfl | rfl
  · exact (both value below).1
  · exact (both value below).2

theorem decodeBytes_append_of_writesBytes {bytes : List UInt8}
    {written : List Char} (writes : WritesBytes bytes written)
    (rest : List Char) :
    decodeBytes (written ++ rest) = bytes ++ decodeBytes rest := by
  induction writes with
  | nil => rfl
  | @cons byte bytes high low written first second _ induction =>
      have bound := byte.toNat_lt
      have whole :
          UInt8.ofNat (byte.toNat / 16 * 16 + byte.toNat % 16) = byte := by
        rw [Nat.div_add_mod', UInt8.ofNat_toNat]
      rw [List.cons_append, List.cons_append, List.cons_append, decodeBytes,
        value?_of_isDigit (by omega) first, value?_of_isDigit (by omega) second]
      simp only [whole, induction, List.cons_append]

theorem decodeBytes_cons_of_ne {character : Char} (rest : List Char)
    (plain : character ≠ '%') :
    decodeBytes (character :: rest) =
      Utf8.bytes character ++ decodeBytes rest := by
  rw [decodeBytes.eq_def]
  split
  next none => cases none
  next same => exact absurd (List.cons_eq_cons.mp same).1 plain
  next same =>
    obtain ⟨rfl, rfl⟩ := List.cons_eq_cons.mp same
    rfl

/-- Whether a character is one that encoded bytes are made of. -/
def IsEncoded (character : Char) : Prop :=
  isAsciiAlphanumeric character = true ∨ character = '%'

instance (character : Char) : Decidable (IsEncoded character) :=
  inferInstanceAs (Decidable (_ ∨ _))

theorem isEncoded_of_isDigit {value : Nat} {character : Char}
    (below : value < 16) (digit : IsDigit value character) :
    IsEncoded character := by
  have both : ∀ value < 16, isAsciiAlphanumeric (Nat.digitChar value) = true ∧
      isAsciiAlphanumeric (Nat.digitChar value).toUpper = true := by decide
  rcases digit with rfl | rfl
  · exact .inl (both value below).1
  · exact .inl (both value below).2

theorem isEncoded_of_writesBytes {bytes : List UInt8} {written : List Char}
    (writes : WritesBytes bytes written) :
    ∀ character ∈ written, IsEncoded character := by
  induction writes with
  | nil => simp
  | @cons byte _ _ _ _ first second _ induction =>
      have bound := byte.toNat_lt
      simp only [List.forall_mem_cons]
      exact ⟨.inr rfl, isEncoded_of_isDigit (by omega) first,
        isEncoded_of_isDigit (by omega) second, induction⟩

/-! ## Texts -/

section

variable {keep : Char → Bool} {text written : List Char}

theorem decodeBytes_of_writes (noSign : keep '%' = false)
    (writes : Writes keep text written) :
    decodeBytes written = Utf8.encode text := by
  induction writes with
  | nil => rfl
  | @kept character text written kept _ induction =>
      have plain : character ≠ '%' := by
        rintro rfl
        rw [kept] at noSign
        cases noSign
      rw [decodeBytes_cons_of_ne written plain, induction]
      rfl
  | @encoded character text spelled written writes _ induction =>
      rw [decodeBytes_append_of_writesBytes writes, induction,
        ← Utf8.bytes_eq_utf8EncodeChar]
      rfl

theorem decode_of_writes (noSign : keep '%' = false)
    (writes : Writes keep text written) : decode written = text := by
  rw [decode, decodeBytes_of_writes noSign writes, Utf8.decode_encode]

/-- Beside the characters to keep, a written text is made of encoded bytes. -/
theorem keep_or_isEncoded_of_writes (writes : Writes keep text written) :
    ∀ character ∈ written, keep character = true ∨ IsEncoded character := by
  induction writes with
  | nil => simp
  | kept kept _ induction =>
      exact List.forall_mem_cons.mpr ⟨.inl kept, induction⟩
  | encoded writes _ induction =>
      exact List.forall_mem_append.mpr
        ⟨fun character member =>
            .inr (isEncoded_of_writesBytes writes character member), induction⟩

end

theorem writesBytes_encodeByte (bytes : List UInt8) :
    WritesBytes bytes (bytes.flatMap encodeByte) := by
  induction bytes with
  | nil => exact .nil
  | cons byte bytes induction =>
      have upper : ∀ value < 16, IsDigit value (digit value) := by
        have same :
            ∀ value < 16, digit value = (Nat.digitChar value).toUpper := by
          decide
        exact fun value below => .inr (same value below)
      have bound := byte.toNat_lt
      exact .cons (upper _ (by omega)) (upper _ (by omega)) induction

/-- Encoding writes a text, with all characters to keep as they are and digits
in upper case. -/
theorem writes_encode (keep : Char → Bool) (text : List Char) :
    Writes keep text (encode keep text) := by
  induction text with
  | nil => exact .nil
  | cons character text induction =>
      rw [encode, List.flatMap_cons]
      split
      next kept => exact .kept kept induction
      next =>
        rw [Utf8.bytes_eq_utf8EncodeChar]
        exact .encoded (writesBytes_encodeByte _) induction

theorem encode_injective {keep : Char → Bool} (noSign : keep '%' = false) :
    Function.Injective (encode keep) :=
  Function.LeftInverse.injective fun text =>
    decode_of_writes noSign (writes_encode keep text)

end TemplateEngine.Text.Percent
