import TemplateEngine.Text.Utf8

/-!
# Reading UTF-8 undoes writing it

The first byte of a character tells how many follow and in which range the next
one lies; the bytes of a character meet these ranges, and the bits they carry
are those of its code point.
-/

namespace TemplateEngine.Text.Utf8

theorem toNat_lt (character : Char) : character.toNat < 0x110000 := by
  rcases character.valid with below | ⟨-, above⟩
  · exact Nat.lt_trans below (by decide)
  · exact above

/-- The bytes of a character are those of the standard library. -/
theorem bytes_eq_utf8EncodeChar (character : Char) :
    bytes character = String.utf8EncodeChar character := by
  have range := toNat_lt character
  have code : character.val.toNat = character.toNat := rfl
  rw [bytes, String.utf8EncodeChar, code]
  generalize character.toNat = code at range
  grind

/-! ## First bytes -/

theorem opening_two (lead : Nat) (above : 2 ≤ lead) (below : lead < 0x20) :
    opening (0xC0 + lead) = .unfinished ⟨0, lead, 0x80, 0xBF⟩ := by
  rw [opening, if_neg (by omega), if_neg (by omega), if_pos (by omega),
    Nat.add_sub_cancel_left]

theorem opening_three (lead : Nat) (below : lead < 0x10) :
    opening (0xE0 + lead) =
      .unfinished ⟨1, lead, if lead = 0 then 0xA0 else 0x80,
        if lead = 0xD then 0x9F else 0xBF⟩ := by
  rw [opening, if_neg (by omega), if_neg (by omega), if_neg (by omega),
    if_pos (by omega), Nat.add_sub_cancel_left]
  grind

theorem opening_four (lead : Nat) (below : lead < 5) :
    opening (0xF0 + lead) =
      .unfinished ⟨2, lead, if lead = 0 then 0x90 else 0x80,
        if lead = 4 then 0x8F else 0xBF⟩ := by
  rw [opening, if_neg (by omega), if_neg (by omega), if_neg (by omega),
    if_neg (by omega), if_pos (by omega), Nat.add_sub_cancel_left]
  grind

/-! ## Bytes of a character -/

section

variable {state : Unfinished} {byte : Nat} (rest : List UInt8)

theorem toNat_ofNat_of_lt (below : byte < 0x100) :
    (UInt8.ofNat byte).toNat = byte :=
  UInt8.toNat_ofNat_of_lt' below

/-- The first of several bytes starts a character. -/
theorem decodeAfter_first (starts : opening byte = .unfinished state)
    (below : byte < 0x100) :
    decodeAfter none (UInt8.ofNat byte :: rest) =
      decodeAfter (some state) rest := by
  rw [decodeAfter, toNat_ofNat_of_lt below, starts]

/-- The last byte of a character ends it. -/
theorem decodeAfter_last (last : state.after = 0) (low : state.low ≤ byte)
    (high : byte ≤ state.high) (below : byte < 0x100) :
    decodeAfter (some state) (UInt8.ofNat byte :: rest) =
      Char.ofNat (state.bits * 64 + byte % 64) :: decodeAfter none rest := by
  rw [decodeAfter, toNat_ofNat_of_lt below, if_pos (by simp [low, high]), last]

/-- Any other byte leaves a character that is read in part. -/
theorem decodeAfter_next {after : Nat} (next : state.after = after + 1)
    (low : state.low ≤ byte) (high : byte ≤ state.high) (below : byte < 0x100) :
    decodeAfter (some state) (UInt8.ofNat byte :: rest) =
      decodeAfter (some ⟨after, state.bits * 64 + byte % 64, 0x80, 0xBF⟩)
        rest := by
  rw [decodeAfter, toNat_ofNat_of_lt below, if_pos (by simp [low, high]), next]

end

theorem decodeAfter_bytes (character : Char) (rest : List UInt8) :
    decodeAfter none (bytes character ++ rest) =
      character :: decodeAfter none rest := by
  have whole {bits : Nat} (same : bits = character.toNat) :
      Char.ofNat bits = character := by
    rw [same, Char.ofNat_toNat]
  have range := toNat_lt character
  -- surrogates are no characters, so that three bytes keep below the bound for
  -- the first byte `0xED`
  have valid : character.toNat < 0xD800 ∨ 0xDFFF < character.toNat :=
    character.valid.imp_right And.left
  rw [bytes]
  generalize character.toNat = code at range valid whole
  split
  next one =>
    have starts : opening code = .character character := by
      rw [opening, if_pos one, whole rfl]
    rw [List.cons_append, decodeAfter, toNat_ofNat_of_lt (by omega), starts]
    rfl
  next notOne =>
    split
    next two =>
      rw [List.cons_append,
        decodeAfter_first _ (opening_two (code / 64) (by omega) (by omega))
          (by omega), List.cons_append,
        decodeAfter_last _ rfl (by grind) (by grind) (by omega),
        whole (by grind)]
      rfl
    next notTwo =>
      split
      next three =>
        rw [List.cons_append,
          decodeAfter_first _ (opening_three (code / 4096) (by omega))
            (by omega), List.cons_append,
          decodeAfter_next _ rfl (by grind) (by grind) (by omega),
          List.cons_append,
          decodeAfter_last _ rfl (by grind) (by grind) (by omega),
          whole (by grind)]
        rfl
      next four =>
        rw [List.cons_append,
          decodeAfter_first _ (opening_four (code / 262144) (by omega))
            (by omega), List.cons_append,
          decodeAfter_next _ rfl (by grind) (by grind) (by omega),
          List.cons_append,
          decodeAfter_next _ rfl (by grind) (by grind) (by omega),
          List.cons_append,
          decodeAfter_last _ rfl (by grind) (by grind) (by omega),
          whole (by grind)]
        rfl

/-! ## Texts -/

theorem decode_encode (text : List Char) : decode (encode text) = text := by
  induction text with
  | nil => rfl
  | cons character text induction =>
      rw [encode, List.flatMap_cons, decode, decodeAfter_bytes]
      exact congrArg (character :: ·) induction

end TemplateEngine.Text.Utf8
