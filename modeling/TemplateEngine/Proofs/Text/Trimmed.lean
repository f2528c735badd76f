import TemplateEngine.Text.Blank
import TemplateEngine.Text.Letter

/-!
# Blanks around words

A text is what remains of it after trimming, and the blanks at its ends; no
blank belongs to a word.
-/

namespace TemplateEngine.Text

/-- Blank characters do not belong to names. -/
theorem isNamePart_of_isBlank {character : Char}
    (blank : isBlank character = true) : isNamePart character = false := by
  let codes :=
    [0x09, 0x0A, 0x0B, 0x0C, 0x0D, 0x20, 0x85, 0xA0, 0x1680, 0x2000, 0x2001,
      0x2002, 0x2003, 0x2004, 0x2005, 0x2006, 0x2007, 0x2008, 0x2009, 0x200A,
      0x2028, 0x2029, 0x202F, 0x205F, 0x3000]
  have noneIsPart : ∀ code ∈ codes, isNamePart (Char.ofNat code) = false := by
    decide +kernel
  have among : character.toNat ∈ codes := by
    simp only [isBlank] at blank
    simp only [codes, List.mem_cons, List.not_mem_nil, or_false]
    split at blank
    · simp only [Bool.or_eq_true, Bool.and_eq_true, decide_eq_true_eq,
        beq_iff_eq] at blank
      omega
    · simp only [Bool.or_eq_true, Bool.and_eq_true, decide_eq_true_eq,
        beq_iff_eq] at blank
      omega
  have found := noneIsPart character.toNat among
  rwa [Char.ofNat_toNat] at found

theorem exists_append_trimStart (text : List Char) :
    ∃ blanks, text = blanks ++ trimStart text ∧
      ∀ blank ∈ blanks, isBlank blank = true := by
  refine ⟨text.takeWhile isBlank, ?_, ?_⟩
  · rw [trimStart, List.takeWhile_append_dropWhile]
  · intro blank member
    exact List.all_eq_true.mp List.all_takeWhile blank member

theorem exists_trimEnd_append (text : List Char) :
    ∃ blanks, text = trimEnd text ++ blanks ∧
      ∀ blank ∈ blanks, isBlank blank = true := by
  obtain ⟨blanks, split, allBlank⟩ := exists_append_trimStart text.reverse
  refine ⟨blanks.reverse, ?_, ?_⟩
  · have whole := congrArg List.reverse split
    simpa [trimStart, trimEnd] using whole
  · intro blank member
    exact allBlank blank (List.mem_reverse.mp member)

end TemplateEngine.Text
