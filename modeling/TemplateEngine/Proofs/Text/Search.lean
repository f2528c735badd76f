import Mathlib.Data.List.Basic
import TemplateEngine.Text.Search

/-!
# What searches find

Where a text does not start with a pattern, where it splits at a separator, and
what the parts between separators are made of.
-/

namespace TemplateEngine.Text

theorem isPrefixOf?_eq_none_iff {start text : List Char} :
    List.isPrefixOf? start text = none ↔ ¬ start <+: text := by
  rw [← List.isPrefixOf_iff_prefix, ← List.isSome_isPrefixOf?_eq_isPrefixOf,
    Option.not_isSome_iff_eq_none]

/-- Another first character is not the start of a pattern. -/
theorem isPrefixOf?_cons_of_ne {first character : Char}
    (different : first ≠ character) (pattern text : List Char) :
    List.isPrefixOf? (first :: pattern) (character :: text) = none :=
  isPrefixOf?_eq_none_iff.mpr fun starts =>
    different (List.cons_prefix_cons.mp starts).1

section

variable {separator : Char} {text before part : List Char}

theorem splitFirst?_of_not_mem (absent : separator ∉ text) :
    splitFirst? separator text = none := by
  induction text with
  | nil => rfl
  | cons character text induction =>
      rw [List.mem_cons, not_or] at absent
      simp [splitFirst?, Ne.symm absent.1, induction absent.2]

/-- A text splits at the first separator after a start without one. -/
theorem splitFirst?_append_cons (rest : List Char)
    (absent : separator ∉ before) :
    splitFirst? separator (before ++ separator :: rest) =
      some (before, rest) := by
  induction before with
  | nil => simp [splitFirst?]
  | cons character before induction =>
      rw [List.mem_cons, not_or] at absent
      simp [splitFirst?, Ne.symm absent.1, induction absent.2]

/-- A part behind the first character is a part of the text, or the first part
without that character. -/
theorem mem_splitOn_cons {character : Char}
    (member : part ∈ List.splitOn separator (character :: text)) :
    part = [] ∨ part ∈ List.splitOn separator text ∨
      character ≠ separator ∧ ∃ first ∈ List.splitOn separator text,
        part = character :: first := by
  rw [List.splitOn_cons_eq_if_modifyHead] at member
  split at member
  next =>
    rcases List.mem_cons.mp member with empty | later
    · exact .inl empty
    · exact .inr (.inl later)
  next other =>
    obtain ⟨first, parts, split⟩ :=
      List.exists_cons_of_ne_nil (List.splitOn_ne_nil separator text)
    rw [split, List.modifyHead_cons] at member
    rw [split]
    rcases List.mem_cons.mp member with same | later
    · exact .inr (.inr ⟨by simpa using other, first, List.mem_cons_self, same⟩)
    · exact .inr (.inl (List.mem_cons_of_mem first later))

/-- The parts of a text hold no other characters than the text. -/
theorem subset_of_mem_splitOn (member : part ∈ List.splitOn separator text) :
    part ⊆ text := by
  induction text generalizing part with
  | nil => simpa using member
  | cons character text induction =>
      rcases mem_splitOn_cons member with rfl | later | ⟨-, first, inside, rfl⟩
      · exact List.nil_subset _
      · exact List.subset_cons_of_subset _ (induction later)
      · exact List.cons_subset_cons _ (induction inside)

/-- The parts of a text do not hold the separator. -/
theorem separator_not_mem_of_mem_splitOn
    (member : part ∈ List.splitOn separator text) : separator ∉ part := by
  induction text generalizing part with
  | nil =>
      obtain rfl : part = [] := by simpa using member
      exact List.not_mem_nil
  | cons character text induction =>
      rcases mem_splitOn_cons member with
        rfl | later | ⟨other, first, inside, rfl⟩
      · exact List.not_mem_nil
      · exact induction later
      · exact List.not_mem_cons_of_ne_of_not_mem other.symm (induction inside)

end

/-- A text splits around a pattern after a start without the first character of
the pattern. -/
theorem splitAround?_append {first : Char} {before : List Char}
    (pattern rest : List Char) (absent : first ∉ before) :
    splitAround? (first :: pattern) (before ++ (first :: pattern ++ rest)) =
      some (before, rest) := by
  induction before with
  | nil =>
      rw [List.nil_append, List.cons_append, splitAround?, ← List.cons_append,
        List.isPrefixOf?_eq_some_iff_append_eq.mpr rfl]
  | cons character before induction =>
      rw [List.mem_cons, not_or] at absent
      rw [List.cons_append, splitAround?, isPrefixOf?_cons_of_ne absent.1,
        induction absent.2]
      rfl

end TemplateEngine.Text
