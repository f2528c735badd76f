import TemplateEngine.Markup.Normalized
import TemplateEngine.Proofs.Text.Search

/-!
# What is left of a normalized source

A replaced spelling does not come back: what replaces it neither holds it nor
forms it together with the text around.  So a part of a normalized source
without comments is normalized as well.
-/

namespace TemplateEngine

namespace Text

section

variable {pattern other replacement text : List Char}

/-- Where a pattern does not occur, nothing is replaced. -/
theorem replaceAll_of_absent (replacement : List Char)
    (absent : ¬ pattern <:+: text) :
    replaceAll pattern replacement text = text := by
  induction text with
  | nil => rfl
  | cons character text induction =>
      have here : List.isPrefixOf? pattern (character :: text) = none :=
        isPrefixOf?_eq_none_iff.mpr fun starts => absent starts.isInfix
      have later : ¬ pattern <:+: text :=
        fun inside => absent (List.infix_cons inside)
      rw [replaceAll, replaceFrom, here]
      exact congrArg (character :: ·) (induction later)

/-- Whether no occurrence of a pattern starts in a text, whatever comes after
it. -/
def startsNone (pattern : List Char) : List Char → Bool
  | [] => true
  | character :: text =>
    !(character :: text).isPrefixOf pattern &&
      !pattern.isPrefixOf (character :: text) && startsNone pattern text

theorem not_prefix_append {start : List Char} (rest : List Char)
    (shorter : ¬ start <+: pattern) (longer : ¬ pattern <+: start) :
    ¬ pattern <+: start ++ rest := by
  intro starts
  rcases List.prefix_or_prefix_of_prefix starts
    (List.prefix_append start rest) with
    before | after
  · exact longer before
  · exact shorter after

/-- A text in which no occurrence of a pattern starts adds none to the text
after it. -/
theorem not_infix_append (foreign : startsNone pattern replacement = true)
    (absent : ¬ pattern <:+: text) : ¬ pattern <:+: replacement ++ text := by
  induction replacement with
  | nil => exact absent
  | cons character replacement induction =>
      simp only [startsNone, Bool.and_eq_true, Bool.not_eq_true',
        ← Bool.not_eq_true, List.isPrefixOf_iff_prefix] at foreign
      obtain ⟨⟨shorter, longer⟩, foreign⟩ := foreign
      rw [List.cons_append, List.infix_cons_iff, not_or]
      exact ⟨not_prefix_append text shorter longer, induction foreign⟩

theorem startsNone_of_not_mem {first : Char} {others : List Char}
    (absent : first ∉ text) : startsNone (first :: others) text = true := by
  induction text with
  | nil => rfl
  | cons character text induction =>
      rw [List.mem_cons, not_or] at absent
      have other : (first == character) = false := beq_false_of_ne absent.1
      have another : (character == first) = false :=
        beq_false_of_ne (Ne.symm absent.1)
      simp [startsNone, List.isPrefixOf, other, another, induction absent.2]

/-- A text that starts with the only mark in it holds a pattern with this mark
at its start only. -/
theorem not_infix_cons {mark : Char} (unmarked : mark ∉ text)
    (later : ¬ pattern <+: text) : ¬ mark :: pattern <:+: mark :: text := by
  rw [List.infix_cons_iff, List.cons_prefix_cons, not_or, not_and]
  exact ⟨fun _ => later,
    fun inside => unmarked (inside.subset List.mem_cons_self)⟩

/-- Two texts form an occurrence of two characters only where they meet. -/
theorem not_infix_append_pair {first last : Char} {more : List Char}
    (absent : ¬ [first, last] <:+: text) (after : ¬ [first, last] <:+: more)
    (apart : text.getLast? = some first → more.head? ≠ some last) :
    ¬ [first, last] <:+: text ++ more := by
  induction text with
  | nil => exact after
  | cons character text induction =>
      rw [List.infix_cons_iff, not_or] at absent
      rw [List.cons_append, List.infix_cons_iff, not_or]
      have later : ¬ [first, last] <:+: text ++ more := by
        refine induction absent.2 fun ends => apart ?_
        rw [List.getLast?_cons, ends, Option.getD_some]
      refine ⟨fun starts => ?_, later⟩
      obtain ⟨same, starts⟩ := List.cons_prefix_cons.mp starts
      cases text with
      | nil =>
          obtain ⟨rest, rfl⟩ := starts
          exact apart (by simp [same]) rfl
      | cons next text =>
          obtain ⟨follows, -⟩ := List.cons_prefix_cons.mp starts
          exact absent.1 (by simp [same, follows])

/-- A text without the last character of a pattern adds no occurrence of it to
the text before. -/
theorem not_infix_append_right {first last : Char} {more : List Char}
    (unmarked : last ∉ more) (absent : ¬ [first, last] <:+: text) :
    ¬ [first, last] <:+: text ++ more :=
  not_infix_append_pair absent
    (fun inside => unmarked (inside.subset (by simp)))
    fun _ head => unmarked (List.mem_of_head? head)

section

variable {mark : Char}

/-- A start without the character with which a pattern and its replacement start
is not changed by replacing. -/
theorem prefix_of_prefix_replaceFrom {start : List Char}
    (unmarked : mark ∉ start)
    (found :
      start <+: replaceFrom (mark :: pattern) (mark :: replacement) 0 text) :
    start <+: text := by
  induction start generalizing text with
  | nil => exact List.nil_prefix
  | cons first start induction =>
      rw [List.mem_cons, not_or] at unmarked
      cases text with
      | nil => exact found
      | cons character text =>
          rw [replaceFrom] at found
          split at found
          · exact absurd (List.cons_prefix_cons.mp found).1.symm unmarked.1
          · obtain ⟨same, found⟩ := List.cons_prefix_cons.mp found
            exact List.cons_prefix_cons.mpr ⟨same, induction unmarked.2 found⟩

/-- Replacing makes no new occurrences of a pattern, and leaves none of the one
it replaces. -/
theorem not_infix_replaceFrom {first : Char} {others : List Char}
    (unmarked : mark ∉ others)
    (foreign : startsNone (first :: others) (mark :: replacement) = true)
    (skip : Nat)
    (absent : first :: others = mark :: pattern ∨ ¬ first :: others <:+: text) :
    ¬ first :: others <:+:
      replaceFrom (mark :: pattern) (mark :: replacement) skip text := by
  induction text generalizing skip with
  | nil =>
      rw [replaceFrom]
      simp
  | cons character text induction =>
      have later :
          first :: others = mark :: pattern ∨ ¬ first :: others <:+: text :=
        absent.imp_right fun absent inside => absent (List.infix_cons inside)
      cases skip with
      | succ skip => exact induction skip later
      | zero =>
          rw [replaceFrom]
          split
          next => exact not_infix_append foreign (induction _ later)
          next unreplaced =>
            rw [List.infix_cons_iff, not_or]
            refine ⟨fun starts => ?_, induction 0 later⟩
            -- up to the next mark the text is the one before the replacements
            have before : first :: others <+: character :: text := by
              obtain ⟨same, starts⟩ := List.cons_prefix_cons.mp starts
              exact List.cons_prefix_cons.mpr
                ⟨same, prefix_of_prefix_replaceFrom unmarked starts⟩
            rcases absent with same | absent
            · exact isPrefixOf?_eq_none_iff.mp unreplaced (same ▸ before)
            · exact absent before.isInfix

end

end

end Text

namespace Markup

/-- A text in which no comment starts stays as it is. -/
theorem dropComments_of_absent {text : List Char}
    (absent : ¬ ['/', '*'] <:+: text) : dropComments text = text := by
  induction text with
  | nil => rfl
  | cons character text induction =>
      have later := induction fun inside => absent (List.infix_cons inside)
      rw [dropComments] at later ⊢
      rw [dropCommentsFrom.eq_def]
      split
      · contradiction
      · rename_i same
        cases same
        exact absurd (List.prefix_append ['/', '*'] _).isInfix absent
      · contradiction
      · rename_i same
        cases same
        exact congrArg (character :: ·) later
      · contradiction

/-- What normalizing without a namespace leaves out of a text without
comments. -/
structure IsNormal (text : List Char) : Prop where
  comments : ¬ ['/', '*'] <:+: text
  elses : ¬ "<blockelse />".toList <:+: text
  ends : ¬ "</block>".toList <:+: text

theorem IsNormal.of_part {text part : List Char} (isNormal : IsNormal text)
    (inside : part <:+: text) : IsNormal part where
  comments found := isNormal.comments (found.trans inside)
  elses found := isNormal.elses (found.trans inside)
  ends found := isNormal.ends (found.trans inside)

/-- A text without the characters with which comments and tags start is
normalized. -/
theorem IsNormal.of_not_mem {text : List Char} (noSlash : '/' ∉ text)
    (noTag : '<' ∉ text) : IsNormal text where
  comments inside := noSlash (inside.subset List.mem_cons_self)
  elses inside := noTag (inside.subset List.mem_cons_self)
  ends inside := noTag (inside.subset List.mem_cons_self)

theorem normalize_eq (source : List Char) :
    normalize [] source =
      Text.replaceAll "</block>".toList "</foreach>".toList (Text.replaceAll
        "<blockelse />".toList "<foreachelse />".toList
        (dropComments source)) :=
  rfl

theorem normalize_of_absent {tagNamespace text : List Char}
    (comments : ¬ ['/', '*'] <:+: text)
    (elses : ¬ "<".toList ++ tagNamespace ++ "blockelse />".toList <:+: text)
    (ends : ¬ "</".toList ++ tagNamespace ++ "block>".toList <:+: text) :
    normalize tagNamespace text = text := by
  rw [normalize, dropComments_of_absent comments,
    Text.replaceAll_of_absent _ elses, Text.replaceAll_of_absent _ ends]

theorem IsNormal.normalize {text : List Char} (isNormal : IsNormal text) :
    normalize [] text = text :=
  normalize_of_absent isNormal.comments isNormal.elses isNormal.ends

/-- Normalizing a text without comments brings out no pattern of which the new
tags start no occurrence. -/
theorem not_infix_normalize {first : Char} {others source : List Char}
    (unmarked : '<' ∉ others)
    (foreignElses :
      Text.startsNone (first :: others) "<foreachelse />".toList = true)
    (foreignEnds : Text.startsNone (first :: others) "</foreach>".toList = true)
    (noComment : ¬ ['/', '*'] <:+: source)
    (absent : ¬ first :: others <:+: source) :
    ¬ first :: others <:+: normalize [] source := by
  rw [normalize_eq, dropComments_of_absent noComment]
  exact Text.not_infix_replaceFrom unmarked foreignEnds 0
    (.inr (Text.not_infix_replaceFrom unmarked foreignElses 0 (.inr absent)))

/-- A source without comments is normalized once and for all. -/
theorem isNormal_normalize {source : List Char}
    (noComment : ¬ ['/', '*'] <:+: source) :
    IsNormal (normalize [] source) where
  comments :=
    not_infix_normalize (by decide) (by decide) (by decide) noComment noComment
  elses := by
    rw [normalize_eq]
    exact Text.not_infix_replaceFrom (by decide) (by decide) 0
      (.inr (Text.not_infix_replaceFrom (by decide) (by decide) 0 (.inl rfl)))
  ends := by
    rw [normalize_eq]
    exact Text.not_infix_replaceFrom (by decide) (by decide) 0 (.inl rfl)

end Markup
end TemplateEngine
