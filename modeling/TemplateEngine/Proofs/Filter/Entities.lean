import TemplateEngine.Proofs.Markup.Normalized
import TemplateEngine.Proofs.Value.Protected

/-!
# Entities and the characters they stand for

The entities of a protected text are replaced one kind after the other, the
ampersand last.  Until then every ampersand in it starts an entity, whichever
kinds are replaced already, so that no replacement makes an entity that a later
one would take for a written one.
-/

namespace TemplateEngine

namespace Text

section

variable {pattern replacement : List Char}

/-- Where no occurrence of a pattern starts, nothing is replaced, whatever comes
after it. -/
theorem replaceAll_append_of_startsNone {before : List Char} (rest : List Char)
    (foreign : startsNone pattern before = true) :
    replaceAll pattern replacement (before ++ rest) =
      before ++ replaceAll pattern replacement rest := by
  induction before with
  | nil => rfl
  | cons character before induction =>
      simp only [startsNone, Bool.and_eq_true, Bool.not_eq_true',
        ← Bool.not_eq_true, List.isPrefixOf_iff_prefix] at foreign
      obtain ⟨⟨shorter, longer⟩, foreign⟩ := foreign
      have here :
          List.isPrefixOf? pattern (character :: before ++ rest) = none :=
        isPrefixOf?_eq_none_iff.mpr (not_prefix_append rest shorter longer)
      rw [List.cons_append] at here ⊢
      rw [replaceAll, replaceFrom, here]
      exact congrArg (character :: ·) (induction foreign)

/-- What belongs to a replaced occurrence is left out. -/
theorem replaceFrom_length_append (skipped rest : List Char) :
    replaceFrom pattern replacement skipped.length (skipped ++ rest) =
      replaceAll pattern replacement rest := by
  induction skipped with
  | nil => rfl
  | cons character skipped induction =>
      rw [List.length_cons, List.cons_append, replaceFrom]
      exact induction

theorem replaceAll_append_self (rest : List Char) (filled : pattern ≠ []) :
    replaceAll pattern replacement (pattern ++ rest) =
      replacement ++ replaceAll pattern replacement rest := by
  obtain ⟨first, others, rfl⟩ := List.exists_cons_of_ne_nil filled
  have here :
      List.isPrefixOf? (first :: others) (first :: (others ++ rest)) =
        some rest :=
    List.isPrefixOf?_eq_some_iff_append_eq.mpr (by rw [List.cons_append])
  rw [List.cons_append, replaceAll, replaceFrom, here]
  exact congrArg (replacement ++ ·) (replaceFrom_length_append others rest)

/-- In a text that is written character by character, a pattern that is written
for some of them only is replaced there and nowhere else. -/
theorem replaceAll_flatMap {written changed : Char → List Char}
    (text : List Char) (filled : pattern ≠ [])
    (each :
      ∀ character,
        written character = pattern ∧ changed character = replacement ∨
          startsNone pattern (written character) = true ∧
            changed character = written character) :
    replaceAll pattern replacement (text.flatMap written) =
      text.flatMap changed := by
  induction text with
  | nil => rfl
  | cons character text induction =>
      rw [List.flatMap_cons, List.flatMap_cons]
      rcases each character with
        ⟨isPattern, isReplacement⟩ | ⟨foreign, unchanged⟩
      · rw [isPattern, isReplacement, replaceAll_append_self _ filled,
          induction]
      · rw [unchanged, replaceAll_append_of_startsNone _ foreign, induction]

end

end Text

namespace Filter

open Text (replaceAll startsNone startsNone_of_not_mem replaceAll_flatMap)

/-- The characters that are written as entities. -/
def marked : List Char := ['&', '<', '>', '"']

/-- How a character is written while the entities of some are replaced
already. -/
def entityUnless (restored : List Char) (character : Char) : List Char :=
  if character ∈ restored then [character] else entity character

theorem entity_of_not_mem {character : Char} (plain : character ∉ marked) :
    entity character = [character] := by
  simp only [marked, List.mem_cons, List.not_mem_nil, or_false, not_or] at plain
  unfold entity
  split <;> simp_all

/-- An entity starts with the only ampersand in it. -/
theorem exists_entity_eq {character : Char} (isMarked : character ∈ marked) :
    ∃ name, entity character = '&' :: name ∧ '&' ∉ name := by
  simp only [marked, List.mem_cons, List.not_mem_nil, or_false] at isMarked
  rcases isMarked with rfl | rfl | rfl | rfl
  · exact ⟨"amp;".toList, rfl, by decide⟩
  · exact ⟨"lt;".toList, rfl, by decide⟩
  · exact ⟨"gt;".toList, rfl, by decide⟩
  · exact ⟨"quot;".toList, rfl, by decide⟩

/-- No entity starts where another character than its own is written. -/
theorem startsNone_entityUnless {character other : Char} {restored : List Char}
    (isMarked : character ∈ marked) (different : other ≠ character)
    (ampersand : '&' ∉ restored) :
    startsNone (entity character) (entityUnless restored other) = true := by
  obtain ⟨name, written, -⟩ := exists_entity_eq isMarked
  have alone (plain : other ≠ '&') :
      startsNone (entity character) [other] = true := by
    rw [written]
    exact startsNone_of_not_mem (by simpa using Ne.symm plain)
  rw [entityUnless]
  split
  next restored => exact alone fun same => ampersand (same ▸ restored)
  next =>
    by_cases otherMarked : other ∈ marked
    · have apart : (marked.all fun character => marked.all fun other =>
          other == character ||
            startsNone (entity character) (entity other)) = true := by decide
      simp only [List.all_eq_true, Bool.or_eq_true, beq_iff_eq] at apart
      exact (apart character isMarked other otherMarked).resolve_left different
    · rw [entity_of_not_mem otherMarked]
      exact alone fun same => otherMarked (same ▸ List.mem_cons_self)

/-- One kind of entities is replaced, and all others stay. -/
theorem replaceAll_entity {character : Char} {restored : List Char}
    (text : List Char) (isMarked : character ∈ marked)
    (remains : character ∉ restored) (ampersand : '&' ∉ restored) :
    replaceAll (entity character) [character]
        (text.flatMap (entityUnless restored)) =
      text.flatMap (entityUnless (character :: restored)) := by
  obtain ⟨name, written, -⟩ := exists_entity_eq isMarked
  refine replaceAll_flatMap text (by simp [written]) fun other => ?_
  by_cases same : other = character
  · subst same
    exact .inl ⟨if_neg remains, if_pos List.mem_cons_self⟩
  · refine .inr ⟨startsNone_entityUnless isMarked same ampersand, ?_⟩
    simp [entityUnless, same]

theorem protect_eq (text : List Char) :
    protect text = text.flatMap (entityUnless []) := by
  have same : entityUnless [] = entity := by
    funext character
    exact if_neg List.not_mem_nil
  rw [same, protect]

theorem flatMap_entityUnless_of_subset {restored : List Char} (text : List Char)
    (all : marked ⊆ restored) :
    text.flatMap (entityUnless restored) = text := by
  have single : entityUnless restored = fun character => [character] := by
    funext character
    rw [entityUnless]
    split
    next => rfl
    next other => exact entity_of_not_mem fun isMarked => other (all isMarked)
  rw [single, List.flatMap_singleton']

theorem safe_protect (text : List Char) : safe (protect text) = text :=
  calc
    safe (protect text) =
        replaceAll (entity '&') ['&'] (replaceAll (entity '>') ['>']
          (replaceAll (entity '<') ['<'] (replaceAll (entity '"') ['"']
            (text.flatMap (entityUnless []))))) := by rw [← protect_eq]; rfl
    _ = text.flatMap (entityUnless ['&', '>', '<', '"']) := by
        rw [replaceAll_entity text (by decide) (by decide) (by decide),
          replaceAll_entity text (by decide) (by decide) (by decide),
          replaceAll_entity text (by decide) (by decide) (by decide),
          replaceAll_entity text (by decide) (by decide) (by decide)]
    _ = text := flatMap_entityUnless_of_subset text (by simp [marked])

/-- Whether every ampersand of a text starts an entity. -/
def HasOnlyEntities (text : List Char) : Prop :=
  ∀ rest, '&' :: rest <:+ text →
    ∃ written ∈ ["&amp;", "&lt;", "&gt;", "&quot;"],
      written.toList <+: '&' :: rest

theorem exists_written_of_mem {character : Char}
    (isMarked : character ∈ marked) :
    ∃ written ∈ ["&amp;", "&lt;", "&gt;", "&quot;"],
      written.toList = entity character := by
  simp only [marked, List.mem_cons, List.not_mem_nil, or_false] at isMarked
  rcases isMarked with rfl | rfl | rfl | rfl
  · exact ⟨"&amp;", by simp, rfl⟩
  · exact ⟨"&lt;", by simp, rfl⟩
  · exact ⟨"&gt;", by simp, rfl⟩
  · exact ⟨"&quot;", by simp, rfl⟩

/-- Only what is written as an entity holds an ampersand, and that starts with
it. -/
theorem entity_split {character : Char} {before after : List Char}
    (split : entity character = before ++ '&' :: after) :
    before = [] ∧ ∃ written ∈ ["&amp;", "&lt;", "&gt;", "&quot;"],
      written.toList = entity character := by
  by_cases isMarked : character ∈ marked
  · obtain ⟨name, starts, single⟩ := exists_entity_eq isMarked
    refine ⟨?_, exists_written_of_mem isMarked⟩
    cases before with
    | nil => rfl
    | cons first before =>
        rw [starts] at split
        obtain ⟨-, rfl⟩ := List.cons_eq_cons.mp split
        exact absurd (List.mem_append_right before List.mem_cons_self) single
  · rw [entity_of_not_mem isMarked] at split
    cases before with
    | nil =>
        obtain ⟨rfl, -⟩ := List.cons_eq_cons.mp split
        exact absurd List.mem_cons_self isMarked
    | cons first before =>
        obtain ⟨-, none⟩ := List.cons_eq_cons.mp split
        exact absurd none.symm
          (List.append_ne_nil_of_right_ne_nil _ (List.cons_ne_nil _ _))

theorem hasOnlyEntities_protect (text : List Char) :
    HasOnlyEntities (protect text) := by
  induction text with
  | nil =>
      rintro rest ⟨before, split⟩
      cases List.append_eq_nil_iff.mp split |>.2
  | cons character text induction =>
      rintro rest ⟨before, split⟩
      have whole :
          protect (character :: text) = entity character ++ protect text := rfl
      rw [whole] at split
      rcases List.append_eq_append_iff.mp split with
        ⟨inside, here, later⟩ | ⟨skipped, -, later⟩
      · cases inside with
        | nil => exact induction rest ⟨[], later⟩
        | cons first name =>
            obtain ⟨rfl, -⟩ := List.cons_eq_cons.mp later
            obtain ⟨rfl, written, listed, spelled⟩ := entity_split here
            exact ⟨written, listed, protect text,
              by rw [spelled, later, here, List.nil_append]⟩
      · exact induction rest ⟨skipped, later.symm⟩

/-- Replacing the entities of a protected text gives the text back, and a
protected text holds no character with a meaning in HTML but the ampersands of
its entities. -/
theorem protects_reversibly (text : List Char) :
    safe (protect text) = text ∧ IsProtected (protect text) ∧
      HasOnlyEntities (protect text) :=
  ⟨safe_protect text, isProtected_protect text, hasOnlyEntities_protect text⟩

/-- The ampersands come last, so that a written entity is not taken for one that
stands for itself. -/
example :
    protect "&lt;".toList = "&amp;lt;".toList ∧
      safe "&amp;lt;".toList = "&lt;".toList := by
  decide

end Filter
end TemplateEngine
