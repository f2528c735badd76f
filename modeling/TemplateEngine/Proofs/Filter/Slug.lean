import TemplateEngine.Filter.Builtin
import TemplateEngine.Proofs.Text.Lowered
import TemplateEngine.Proofs.Text.Search
import TemplateEngine.Proofs.Text.Trimmed

/-!
# Slugs

A slug is made of what the words of a text have in ASCII, in lower case, with
single dashes between them.  A word of another script may have nothing in ASCII
and leaves an empty group between dashes.  So a slug is well formed just if no
word is lost in this way among several.  A slug of a slug always is, and those
that are well formed are the texts that are their own slugs.
-/

namespace TemplateEngine.Filter

open Text (isSmallAlphanumeric isAsciiAlphanumeric)

variable {text word : List Char} {character : Char}

/-! ## Words -/

/-- A character of a word, or a dash in the place of one that separates
words. -/
def separated (character : Char) : Char :=
  if isSlugCharacter character then character else '-'

/-- The words of a text: its runs of letters and digits. -/
def words (text : List Char) : List (List Char) :=
  (List.splitOn '-' (text.map separated)).filter fun word => !word.isEmpty

/-- Whether a text is a part of a word. -/
def IsWordPart (word : List Char) : Prop :=
  ∀ character ∈ word, isSlugCharacter character = true

theorem not_isSlugCharacter_dash : isSlugCharacter '-' = false := by
  decide

/-- Nothing changes where dashes are all that separates words. -/
theorem map_separated
    (dashes :
      ∀ character ∈ text, isSlugCharacter character = true ∨ character = '-') :
    text.map separated = text := by
  have same : ∀ character ∈ text, separated character = id character := by
    intro character member
    rcases dashes character member with isSlug | rfl
    · exact if_pos isSlug
    · exact ite_self '-'
  rw [List.map_congr_left same, List.map_id]

theorem IsWordPart.dash_not_mem (isPart : IsWordPart word) : '-' ∉ word := by
  intro member
  have isSlug := isPart '-' member
  rw [not_isSlugCharacter_dash] at isSlug
  cases isSlug

theorem words_append_separator (other : isSlugCharacter character = false)
    (before after : List Char) :
    words (before ++ character :: after) = words before ++ words after := by
  have dash : separated character = '-' := by simp [separated, other]
  rw [words, List.map_append, List.map_cons, dash,
    List.splitOn_append_cons_self, List.filter_append]
  rfl

theorem words_of_isWordPart (isPart : IsWordPart word) (filled : word ≠ []) :
    words word = [word] := by
  have same :=
    map_separated fun character member => .inl (isPart character member)
  rw [words, same, List.splitOn_eq_singleton isPart.dash_not_mem]
  simp [filled]

theorem words_nil : words [] = [] :=
  rfl

theorem words_of_separators
    (separators : ∀ character ∈ text, isSlugCharacter character = false) :
    words text = [] := by
  induction text with
  | nil => rfl
  | cons character text induction =>
      obtain ⟨first, later⟩ := List.forall_mem_cons.mp separators
      have split := words_append_separator first [] text
      rw [List.nil_append, words_nil, List.nil_append, induction later] at split
      exact split

theorem isNamePart_of_isSlugCharacter
    (isSlug : isSlugCharacter character = true) :
    Text.isNamePart character = true := by
  simp only [isSlugCharacter, Bool.and_eq_true, Bool.or_eq_true, Text.isLetter,
    Text.isDigit] at isSlug
  simp only [Text.isNamePart, Text.isAlphanumeric, Text.isAlphabetic,
    Text.isAsciiAlphanumeric, Bool.or_eq_true]
  left
  obtain ⟨letter | digit, -⟩ := isSlug
  · split at letter <;> simp_all
  · split at digit <;> simp_all

theorem not_isSlugCharacter_of_isBlank (blank : Text.isBlank character = true) :
    isSlugCharacter character = false := by
  rw [← Bool.not_eq_true]
  intro isSlug
  have isPart := isNamePart_of_isSlugCharacter isSlug
  rw [Text.isNamePart_of_isBlank blank] at isPart
  cases isPart

theorem words_append_blanks (text : List Char) {blanks : List Char}
    (allBlank : ∀ blank ∈ blanks, Text.isBlank blank = true) :
    words (text ++ blanks) = words text := by
  cases blanks with
  | nil => rw [List.append_nil]
  | cons first blanks =>
      have separators :
          ∀ blank ∈ first :: blanks, isSlugCharacter blank = false :=
        fun blank member =>
          not_isSlugCharacter_of_isBlank (allBlank blank member)
      obtain ⟨firstSeparates, later⟩ := List.forall_mem_cons.mp separators
      rw [words_append_separator firstSeparates, words_of_separators later,
        List.append_nil]

theorem words_blanks_append (text : List Char) {blanks : List Char}
    (allBlank : ∀ blank ∈ blanks, Text.isBlank blank = true) :
    words (blanks ++ text) = words text := by
  induction blanks with
  | nil => rfl
  | cons first blanks induction =>
      obtain ⟨firstBlank, later⟩ := List.forall_mem_cons.mp allBlank
      have split :=
        words_append_separator (not_isSlugCharacter_of_isBlank firstBlank) []
          (blanks ++ text)
      rw [List.nil_append, words_nil, List.nil_append, induction later] at split
      exact split

/-- Blanks at the ends do not change the words. -/
theorem words_trim (text : List Char) :
    words (Text.trim text) = words text := by
  obtain ⟨before, start, allBefore⟩ := Text.exists_append_trimStart text
  obtain ⟨after, finish, allAfter⟩ :=
    Text.exists_trimEnd_append (Text.trimStart text)
  calc
    words (Text.trim text) = words (Text.trim text ++ after) :=
      (words_append_blanks _ allAfter).symm
    _ = words (Text.trimStart text) := congrArg words finish.symm
    _ = words (before ++ Text.trimStart text) :=
      (words_blanks_append _ allBefore).symm
    _ = words text := congrArg words start.symm

theorem isWordPart_of_mem_words (member : word ∈ words text) :
    IsWordPart word := by
  obtain ⟨isPart, -⟩ := List.mem_filter.mp member
  intro character inside
  obtain ⟨source, -, same⟩ :=
    List.mem_map.mp (Text.subset_of_mem_splitOn isPart inside)
  have noDash : character ≠ '-' := by
    rintro rfl
    exact Text.separator_not_mem_of_mem_splitOn isPart inside
  rw [separated] at same
  split at same
  next isSlug => rwa [← same]
  next => exact absurd same.symm noDash

theorem ne_nil_of_mem_words (member : word ∈ words text) : word ≠ [] := by
  obtain ⟨-, filled⟩ := List.mem_filter.mp member
  simpa using filled

/-! ## Dashes between words -/

/-- Whether a text is words with single dashes between them, or also with one
after the last. -/
def IsSpaced (words : List (List Char)) (text : List Char) : Prop :=
  text = List.intercalate ['-'] words ∨
    words ≠ [] ∧ text = List.intercalate ['-'] words ++ ['-']

theorem IsSpaced.cons {words : List (List Char)} (spaced : IsSpaced words text)
    (word : List Char) : IsSpaced (word :: words) (word ++ '-' :: text) := by
  cases words with
  | nil =>
      rcases spaced with rfl | ⟨filled, -⟩
      · exact .inr ⟨List.cons_ne_nil _ _, by simp⟩
      · exact absurd rfl filled
  | cons next words =>
      have joined : List.intercalate ['-'] (word :: next :: words) =
          word ++ '-' :: List.intercalate ['-'] (next :: words) := by
        rw [List.intercalate_cons_cons, List.append_assoc]
        rfl
      rcases spaced with rfl | ⟨-, rfl⟩
      · exact .inl joined.symm
      · exact .inr ⟨List.cons_ne_nil _ _, by simp [joined]⟩

/-- The words of a text are spaced by dashes behind a separator, and behind a
part of a word, which then comes first. -/
theorem isSpaced_dashed (text : List Char) :
    IsSpaced (words text) (dashed true text) ∧
      ∀ word, IsWordPart word → word ≠ [] →
        IsSpaced (words (word ++ text)) (word ++ dashed false text) := by
  induction text with
  | nil =>
      constructor
      · exact .inl rfl
      · intro word isPart filled
        rw [List.append_nil, words_of_isWordPart isPart filled]
        exact .inl (by simp [dashed])
  | cons character text induction =>
      obtain ⟨behind, within⟩ := induction
      cases isSlug : isSlugCharacter character with
      | true =>
          have isPart : IsWordPart [character] := by
            simpa [IsWordPart] using isSlug
          constructor
          · rw [dashed, if_pos isSlug]
            exact within [character] isPart (List.cons_ne_nil _ _)
          · intro word wordPart _
            have longer : IsWordPart (word ++ [character]) :=
              List.forall_mem_append.mpr ⟨wordPart, isPart⟩
            rw [dashed, if_pos isSlug]
            simpa using within (word ++ [character]) longer (by simp)
      | false =>
          constructor
          · have separates : words (character :: text) = words text :=
              words_append_separator isSlug [] text
            simpa [dashed, isSlug, separates] using behind
          · intro word isPart filled
            rw [words_append_separator isSlug,
              words_of_isWordPart isPart filled]
            simpa [dashed, isSlug] using behind.cons word

theorem dashed_false_cases (text : List Char) :
    dashed false text = dashed true text ∨
      dashed false text = '-' :: dashed true text := by
  cases text with
  | nil => exact .inl rfl
  | cons character text =>
      cases isSlug : isSlugCharacter character with
      | true => exact .inl (by simp [dashed, isSlug])
      | false => exact .inr (by simp [dashed, isSlug])

/-! ## Dashes at the ends -/

theorem trimDashes_cons (text : List Char) :
    trimDashes ('-' :: text) = trimDashes text :=
  rfl

theorem trimDashes_append {first last : Char} (starts : text.head? = some first)
    (ends : text.getLast? = some last) (firstOther : first ≠ '-')
    (lastOther : last ≠ '-') {ending : List Char}
    (shape : ending = [] ∨ ending = ['-']) :
    trimDashes (text ++ ending) = text := by
  obtain ⟨rest, rfl⟩ := List.head?_eq_some_iff.mp starts
  have kept :
      (first :: rest ++ ending).dropWhile (· == '-') =
        first :: rest ++ ending := by
    simp [firstOther]
  obtain ⟨before, same⟩ := List.getLast?_eq_some_iff.mp ends
  rw [trimDashes, kept, same]
  rcases shape with rfl | rfl <;> simp [lastOther]

theorem exists_ends_join {words : List (List Char)} (filled : words ≠ [])
    (parts : ∀ word ∈ words, word ≠ [] ∧ '-' ∉ word) :
    ∃ first last, (List.intercalate ['-'] words).head? = some first ∧
      (List.intercalate ['-'] words).getLast? = some last ∧ first ≠ '-' ∧
      last ≠ '-' := by
  induction words with
  | nil => exact absurd rfl filled
  | cons word words induction =>
      obtain ⟨⟨wordFilled, noDash⟩, others⟩ := List.forall_mem_cons.mp parts
      obtain ⟨first, starts⟩ : ∃ first, word.head? = some first :=
        Option.isSome_iff_exists.mp (by simpa using wordFilled)
      obtain ⟨last, ends⟩ : ∃ last, word.getLast? = some last :=
        Option.isSome_iff_exists.mp (by simpa using wordFilled)
      have firstOther : first ≠ '-' := by
        rintro rfl
        exact noDash (List.mem_of_head? starts)
      have lastOther : last ≠ '-' := by
        rintro rfl
        exact noDash (List.mem_of_getLast? ends)
      cases words with
      | nil =>
          refine ⟨first, last, ?_, ?_, firstOther, lastOther⟩
          · simpa using starts
          · simpa using ends
      | cons next words =>
          obtain ⟨-, final, -, finalEnds, -, finalOther⟩ :=
            induction (List.cons_ne_nil _ _) others
          refine ⟨first, final, ?_, ?_, firstOther, finalOther⟩
          · rw [List.intercalate_cons_cons, List.append_assoc,
              List.head?_append, starts]
            rfl
          · rw [List.intercalate_cons_cons, List.getLast?_append, finalEnds]
            rfl

/-- Of the dashes only those between words remain. -/
theorem trimDashes_dashed (text : List Char) :
    trimDashes (dashed false text) = List.intercalate ['-'] (words text) := by
  have inner :
      trimDashes (dashed false text) = trimDashes (dashed true text) := by
    rcases dashed_false_cases text with same | dash
    · rw [same]
    · rw [dash, trimDashes_cons]
  rw [inner]
  obtain ⟨spaced, -⟩ := isSpaced_dashed text
  by_cases filled : words text = []
  · rcases spaced with same | ⟨some, -⟩
    · rw [same, filled]
      rfl
    · exact absurd filled some
  · have parts : ∀ word ∈ words text, word ≠ [] ∧ '-' ∉ word :=
      fun word member =>
        ⟨ne_nil_of_mem_words member,
          (isWordPart_of_mem_words member).dash_not_mem⟩
    obtain ⟨first, last, starts, ends, firstOther, lastOther⟩ :=
      exists_ends_join filled parts
    have trims {ending : List Char} (shape : ending = [] ∨ ending = ['-']) :=
      trimDashes_append starts ends firstOther lastOther shape
    rcases spaced with same | ⟨-, same⟩
    · rw [same]
      simpa using trims (.inl rfl)
    · rw [same]
      exact trims (.inr rfl)

/-! ## Words in ASCII -/

/-- The characters that a slug may have. -/
def isKept (character : Char) : Bool :=
  isAsciiAlphanumeric character || character == '_' || character == '-'

/-- What a word leaves in a slug: its letters and digits of ASCII, in lower
case. -/
def plain (word : List Char) : List Char :=
  word.flatMap fun character =>
    (Text.lower character).filter isAsciiAlphanumeric

theorem filter_lower (isSlug : isSlugCharacter character = true) :
    (Text.lower character).filter isKept =
      (Text.lower character).filter isAsciiAlphanumeric := by
  apply List.filter_congr
  intro lowered member
  obtain ⟨noLine, noDash⟩ : lowered ≠ '_' ∧ lowered ≠ '-' := by
    rcases Text.lower_cases member with ⟨ascii, rfl⟩ | large | known
    · have words :
          ∀ code < 0x80, isSlugCharacter (Char.ofNat code) = true →
            (Char.ofNat code).toLower ≠ '_' ∧
              (Char.ofNat code).toLower ≠ '-' := by decide +kernel
      obtain ⟨code, below, rfl⟩ := Text.exists_ascii ascii
      exact words code below isSlug
    · constructor <;> rintro rfl <;> exact absurd large (by decide)
    · constructor <;> rintro rfl <;> exact absurd known (by decide)
  rw [isKept, beq_false_of_ne noLine, beq_false_of_ne noDash, Bool.or_false,
    Bool.or_false]

theorem flatMap_join (change : Char → List Char) (dash : change '-' = ['-'])
    (words : List (List Char)) :
    (List.intercalate ['-'] words).flatMap change =
      List.intercalate ['-'] (words.map fun word => word.flatMap change) := by
  induction words with
  | nil => rfl
  | cons word words induction =>
      cases words with
      | nil => simp
      | cons next words =>
          rw [List.map_cons] at induction
          rw [List.map_cons, List.map_cons, List.intercalate_cons_cons,
            List.intercalate_cons_cons, List.flatMap_append,
            List.flatMap_append, induction]
          simp [dash]

/-- Before the text for an empty slug is put in its place, a slug is what the
words leave, with dashes between them. -/
theorem slug_eq (text : List Char) :
    slug text =
      if (List.intercalate ['-'] ((words text).map plain)).isEmpty then
        "n-a".toList
      else List.intercalate ['-'] ((words text).map plain) := by
  have letters :
      (Text.lowerText (trimDashes (dashed false (Text.trim text)))).filter
          isKept =
        List.intercalate ['-'] ((words text).map plain) := by
    rw [trimDashes_dashed, words_trim,
      Text.filter_lowerText (by decide) (by decide), flatMap_join _ (by decide)]
    congr 1
    apply List.map_congr_left
    intro word member
    rw [plain, List.flatMap_def, List.flatMap_def]
    congr 1
    apply List.map_congr_left
    intro character inside
    exact filter_lower (isWordPart_of_mem_words member character inside)
  rw [← letters]
  rfl

theorem isSmall_of_mem_plain (member : character ∈ plain word) :
    isSmallAlphanumeric character = true := by
  obtain ⟨source, -, lowered⟩ := List.mem_flatMap.mp member
  obtain ⟨fromSource, isAscii⟩ := List.mem_filter.mp lowered
  exact Text.isSmall_of_mem_lower fromSource isAscii

theorem plain_of_isSmall
    (small : ∀ character ∈ word, isSmallAlphanumeric character = true) :
    plain word = word := by
  induction word with
  | nil => rfl
  | cons character word induction =>
      obtain ⟨isSmall, others⟩ := List.forall_mem_cons.mp small
      have isAscii := Text.isAsciiAlphanumeric_of_isSmall isSmall
      rw [plain] at induction ⊢
      rw [List.flatMap_cons, induction others, Text.lower_of_isSmall isSmall]
      simp [isAscii]

/-! ## Slugs -/

/-- A text that is well formed as a slug: groups of small letters and digits,
none of them empty, with single dashes between them. -/
def IsSlug (text : List Char) : Prop :=
  ∀ group ∈ List.splitOn '-' text,
    group ≠ [] ∧ ∀ character ∈ group, isSmallAlphanumeric character = true

instance (text : List Char) : Decidable (IsSlug text) :=
  decidable_of_iff
    ((List.splitOn '-' text).all fun group =>
      !group.isEmpty && group.all isSmallAlphanumeric) (by simp [IsSlug])

/-- The slug of a text without words. -/
theorem isSlug_fallback : IsSlug "n-a".toList := by
  decide

/-- A text of small letters, digits and dashes, wherever the dashes are. -/
def IsPlain (text : List Char) : Prop :=
  ∀ character ∈ text, isSmallAlphanumeric character = true ∨ character = '-'

theorem isSlugCharacter_of_isSmall
    (isSmall : isSmallAlphanumeric character = true) :
    isSlugCharacter character = true := by
  have known : ∀ code < 0x80, isSmallAlphanumeric (Char.ofNat code) = true →
      isSlugCharacter (Char.ofNat code) = true := by decide +kernel
  obtain ⟨code, below, rfl⟩ :=
    Text.exists_ascii (Text.toNat_lt_of_isAsciiAlphanumeric
      (Text.isAsciiAlphanumeric_of_isSmall isSmall))
  exact known code below isSmall

theorem dash_not_mem_of_isSmall
    (small : ∀ character ∈ word, isSmallAlphanumeric character = true) :
    '-' ∉ word := by
  have isPart : IsWordPart word :=
    fun character member => isSlugCharacter_of_isSmall (small character member)
  exact isPart.dash_not_mem

theorem isPlain_join {groups : List (List Char)}
    (small : ∀ group ∈ groups,
      ∀ character ∈ group, isSmallAlphanumeric character = true) :
    IsPlain (List.intercalate ['-'] groups) := by
  induction groups with
  | nil =>
      intro character member
      cases member
  | cons group groups induction =>
      obtain ⟨first, others⟩ := List.forall_mem_cons.mp small
      cases groups with
      | nil =>
          intro character member
          rw [List.intercalate_singleton] at member
          exact .inl (first character member)
      | cons next groups =>
          intro character member
          rw [List.intercalate_cons_cons, List.mem_append, List.mem_append]
            at member
          obtain (inFirst | dash) | later := member
          · exact .inl (first character inFirst)
          · exact .inr (List.mem_singleton.mp dash)
          · exact induction others character later

theorem IsSlug.isPlain (isSlug : IsSlug text) : IsPlain text := by
  have joined : List.intercalate ['-'] (List.splitOn '-' text) = text :=
    List.intercalate_splitOn '-'
  rw [← joined]
  exact isPlain_join fun group member => (isSlug group member).2

theorem small_of_mem_map_plain {words : List (List Char)} {group : List Char}
    (member : group ∈ words.map plain) :
    ∀ character ∈ group, isSmallAlphanumeric character = true := by
  obtain ⟨word, -, rfl⟩ := List.mem_map.mp member
  intro character inside
  exact isSmall_of_mem_plain inside

theorem isPlain_slug (text : List Char) : IsPlain (slug text) := by
  rw [slug_eq]
  split
  · exact isSlug_fallback.isPlain
  · exact isPlain_join fun _ member => small_of_mem_map_plain member

theorem IsPlain.map_separated (isPlain : IsPlain text) :
    text.map separated = text :=
  Filter.map_separated fun character member =>
    (isPlain character member).imp_left isSlugCharacter_of_isSmall

/-- The words of a text of small letters, digits and dashes are what is between
the dashes, and nothing of them is lost. -/
theorem IsPlain.map_plain_words (isPlain : IsPlain text) :
    (words text).map plain = words text := by
  have same : ∀ word ∈ words text, plain word = id word := by
    intro word member
    apply plain_of_isSmall
    intro character inside
    have part := (List.mem_filter.mp member).1
    rw [isPlain.map_separated] at part
    rcases isPlain character (Text.subset_of_mem_splitOn part inside) with
      isSmall | rfl
    · exact isSmall
    · exact absurd inside (Text.separator_not_mem_of_mem_splitOn part)
  rw [List.map_congr_left same, List.map_id]

theorem isSlug_join {groups : List (List Char)} (filled : groups ≠ [])
    (small : ∀ group ∈ groups,
      ∀ character ∈ group, isSmallAlphanumeric character = true) :
    IsSlug (List.intercalate ['-'] groups) ↔ ∀ group ∈ groups, group ≠ [] := by
  have split := List.splitOn_intercalate '-'
    (fun group member => dash_not_mem_of_isSmall (small group member)) filled
  rw [IsSlug, split]
  constructor
  · intro isSlug group member
    exact (isSlug group member).1
  · intro nonempty group member
    exact ⟨nonempty group member, small group member⟩

theorem length_le_of_join_eq_nil {groups : List (List Char)}
    (empty : List.intercalate ['-'] groups = []) : groups.length ≤ 1 := by
  match groups with
  | [] => exact Nat.zero_le 1
  | [_] => exact Nat.le_refl 1
  | first :: next :: later =>
      rw [List.intercalate_cons_cons] at empty
      simp at empty

/-- A slug is well formed unless, of several words, one has nothing in ASCII. -/
theorem isSlug_slug_iff (text : List Char) :
    IsSlug (slug text) ↔
      (words text).length ≤ 1 ∨ ∀ word ∈ words text, plain word ≠ [] := by
  rw [slug_eq]
  by_cases empty : List.intercalate ['-'] ((words text).map plain) = []
  · have single := length_le_of_join_eq_nil empty
    rw [List.length_map] at single
    rw [if_pos (by simp [empty])]
    simp only [isSlug_fallback, single, true_or]
  · have groups : (words text).map plain ≠ [] := by
      intro none
      exact empty (by rw [none]; rfl)
    rw [if_neg (by simpa using empty),
      isSlug_join groups fun _ member => small_of_mem_map_plain member,
      List.forall_mem_map]
    constructor
    · exact .inr
    · rintro (single | nonempty) word member
      · obtain ⟨only, same⟩ : ∃ only, words text = [only] :=
          List.length_eq_one_iff.mp
            (Nat.le_antisymm single (List.length_pos_of_mem member))
        rw [same, List.mem_singleton] at member
        subst member
        simpa [same] using empty
      · exact nonempty word member

theorem IsPlain.isSlug_slug (isPlain : IsPlain text) : IsSlug (slug text) := by
  rw [isSlug_slug_iff]
  right
  intro word member
  have kept : plain word ∈ words text := by
    rw [← isPlain.map_plain_words]
    exact List.mem_map_of_mem member
  exact ne_nil_of_mem_words kept

/-- The texts that are well formed are those that are their own slugs. -/
theorem slug_eq_self_iff (text : List Char) :
    slug text = text ↔ IsSlug text := by
  constructor
  · intro same
    have isPlain := isPlain_slug text
    rw [same] at isPlain
    rw [← same]
    exact isPlain.isSlug_slug
  · intro isSlug
    have isPlain := isSlug.isPlain
    have groups : words text = List.splitOn '-' text := by
      rw [words, isPlain.map_separated, List.filter_eq_self]
      intro group member
      simpa using (isSlug group member).1
    have filled : text ≠ [] := by
      rintro rfl
      exact (isSlug [] List.mem_cons_self).1 rfl
    rw [slug_eq, isPlain.map_plain_words, groups, List.intercalate_splitOn,
      if_neg (by simpa using filled)]

theorem invoke_slugify (input : Value) (arguments : List Value) :
    Filters.invoke Filters.builtin "slugify" input arguments =
      .ok (.text (String.ofList (slug input.print))) :=
  rfl

/-- A slug has only small letters and digits of ASCII and dashes.  It is well
formed, with single dashes between groups that are not empty, unless one of
several words has nothing in ASCII.  The slug of a slug is always well formed,
and it is the slug itself just if that is. -/
theorem slugify_isSlug_iff (input : Value) (arguments others : List Value) :
    ∃ result again : String,
      Filters.invoke Filters.builtin "slugify" input arguments =
          .ok (.text result) ∧
        Filters.invoke Filters.builtin "slugify" (.text result) others =
          .ok (.text again) ∧
        IsPlain result.toList ∧
        (IsSlug result.toList ↔
          (words input.print).length ≤ 1 ∨
            ∀ word ∈ words input.print, plain word ≠ []) ∧
        (again = result ↔ IsSlug result.toList) ∧ IsSlug again.toList := by
  have twice :
      (Value.text (String.ofList (slug input.print))).print =
        slug input.print :=
    String.toList_ofList
  refine ⟨String.ofList (slug input.print),
    String.ofList (slug (slug input.print)), invoke_slugify input arguments, ?_,
    ?_⟩
  · rw [invoke_slugify, twice]
  · simp only [String.toList_ofList, String.ofList_inj]
    refine ⟨isPlain_slug _, isSlug_slug_iff _, slug_eq_self_iff _, ?_⟩
    exact (isPlain_slug _).isSlug_slug

example : slug "a é b".toList = "a--b".toList := by
  decide +kernel

end TemplateEngine.Filter
