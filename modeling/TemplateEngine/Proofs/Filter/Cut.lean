import TemplateEngine.Filter.Builtin
import TemplateEngine.Proofs.Number.Rounded
import TemplateEngine.Proofs.Text.Trimmed

/-!
# Texts that are cut at the end of a word

A text that is too long is cut behind the longest start that ends with a word
and leaves room for the ending.  Where there is none, nothing but the ending
remains.
-/

namespace TemplateEngine

/-! ## Blanks at the end -/

namespace Text

theorem trimEnd_trimEnd (text : List Char) :
    trimEnd (trimEnd text) = trimEnd text := by
  rw [trimEnd, trimEnd, List.reverse_reverse, List.dropWhile_idempotent]

/-- A text without blanks at its end remains of every longer one. -/
theorem prefix_trimEnd_append {text : List Char} (trimmed : trimEnd text = text)
    (more : List Char) : text <+: trimEnd (text ++ more) := by
  rw [trimEnd, List.reverse_append, List.dropWhile_append]
  split
  next =>
    have kept : (text.reverse.dropWhile isBlank).reverse = text := trimmed
    rw [kept]
  next => simp

end Text

namespace Filter

open Text (isBlank trimEnd)

/-- Whether a text starts with whole words: with nothing, or with a text that
has no blanks at its end and is followed by one. -/
structure IsWordStart (start text : List Char) : Prop where
  starts : start <+: text
  trimmed : trimEnd start = start
  followed : start ≠ [] →
    ∃ blank rest, text = start ++ blank :: rest ∧ isBlank blank = true

variable {text start other : List Char}

theorem isWordStart_nil (text : List Char) : IsWordStart [] text :=
  ⟨List.nil_prefix, rfl, fun filled => absurd rfl filled⟩

theorem IsWordStart.append (isStart : IsWordStart start text)
    (rest : List Char) : IsWordStart start (text ++ rest) := by
  constructor
  · exact isStart.starts.trans (List.prefix_append text rest)
  · exact isStart.trimmed
  · intro filled
    obtain ⟨blank, after, rfl, isBlank⟩ := isStart.followed filled
    exact ⟨blank, after ++ rest, by simp, isBlank⟩

/-! ## The last blank -/

/-- The text before the last blank is known by where this blank stands. -/
theorem beforeLastBlank_cases (text : List Char) :
    ((∀ character ∈ text, isBlank character = false) ∧
        beforeLastBlank text = []) ∨
      ∃ before blank after, text = before ++ blank :: after ∧
        isBlank blank = true ∧
        (∀ character ∈ after, isBlank character = false) ∧
        beforeLastBlank text = trimEnd before := by
  have parts :=
    List.takeWhile_append_dropWhile (p := fun c => !isBlank c)
      (l := text.reverse)
  have visible : ∀ character ∈ text.reverse.takeWhile fun c => !isBlank c,
      isBlank character = false := by
    intro character member
    simpa using List.mem_takeWhile_imp member
  have last := List.head?_dropWhile_not (fun c => !isBlank c) text.reverse
  unfold beforeLastBlank
  generalize (text.reverse.takeWhile fun c => !isBlank c) = after
    at parts visible
  cases found : text.reverse.dropWhile fun c => !isBlank c with
  | nil =>
      left
      rw [found, List.append_nil] at parts
      refine ⟨fun character member => visible character ?_, rfl⟩
      rw [parts]
      exact List.mem_reverse.mpr member
  | cons blank before =>
      right
      rw [found] at parts last
      refine ⟨before.reverse, blank, after.reverse, ?_, ?_, ?_, rfl⟩
      · have whole := congrArg List.reverse parts
        simpa using whole.symm
      · simpa using last
      · intro character member
        exact visible character (List.mem_reverse.mp member)

theorem isWordStart_beforeLastBlank (text : List Char) :
    IsWordStart (beforeLastBlank text) text := by
  rcases beforeLastBlank_cases text with
    ⟨-, none⟩ | ⟨before, blank, after, rfl, isBlank, -, some⟩
  · rw [none]
    exact isWordStart_nil text
  · rw [some]
    obtain ⟨blanks, split, allBlank⟩ := Text.exists_trimEnd_append before
    have follows :
        ∃ next rest, before ++ blank :: after = trimEnd before ++ next :: rest ∧
          Text.isBlank next = true := by
      cases blanks with
      | nil =>
          rw [List.append_nil] at split
          exact ⟨blank, after, by rw [← split], isBlank⟩
      | cons first blanks =>
          refine ⟨first, blanks ++ blank :: after, ?_,
            allBlank first List.mem_cons_self⟩
          rw [← List.cons_append, ← List.append_assoc, ← split]
    obtain ⟨next, rest, whole, nextBlank⟩ := follows
    constructor
    · rw [whole]
      exact List.prefix_append _ _
    · exact Text.trimEnd_trimEnd before
    · intro _
      exact ⟨next, rest, whole, nextBlank⟩

/-- What ends with a word within a text ends before its last blank. -/
theorem length_le_beforeLastBlank (isStart : IsWordStart other text) :
    other.length ≤ (beforeLastBlank text).length := by
  by_cases filled : other = []
  · rw [filled]
    exact Nat.zero_le _
  obtain ⟨blank, rest, rfl, isBlank⟩ := isStart.followed filled
  rcases beforeLastBlank_cases (other ++ blank :: rest) with
    ⟨none, -⟩ | ⟨before, last, after, same, -, visible, found⟩
  · have isVisible := none blank (by simp)
    rw [isBlank] at isVisible
    cases isVisible
  · -- The blank behind the start is the last one or stands before it.
    have within : other.length ≤ before.length := by
      by_contra beyond
      have position : (other ++ blank :: rest)[other.length]? = some blank := by
        simp
      rw [same, List.getElem?_append_right (by omega), List.getElem?_cons,
        if_neg (by omega)] at position
      have isVisible := visible blank (List.mem_of_getElem? position)
      rw [isBlank] at isVisible
      cases isVisible
    have starts : other <+: before := by
      refine List.prefix_of_prefix_length_le ?_
        (List.prefix_append before (last :: after)) within
      rw [← same]
      exact List.prefix_append other (blank :: rest)
    obtain ⟨more, rfl⟩ := starts
    rw [found]
    exact (Text.prefix_trimEnd_append isStart.trimmed more).length_le

/-- What ends with a word in a text does so in every shorter start that the next
blank is in. -/
theorem IsWordStart.take (isStart : IsWordStart start text) {count : Nat}
    (within : start.length < count) : IsWordStart start (text.take count) := by
  by_cases filled : start = []
  · rw [filled]
    exact isWordStart_nil _
  · obtain ⟨blank, rest, rfl, isBlank⟩ := isStart.followed filled
    have kept : (start ++ blank :: rest).take count =
        start ++ blank :: rest.take (count - start.length - 1) := by
      obtain ⟨more, rfl⟩ : ∃ more, count = start.length + (more + 1) :=
        ⟨count - start.length - 1, by omega⟩
      rw [List.take_length_add_append, List.take_succ_cons]
      congr 3
      omega
    rw [kept]
    exact ⟨List.prefix_append _ _, isStart.trimmed,
      fun _ => ⟨blank, _, rfl, isBlank⟩⟩

theorem IsWordStart.length_lt (isStart : IsWordStart start text)
    (filled : text ≠ []) : start.length < text.length := by
  by_cases empty : start = []
  · rw [empty]
    exact List.length_pos_iff.mpr filled
  · obtain ⟨blank, rest, rfl, -⟩ := isStart.followed empty
    simp

/-! ## Cutting -/

/-- A text that is too long is cut behind the longest start of whole words that
leaves room for the ending. -/
theorem exists_cutAt_eq {limit : Nat} (finish : List Char)
    (long : limit < text.length) :
    ∃ start, cutAt limit finish text = start ++ finish ∧
      IsWordStart start text ∧
      (start ++ finish).length ≤ max limit finish.length ∧
      ∀ other, IsWordStart other text → other.length + finish.length ≤ limit →
        other.length ≤ start.length := by
  -- one character more than there is room for, as the blank after the last word
  -- may be cut off
  obtain ⟨kept, count⟩ : ∃ kept, kept = text.take (limit - finish.length + 1) :=
    ⟨_, rfl⟩
  have length : kept.length = limit - finish.length + 1 := by
    rw [count, List.length_take]
    omega
  have isStart := isWordStart_beforeLastBlank kept
  refine ⟨beforeLastBlank kept, ?_, ?_, ?_, ?_⟩
  · rw [cutAt, if_neg (Nat.not_le.mpr long), count]
  · have whole := isStart.append (text.drop (limit - finish.length + 1))
    rwa [count, List.take_append_drop, ← count] at whole
  · have shorter := isStart.length_lt (List.ne_nil_of_length_pos (by omega))
    rw [List.length_append]
    omega
  · intro other otherStart fits
    have within : IsWordStart other kept := by
      rw [count]
      exact otherStart.take (by omega)
    exact length_le_beforeLastBlank within

/-- The arguments of a cut, with the length and the ending that they stand
for. -/
inductive CutArguments : List Value → Nat → List Char → Prop
  | none : CutArguments [] 50 ['.', '.', '.']
  | limit {limit : Nat} :
      limit < 2 ^ 53 → CutArguments [.int limit] limit ['.', '.', '.']
  | finish {limit : Nat} {finish : String} {others : List Value} :
      limit < 2 ^ 53 →
      CutArguments (.int limit :: .text finish :: others) limit finish.toList

theorem CutArguments.cut_eq {arguments : List Value} {limit : Nat}
    {finish : List Char} (given : CutArguments arguments limit finish)
    (input : Value) :
    cut input arguments =
      .ok (.text (String.ofList (cutAt limit finish input.print))) := by
  cases given with
  | none => rfl
  | limit small | finish small =>
      simp [cut, Value.number?, Value.print,
        Number.Binary64.toCount_ofInt small]

/-- A text within the length is left as it is.  One that is longer is cut behind
whole words, with the ending after them; the result is within the length unless
the ending alone is longer, and no longer start of whole words has room. -/
theorem cuts_at_last_word {arguments : List Value} {limit : Nat}
    {finish : List Char} (given : CutArguments arguments limit finish)
    (input : Value) :
    (input.print.length ≤ limit →
        Filters.invoke Filters.builtin "cut" input arguments =
          .ok (.text input.toText)) ∧
      (limit < input.print.length →
        ∃ start,
          Filters.invoke Filters.builtin "cut" input arguments =
              .ok (.text (String.ofList (start ++ finish))) ∧
            IsWordStart start input.print ∧
            (start ++ finish).length ≤ max limit finish.length ∧
            ∀ other, IsWordStart other input.print →
              other.length + finish.length ≤ limit →
              other.length ≤ start.length) := by
  have invoked : Filters.invoke Filters.builtin "cut" input arguments =
      .ok (.text (String.ofList (cutAt limit finish input.print))) := by
    have registered : Table.get? Filters.builtin "cut" = some cut := rfl
    rw [Filters.invoke, registered]
    dsimp only
    rw [given.cut_eq input]
  rw [invoked]
  constructor
  · intro short
    rw [cutAt, if_pos short]
    rfl
  · intro long
    obtain ⟨start, same, rest⟩ := exists_cutAt_eq finish long
    exact ⟨start, by rw [same], rest⟩

/-- Of two words and an ending that fit without room to spare, both remain. -/
theorem cuts_at_last_word_full :
    ∃ start,
      Filters.invoke Filters.builtin "cut" (.text "über  den Wolken") [.int 10,
            .text "…"] =
          .ok (.text (String.ofList (start ++ ['…']))) ∧
        IsWordStart start "über  den Wolken".toList ∧
        (start ++ ['…']).length ≤ 10 ∧
        ∀ other, IsWordStart other "über  den Wolken".toList →
          other.length + 1 ≤ 10 → other.length ≤ start.length := by
  have given : CutArguments [.int 10, .text "…"] 10 ['…'] := .finish (by decide)
  exact (cuts_at_last_word given (.text "über  den Wolken")).2 (by decide)

end Filter

end TemplateEngine
