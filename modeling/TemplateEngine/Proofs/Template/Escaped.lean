import TemplateEngine.Proofs.Markup.Normalized
import TemplateEngine.Proofs.Markup.Tokens
import TemplateEngine.Proofs.Markup.Texts
import TemplateEngine.Proofs.Template.Compacted
import TemplateEngine.Proofs.Template.Parsed

/-!
# Texts with escaped braces

A brace with a backslash behind it is literal, whatever follows.  So any text
without tags and comments can be written with all its braces escaped, and
placeholders can be put between such texts.  The escapes cut each text into many
tokens; compaction joins them again.
-/

namespace TemplateEngine

namespace Markup

open Scanner (Pieces)

/-! ## Escaped texts -/

/-- A text with a backslash behind each brace. -/
def escapeBraces (text : List Char) : List Char :=
  text.flatMap fun character =>
    if character = '\x7b' then ['\x7b', '\\'] else [character]

@[simp] theorem escapeBraces_nil : escapeBraces [] = [] :=
  rfl

@[simp] theorem escapeBraces_cons_brace (text : List Char) :
    escapeBraces ('\x7b' :: text) = '\x7b' :: '\\' :: escapeBraces text :=
  rfl

theorem escapeBraces_cons {character : Char} (other : character ≠ '\x7b')
    (text : List Char) :
    escapeBraces (character :: text) = character :: escapeBraces text := by
  rw [escapeBraces, List.flatMap_cons, if_neg other]
  rfl

theorem head?_escapeBraces (text : List Char) :
    (escapeBraces text).head? = text.head? := by
  cases text with
  | nil => rfl
  | cons character text =>
      by_cases brace : character = '\x7b'
      · rw [brace]
        rfl
      · rw [escapeBraces_cons brace]
        rfl

/-- Whether a text holds neither the start of a tag nor that of a comment. -/
structure Quiet (text : List Char) : Prop where
  noTag : '<' ∉ text
  noComment : ¬ ['/', '*'] <:+: text

theorem Quiet.isNormal {text : List Char} (quiet : Quiet text) :
    IsNormal text where
  comments := quiet.noComment
  elses inside := quiet.noTag (inside.subset List.mem_cons_self)
  ends inside := quiet.noTag (inside.subset List.mem_cons_self)

theorem Quiet.append {text more : List Char} (first : Quiet text)
    (second : Quiet more)
    (apart : text.getLast? = some '/' → more.head? ≠ some '*') :
    Quiet (text ++ more) where
  noTag member := (List.mem_append.mp member).elim first.noTag second.noTag
  noComment := Text.not_infix_append_pair first.noComment second.noComment apart

theorem Quiet.of_not_mem {text : List Char} (noTag : '<' ∉ text)
    (noStar : '*' ∉ text) : Quiet text where
  noTag := noTag
  noComment inside := noStar (inside.subset (by simp))

theorem Quiet.tail {character : Char} {text : List Char}
    (quiet : Quiet (character :: text)) : Quiet text where
  noTag member := quiet.noTag (List.mem_cons_of_mem _ member)
  noComment inside := quiet.noComment (List.infix_cons inside)

theorem quiet_singleton {character : Char} (other : character ≠ '<') :
    Quiet [character] where
  noTag member := other (List.mem_singleton.mp member).symm
  noComment inside := absurd inside.length_le (by simp)

/-- Escaping puts nothing between two characters of a text but behind a
brace. -/
theorem Quiet.escaped {text : List Char} (quiet : Quiet text) :
    Quiet (escapeBraces text) := by
  induction text with
  | nil => exact quiet
  | cons character text induction =>
      have later := induction quiet.tail
      by_cases brace : character = '\x7b'
      · have escape : Quiet ['\x7b', '\\'] :=
          .of_not_mem (by decide) (by decide)
        rw [brace, escapeBraces_cons_brace]
        exact escape.append later fun slash => by cases slash
      · rw [escapeBraces_cons brace]
        have single : Quiet [character] :=
          quiet_singleton fun same => quiet.noTag (same ▸ List.mem_cons_self)
        have apart :
            [character].getLast? = some '/' →
              (escapeBraces text).head? ≠ some '*' := by
          intro slash star
          rw [head?_escapeBraces] at star
          obtain rfl : character = '/' := by simpa using slash
          obtain ⟨rest, rfl⟩ := List.head?_eq_some_iff.mp star
          exact quiet.noComment (List.prefix_append ['/', '*'] rest).isInfix
        exact single.append later apart

/-! ## Texts with placeholders in between -/

/-- The source of a text, and of placeholders with a text behind each. -/
def interleave (first : String) (others : List (Placeholder × String)) :
    List Char :=
  escapeBraces first.toList ++
    others.flatMap fun (placeholder, text) =>
      placeholder.raw.toList ++ escapeBraces text.toList

theorem interleave_cons (first : String) (placeholder : Placeholder)
    (text : String) (others : List (Placeholder × String)) :
    interleave first ((placeholder, text) :: others) =
      escapeBraces first.toList ++
        (placeholder.raw.toList ++ interleave text others) := by
  rw [interleave, List.flatMap_cons, interleave, List.append_assoc]

/-- Whether tokens are the texts and placeholders of a source, with each text
cut into tokens that are not empty. -/
inductive Token.JoinTo :
    List Token → String → List (Placeholder × String) → Prop
  | nil : JoinTo [] "" []
  | text {content first : String} {tokens : List Token}
      {others : List (Placeholder × String)} :
      content ≠ "" → JoinTo tokens first others →
      JoinTo (.text content :: tokens) (content ++ first) others
  | print {placeholder : Placeholder} {first : String} {tokens : List Token}
      {others : List (Placeholder × String)} :
      JoinTo tokens first others →
      JoinTo (.print placeholder :: tokens) "" ((placeholder, first) :: others)

/-- Whether a source is cut into pieces that are its texts and placeholders. -/
def CutTo (options : Options) (source : List Char) (first : String)
    (others : List (Placeholder × String)) : Prop :=
  ∃ pieces, Pieces Token.startsMarkup (Token.ReadFrom options) pieces source ∧
    Token.JoinTo (pieces.map Token.ofPiece) first others

section

variable {options : Options} {source : List Char} {first : String}
  {others : List (Placeholder × String)}

theorem ofList_cons_append (character : Char) (text : List Char)
    (first : String) :
    String.ofList (character :: text) ++ first =
      String.ofList [character] ++ (String.ofList text ++ first) := by
  rw [← String.append_assoc, ← String.ofList_append]
  rfl

/-- A character without markup goes to the text in front. -/
theorem CutTo.prepend (cut : CutTo options source first others)
    {character : Char} (plain : Token.startsMarkup character = false) :
    CutTo options (character :: source) (String.ofList [character] ++ first)
      others := by
  obtain ⟨pieces, written, joins⟩ := cut
  refine ⟨_, written.prepend plain, ?_⟩
  have alone :
      Token.JoinTo
        (.text (String.ofList [character]) :: pieces.map Token.ofPiece)
        (String.ofList [character] ++ first) others := .text (by simp) joins
  -- Plain text that already stands at the front takes up the character; else a
  -- new text begins.
  match pieces with
  | [] => exact alone
  | .construct token :: rest => exact alone
  | .plain text :: rest =>
      cases joins with
      | text filled joins =>
          rw [← ofList_cons_append]
          exact .text (by simp) joins

/-- An escaped brace goes to the text in front. -/
theorem CutTo.escape (cut : CutTo options source first others) :
    CutTo options ('\x7b' :: '\\' :: source) ("\x7b" ++ first) others := by
  obtain ⟨pieces, written, joins⟩ := cut
  have read : Token.ReadFrom options (.text "\x7b") ['\x7b', '\\'] :=
    ⟨List.cons_ne_nil _ _, fun rest => rfl⟩
  exact ⟨_, .construct read written, .text (by decide) joins⟩

theorem CutTo.escaped (cut : CutTo options source first others)
    {text : List Char} (noTag : '<' ∉ text) :
    CutTo options (escapeBraces text ++ source) (String.ofList text ++ first)
      others := by
  induction text with
  | nil =>
      rw [String.ofList_nil, String.empty_append]
      exact cut
  | cons character text induction =>
      rw [List.mem_cons, not_or] at noTag
      have later := induction noTag.2
      rw [ofList_cons_append]
      by_cases brace : character = '\x7b'
      · rw [brace, escapeBraces_cons_brace]
        exact later.escape
      · rw [escapeBraces_cons brace]
        have plain : Token.startsMarkup character = false := by
          simp [Token.startsMarkup, brace, Ne.symm noTag.1]
        exact later.prepend plain

theorem cutTo_interleave (allOn : options.AllOn)
    (texts : ∀ text ∈ first :: others.map Prod.snd, '<' ∉ text.toList)
    (prints : ∀ placeholder ∈ others.map Prod.fst,
      placeholder.Spelled (maxDepth + 1) ∧ placeholder.isValue = false) :
    CutTo options (interleave first others) first others := by
  rw [List.forall_mem_cons] at texts
  have ended : CutTo options [] "" [] := ⟨[], .nil, .nil⟩
  induction others generalizing first with
  | nil =>
      have cut := ended.escaped texts.1
      rwa [String.ofList_toList, String.append_empty] at cut
  | cons other others induction =>
      obtain ⟨placeholder, text⟩ := other
      rw [List.map_cons, List.forall_mem_cons] at prints texts
      obtain ⟨⟨spelled, isPrint⟩, prints⟩ := prints
      obtain ⟨pieces, written, joins⟩ := induction texts.2 prints
      have printed :
          CutTo options (placeholder.raw.toList ++ interleave text others) ""
            ((placeholder, text) :: others) :=
        ⟨_, .construct (spelled.readFrom allOn isPrint) written, .print joins⟩
      have cut := printed.escaped texts.1
      rwa [String.ofList_toList, String.append_empty, ← interleave_cons] at cut

/-- A source that is cut into pieces has the tokens of these pieces. -/
theorem CutTo.exists_tokens (cut : CutTo options source first others) :
    ∃ tokens, tokenize options source = .ok tokens ∧
      Token.JoinTo tokens first others := by
  obtain ⟨pieces, written, joins⟩ := cut
  have splits := written.split_eq (Token.scan_of_not_starts options)
    fun _ _ rest (item : Token.ReadFrom options _ _) => ⟨item.1, item.2 rest⟩
  refine ⟨_, ?_, joins⟩
  rw [tokenize_eq, splits]
  rfl

end

/-! ## Quiet sources -/

theorem Placeholder.Spelled.getLast?_raw {levels : Nat}
    {placeholder : Placeholder} (spelled : placeholder.Spelled levels) :
    placeholder.raw.toList.getLast? = some '\x7d' := by
  cases levels with
  | zero => exact False.elim spelled
  | succ levels =>
      cases spelled with
      | intro =>
          rw [String.toList_ofList]
          simp only [← List.append_assoc]
          exact List.getLast?_concat

/-- No comment is formed where a text and a placeholder meet, since placeholders
stand between braces. -/
theorem quiet_interleave {first : String} {others : List (Placeholder × String)}
    (texts : ∀ text ∈ first :: others.map Prod.snd, Quiet text.toList)
    (prints : ∀ placeholder ∈ others.map Prod.fst,
      placeholder.Spelled (maxDepth + 1) ∧ Quiet placeholder.raw.toList) :
    Quiet (interleave first others) := by
  rw [List.forall_mem_cons] at texts
  induction others generalizing first with
  | nil =>
      rw [interleave, List.flatMap_nil, List.append_nil]
      exact texts.1.escaped
  | cons other others induction =>
      obtain ⟨placeholder, text⟩ := other
      rw [List.map_cons, List.forall_mem_cons] at prints texts
      obtain ⟨⟨spelled, quiet⟩, prints⟩ := prints
      have later :
          Quiet (placeholder.raw.toList ++ interleave text others) := by
        refine quiet.append (induction texts.2 prints) fun slash => ?_
        rw [spelled.getLast?_raw] at slash
        cases slash
      obtain ⟨inside, brace⟩ :=
        (@Placeholder.Spelled.readBy {} rfl rfl _ _ spelled).brace
      rw [interleave_cons]
      refine texts.1.escaped.append later fun _ star => ?_
      rw [brace] at star
      cases star

end Markup

/-! ## Programs of texts and placeholders -/

/-- Whether an instruction prints something or names no other instruction. -/
structure Instruction.Plain (instruction : Instruction) : Prop where
  filled : instruction ≠ .text ""
  still : ∀ move, instruction.retarget move = instruction

namespace Compaction

/-- Without empty texts and targets compaction only joins texts. -/
theorem compact_of_plain {code : List Instruction}
    (plain : ∀ instruction ∈ code, instruction.Plain) :
    compact false code = joinTexts code := by
  have kept (move : Nat → Nat) (before : Neighbour) :
      keepBy move (marksBy (printing false) before code) code = code := by
    induction code generalizing before with
    | nil => rfl
    | cons instruction rest induction =>
        rw [List.forall_mem_cons] at plain
        have stay :
            stays (printing false) before (firstKind rest) instruction =
              true := by
          cases instruction with
          | text text =>
              have filled : text ≠ "" :=
                fun same => plain.1.filled (congrArg Instruction.text same)
              simp [stays, printing, filled]
          | _ => rfl
        rw [marksBy, keepBy_cons, stay, if_pos rfl, plain.1.still,
          induction plain.2]
        rfl
  have pruned : prune false code = code := by
    rw [prune, show false = (Neighbour.edge == .directive) from rfl,
      prints_eq_marksBy, keep_eq_keepBy]
    exact kept _ _
  have still : ∀ instruction ∈ joinTexts code,
      ∀ move, instruction.retarget move = instruction :=
    forall_mem_joinTexts (fun _ _ => rfl) fun instruction member =>
      (plain instruction member).still
  rw [compact, pruned, merge]
  exact
    (List.map_congr_left fun instruction member =>
      still instruction member _).trans (List.map_id _)

end Compaction

/-- The text of a program, if it is not empty. -/
def Instruction.literal (text : String) : List Instruction :=
  if text = "" then [] else [.text text]

/-- The program of a text, and of placeholders with a text behind each. -/
def Program.ofInterleaved (known : Catalog) (first : String)
    (others : List (Markup.Placeholder × String)) : Program :=
  ⟨Instruction.literal first ++ others.flatMap fun (placeholder, text) =>
    .print (placeholder.resolve known []) :: Instruction.literal text⟩

theorem Compaction.joinTexts_ofInterleaved {known : Catalog}
    {content first : String} (filled : content ≠ "")
    {others : List (Markup.Placeholder × String)} {code : List Instruction}
    (joined : joinTexts code =
      (Program.ofInterleaved known first others).instructions) :
    joinTexts (.text content :: code) =
      (Program.ofInterleaved known (content ++ first) others).instructions := by
  have more : content ++ first ≠ "" :=
    fun same => filled (String.append_eq_empty_iff.mp same).1
  rw [joinTexts, joined]
  by_cases nothing : first = ""
  · subst nothing
    rw [String.append_empty]
    cases others with
    | nil => simp [Program.ofInterleaved, Instruction.literal, filled]
    | cons other others =>
        simp [Program.ofInterleaved, Instruction.literal, filled]
  · simp [Program.ofInterleaved, Instruction.literal, nothing, more]

/-- Tokens that are texts and placeholders form a template, of which compaction
joins the texts. -/
theorem Markup.Token.JoinTo.exists_phrases {tokens : List Token}
    {first : String} {others : List (Markup.Placeholder × String)}
    (joins : Token.JoinTo tokens first others) (known : Catalog) :
    ∃ phrases, Phrase.tokensAll phrases = tokens ∧ Phrase.depthAll phrases = 0 ∧
      ∀ start next, ∃ code,
        Node.flattenAll start (Phrase.nodes known [] next phrases) = code ∧
          (∀ instruction ∈ code, instruction.Plain) ∧
          Compaction.joinTexts code =
            (Program.ofInterleaved known first others).instructions := by
  induction joins with
  | nil =>
      refine ⟨[], rfl, rfl,
        fun start next => ⟨[], rfl, List.forall_mem_nil _, ?_⟩⟩
      rfl
  | @text content first tokens others filled _ induction =>
      obtain ⟨phrases, rfl, shallow, laid⟩ := induction
      refine ⟨.text content :: phrases, rfl, ?_, fun start next => ?_⟩
      · rw [Phrase.depthAll, shallow]
        rfl
      · obtain ⟨code, same, plain, joined⟩ := laid (start + 1) next
        have here : (Instruction.text content).Plain :=
          ⟨fun empty => filled (Instruction.text.inj empty), fun _ => rfl⟩
        refine ⟨.text content :: code, ?_,
          List.forall_mem_cons.mpr ⟨here, plain⟩,
          Compaction.joinTexts_ofInterleaved filled joined⟩
        rw [← same]
        rfl
  | @print placeholder first tokens others _ induction =>
      obtain ⟨phrases, rfl, shallow, laid⟩ := induction
      refine ⟨.print placeholder :: phrases, rfl, ?_, fun start next => ?_⟩
      · rw [Phrase.depthAll, shallow]
        rfl
      · obtain ⟨code, same, plain, joined⟩ := laid (start + 1) next
        have here : (Instruction.print (placeholder.resolve known [])).Plain :=
          ⟨by simp, fun _ => rfl⟩
        refine ⟨.print (placeholder.resolve known []) :: code, ?_,
          List.forall_mem_cons.mpr ⟨here, plain⟩, ?_⟩
        · rw [← same]
          rfl
        · rw [Compaction.joinTexts_cons_directive rfl, joined]
          simp [Program.ofInterleaved, Instruction.literal]

theorem Markup.Token.JoinTo.warnings_eq {tokens : List Token} {first : String}
    {others : List (Markup.Placeholder × String)}
    (joins : Token.JoinTo tokens first others) (known : Catalog) :
    tokens.flatMap (Token.warnings known) =
      others.flatMap fun (placeholder, _) => placeholder.warnings known := by
  induction joins with
  | nil => rfl
  | text _ _ induction =>
      rw [List.flatMap_cons, induction]
      rfl
  | print _ induction =>
      rw [List.flatMap_cons, List.flatMap_cons, induction]
      rfl

/-- A source of escaped texts with placeholders that print in between compiles
to these texts and placeholders; only empty texts are left out. -/
theorem compile_interleave (known : Catalog) {first : String}
    {others : List (Markup.Placeholder × String)}
    (texts : ∀ text ∈ first :: others.map Prod.snd, Markup.Quiet text.toList)
    (prints :
      ∀ placeholder ∈ others.map Prod.fst, placeholder.Spelled (maxDepth + 1) ∧
        placeholder.isValue = false ∧ Markup.Quiet placeholder.raw.toList) :
    compile {} known (String.ofList (Markup.interleave first others)) =
      .ok ⟨Program.ofInterleaved known first others,
        others.flatMap fun (placeholder, _) => placeholder.warnings known⟩ := by
  have allOn : Options.AllOn {} := ⟨rfl, rfl, rfl, rfl, rfl⟩
  have quiet : Markup.Quiet (Markup.interleave first others) :=
    Markup.quiet_interleave texts fun placeholder member =>
      ⟨(prints placeholder member).1, (prints placeholder member).2.2⟩
  have cut : Markup.CutTo {} (Markup.interleave first others) first others :=
    Markup.cutTo_interleave allOn (fun text member => (texts text member).noTag)
      fun placeholder member =>
        ⟨(prints placeholder member).1, (prints placeholder member).2.1⟩
  obtain ⟨tokens, tokenized, joins⟩ := cut.exists_tokens
  obtain ⟨phrases, rfl, shallow, laid⟩ := joins.exists_phrases known
  obtain ⟨code, same, plain, joined⟩ := laid 0 1
  refine compile_eq_ok.mpr
    ⟨phrases, ?_, by rw [shallow]; exact Nat.zero_le _, ?_⟩
  · rw [String.toList_ofList]
    exact quiet.isNormal.normalize.symm ▸ tokenized
  · rw [Compiled.ofPhrases, same, joins.warnings_eq known]
    rw [Compaction.compact_of_plain plain, joined]

/-- Two placeholders side by side, the second in front of a text that looks like
a value. -/
def Markup.Placeholder.pair : List (Markup.Placeholder × String) :=
  [(⟨"\x7bX\x7d", false, false, "X", [], [], []⟩, ""),
    (⟨"\x7bY|upper\x7d", false, false, "Y", [], [], [⟨"upper", []⟩]⟩,
      "\x7b$Z\x7d|'\x7d/")]

theorem compile_interleave_pair :
    (∀ text ∈ "a\x7b\\b" :: Markup.Placeholder.pair.map Prod.snd,
        Markup.Quiet text.toList) ∧
      (∀ placeholder ∈ Markup.Placeholder.pair.map Prod.fst,
        placeholder.Spelled (maxDepth + 1) ∧ placeholder.isValue = false ∧
          Markup.Quiet placeholder.raw.toList) ∧
      compile {} .deferred
          "a\x7b\\\\b\x7bX\x7d\x7bY|upper\x7d\x7b\\$Z\x7d|'\x7d/" =
        .ok
          ⟨⟨[.text "a\x7b\\b", .print (.access (.var "X") []),
              .print (.filter "upper" (.access (.var "Y") []) []),
              .text "\x7b$Z\x7d|'\x7d/"]⟩, []⟩ := by
  have texts : ∀ text ∈ "a\x7b\\b" :: Markup.Placeholder.pair.map Prod.snd,
      Markup.Quiet text.toList := by
    exact List.forall_mem_cons.mpr ⟨.of_not_mem (by decide) (by decide),
      List.forall_mem_cons.mpr ⟨.of_not_mem (by decide) (by decide),
        List.forall_mem_cons.mpr ⟨.of_not_mem (by decide) (by decide),
          List.forall_mem_nil _⟩⟩⟩
  have prints : ∀ placeholder ∈ Markup.Placeholder.pair.map Prod.fst,
      placeholder.Spelled (maxDepth + 1) ∧ placeholder.isValue = false ∧
        Markup.Quiet placeholder.raw.toList := by
    have plain : Markup.Placeholder.Spelled (maxDepth + 1)
        ⟨"\x7bX\x7d", false, false, "X", [], [], []⟩ :=
      @Markup.Placeholder.SpelledAround.intro (Markup.Placeholder.Spelled 64)
        "X" [] [] [] [] [] [] false (by decide) .nil .nil .nil
    have upper :
        Markup.FilterCall.Spelled (Markup.Placeholder.Spelled 64) ⟨"upper", []⟩
          "upper".toList := ⟨by decide, [], .nil, rfl⟩
    have filtered : Markup.Placeholder.Spelled (maxDepth + 1)
        ⟨"\x7bY|upper\x7d", false, false, "Y", [], [], [⟨"upper", []⟩]⟩ :=
      @Markup.Placeholder.SpelledAround.intro (Markup.Placeholder.Spelled 64)
        "Y" [] [] _ [] [] "|upper".toList false (by decide) .nil .nil
        (.cons upper .nil)
    exact List.forall_mem_cons.mpr
      ⟨⟨plain, rfl, .of_not_mem (by decide) (by decide)⟩,
        List.forall_mem_cons.mpr
          ⟨⟨filtered, rfl, .of_not_mem (by decide) (by decide)⟩,
            List.forall_mem_nil _⟩⟩
  have source :
      Markup.interleave "a\x7b\\b" Markup.Placeholder.pair =
        "a\x7b\\\\b\x7bX\x7d\x7bY|upper\x7d\x7b\\$Z\x7d|'\x7d/".toList := by
    decide
  have compiled := compile_interleave .deferred texts prints
  rw [source, String.ofList_toList] at compiled
  refine ⟨texts, prints, compiled.trans ?_⟩
  simp only [Program.ofInterleaved, Instruction.literal,
    Markup.Placeholder.pair]
  rfl

end TemplateEngine
