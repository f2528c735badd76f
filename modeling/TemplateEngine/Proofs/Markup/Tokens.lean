import TemplateEngine.Markup.Token
import TemplateEngine.Proofs.Markup.Tags

/-!
# Tokenizing undoes writing

Tokens that are written one after the other, each as the language says, are the
tokens of the text that this makes.
-/

namespace TemplateEngine.Markup

open Scanner (Reads)

/-- The text of a token. -/
def Token.source : Token → List Char
  | .text content => content.toList
  | .print placeholder => placeholder.raw.toList
  | .tag _ raw => raw.toList

/-- Whether a token is written as its text says: literal text holds no character
with which markup starts, and the text of markup is one of the ways to write
it. -/
inductive Token.Spelled (tagNamespace : List Char) : Token → Prop
  | text {text : String} :
      text ≠ "" → '\x7b' ∉ text.toList → '<' ∉ text.toList →
      Spelled tagNamespace (.text text)
  | print {placeholder : Placeholder} :
      placeholder.Spelled (maxDepth + 1) → placeholder.isValue = false →
      Spelled tagNamespace (.print placeholder)
  | tag {tag : Tag} {raw : String} :
      tag.Spelled tagNamespace raw.toList → Spelled tagNamespace (.tag tag raw)

/-- Whether tokens hold no two texts next to each other. -/
def Token.Apart (tokens : List Token) : Prop :=
  ∀ first second, ¬ [.text first, .text second] <:+: tokens

/-- Whether a text is read as a token, whatever comes after it. -/
def Token.ReadFrom (options : Options) (token : Token) (text : List Char) :
    Prop :=
  text ≠ [] ∧ ∀ rest, Reads (Token.scan options) text token rest

/-- The characters with which markup starts. -/
def Token.startsMarkup (character : Char) : Bool :=
  character == '\x7b' || character == '<'

def Token.toPiece : Token → Scanner.Piece Token
  | .text content => .plain content.toList
  | token => .construct token

/-! ## One token -/

theorem Tag.Spelled.exists_cons {tagNamespace text : List Char} {tag : Tag}
    (spelled : tag.Spelled tagNamespace text) :
    ∃ others, text = '<' :: others := by
  cases spelled with
  | head _ spelled =>
      cases spelled with
      | intro => exact ⟨_, rfl⟩
  | endForeach => exact ⟨_, rfl⟩
  | endCondition => exact ⟨_, rfl⟩
  | set _ _ spelled _ _ _ =>
      cases spelled with
      | intro => exact ⟨_, rfl⟩

/-- A placeholder that prints does not start as an escaped brace does. -/
theorem Placeholder.Spelled.isPrefixOf?_escape {levels : Nat}
    {placeholder : Placeholder} {rest : List Char}
    (spelled : placeholder.Spelled levels)
    (isPrint : placeholder.isValue = false) :
    List.isPrefixOf? ['\x7b', '\\'] (placeholder.raw.toList ++ rest) =
      none := by
  cases levels with
  | zero => exact False.elim spelled
  | succ levels =>
      cases spelled with
      | intro isValue isName =>
          obtain rfl : isValue = false := isPrint
          simp only [String.toList_ofList, List.append_assoc]
          exact Scanner.isPrefixOf?_of_isName isName rfl []

/-- A tag that is read from its text is a token. -/
theorem Tag.reads_token {options : Options} {tag : Tag} {text rest : List Char}
    (reads : Reads (Tag.scan options) text tag rest)
    (opening : ∃ others, text = '<' :: others) :
    Reads (Token.scan options) text (.tag tag (String.ofList text)) rest := by
  have read :=
    reads.withText.bind_pure fun found =>
      Token.tag found.1 (String.ofList found.2)
  obtain ⟨others, rfl⟩ := opening
  exact read

section

variable {options : Options} (allOn : options.AllOn)

include allOn

theorem Placeholder.Spelled.reads_token {placeholder : Placeholder}
    {rest : List Char} (spelled : placeholder.Spelled (maxDepth + 1))
    (isPrint : placeholder.isValue = false) :
    Reads (Token.scan options) placeholder.raw.toList (.print placeholder)
      rest := by
  have read : Reads (do return Token.print (← Placeholder.scanPrint options))
      placeholder.raw.toList (Token.print placeholder) rest :=
    (spelled.reads_scanPrint allOn.filters allOn.constants isPrint).bind_pure
      Token.print
  have unescaped :
      List.isPrefixOf? ['\x7b', '\\'] (placeholder.raw.toList ++ rest) = none :=
    spelled.isPrefixOf?_escape isPrint
  obtain ⟨text, brace⟩ := (spelled.readBy allOn.filters allOn.constants).brace
  rw [brace] at read unescaped ⊢
  -- A brace may also start an escape, which `unescaped` rules out.
  rw [Reads, Token.scan.eq_def]
  split
  · simp_all [List.isPrefixOf?]
  · exact read
  · simp_all
  · simp_all

theorem Placeholder.Spelled.readFrom {placeholder : Placeholder}
    (spelled : placeholder.Spelled (maxDepth + 1))
    (isPrint : placeholder.isValue = false) :
    Token.ReadFrom options (.print placeholder) placeholder.raw.toList := by
  refine ⟨?_, fun rest => spelled.reads_token allOn isPrint⟩
  obtain ⟨text, brace⟩ := (spelled.readBy allOn.filters allOn.constants).brace
  rw [brace]
  exact List.cons_ne_nil _ _

theorem Tag.Spelled.reads_token (isNamespace : IsNamespace options.tagNamespace)
    {tag : Tag} {raw : String} {rest : List Char}
    (spelled : tag.Spelled options.tagNamespace raw.toList) :
    Reads (Token.scan options) raw.toList (.tag tag raw) rest := by
  have whole : Reads (Tag.scan options) raw.toList tag rest :=
    spelled.reads isNamespace allOn
  have read := Tag.reads_token whole spelled.exists_cons
  rwa [String.ofList_toList] at read

end

/-- No token starts with another character than those with which markup
starts. -/
theorem Token.scan_of_not_starts (options : Options) (character : Char)
    (rest : List Char) (plain : Token.startsMarkup character = false) :
    Token.scan options (character :: rest) = .ok none := by
  rw [Token.startsMarkup] at plain
  rw [Token.scan.eq_def]
  split <;> simp_all

/-- A text that is read as markup is one token. -/
theorem tokenize_of_reads {options : Options} {token : Token} {text : List Char}
    (nonempty : text ≠ [])
    (reads : ∀ rest, Reads (Token.scan options) text token rest) :
    tokenize options text = .ok [token] := by
  have pieces :
      Scanner.split (Token.scan options) (text ++ []) =
        .ok [.construct token] := by
    have written :
        Scanner.Pieces (fun _ => true)
          (fun found spelled => found = token ∧ spelled = text)
          [.construct token] (text ++ []) := .construct ⟨rfl, rfl⟩ .nil
    apply written.split_eq
    · intro character rest plain
      cases plain
    · rintro _ _ rest ⟨rfl, rfl⟩
      exact ⟨nonempty, reads rest⟩
  rw [List.append_nil] at pieces
  rw [tokenize, pieces]
  rfl

/-! ## Token lists -/

section

variable {options : Options} (allOn : options.AllOn)
  (isNamespace : IsNamespace options.tagNamespace)

include allOn isNamespace

/-- The texts of tokens are pieces of which the markup is scanned as it was. -/
theorem Token.pieces_source {tokens : List Token}
    (allSpelled : ∀ token ∈ tokens, token.Spelled options.tagNamespace)
    (apart : Apart tokens) :
    Scanner.Pieces startsMarkup (ReadFrom options) (tokens.map toPiece)
      (tokens.flatMap source) := by
  induction tokens with
  | nil => exact .nil
  | cons token tokens induction =>
      have others := induction
        (fun token member => allSpelled token (List.mem_cons_of_mem _ member))
        (fun first second inside => apart first second (List.infix_cons inside))
      rw [List.map_cons, List.flatMap_cons]
      cases allSpelled token List.mem_cons_self with
      | @text content nonempty noBrace noTag =>
          apply Scanner.Pieces.plain _ _ _ others
          · simpa using nonempty
          · intro character member
            have notBrace : character ≠ '\x7b' :=
              fun same => noBrace (same ▸ member)
            have notTag : character ≠ '<' := fun same => noTag (same ▸ member)
            simp [startsMarkup, notBrace, notTag]
          · intro more later same
            obtain ⟨next, after, rfl, plain, -⟩ := List.map_eq_cons_iff.mp same
            cases next with
            | text other => exact apart content other ⟨[], after, rfl⟩
            | print placeholder => cases plain
            | tag tag raw => cases plain
      | print spelled isPrint =>
          exact .construct (spelled.readFrom allOn isPrint) others
      | @tag tag raw spelled =>
          obtain ⟨text, opening⟩ := spelled.exists_cons
          refine .construct
            ⟨?_, fun rest => spelled.reads_token allOn isNamespace⟩ others
          rw [source, opening]
          exact List.cons_ne_nil _ _

/-- With all features on and in any namespace, what is written from tokens is
read as these tokens. -/
theorem tokenize_source {tokens : List Token}
    (spelled : ∀ token ∈ tokens, token.Spelled options.tagNamespace)
    (apart : Token.Apart tokens) :
    tokenize options (tokens.flatMap Token.source) = .ok tokens := by
  have pieces :
      Scanner.split (Token.scan options) (tokens.flatMap Token.source) =
        .ok (tokens.map Token.toPiece) :=
    (Token.pieces_source allOn isNamespace spelled apart).split_eq
      (Token.scan_of_not_starts options)
      fun _ _ rest item => ⟨item.1, item.2 rest⟩
  rw [tokenize, pieces, Except.map, List.map_map]
  congr 1
  refine (List.map_congr_left fun token _ => ?_).trans (List.map_id tokens)
  cases token with
  | text content => exact congrArg Token.text String.ofList_toList
  | print placeholder => rfl
  | tag tag raw => rfl

end

/-- Text, a placeholder, and a condition, an assignment and an inclusion in a
namespace. -/
def Token.greeting : List Token :=
  [.text "Dear ", .print ⟨"\x7bNAME\x7d", false, false, "NAME", [], [], []⟩,
    .tag
      (.condition [.value ⟨"\x7b$A\x7d", true, false, "A", [], [], []⟩,
        .text " > 1"]) "<t:if t:cond=\"\x7b$A\x7d > 1\">", .text "!",
    .tag .endCondition "</t:if>",
    .tag (.set "T" [] [.text "Hi"]) "<t:set t:var=\"T\">Hi</t:set>",
    .tag (.inclusion .optional (.path "end.html" [("by", .text "me")]) true)
      "<t:include t:tpl=\"end.html?by=me\" t:once=\"true\" />"]

theorem tokenize_source_greeting :
    tokenize { namespacePrefix := some "t" }
        (Token.greeting.flatMap Token.source) =
      .ok Token.greeting := by
  have isPrint : Placeholder.Spelled (maxDepth + 1)
      ⟨"\x7bNAME\x7d", false, false, "NAME", [], [], []⟩ :=
    @Placeholder.SpelledAround.intro (Placeholder.Spelled 64) "NAME" [] [] [] []
      [] [] false (by decide) .nil .nil .nil
  have isValue :
      Placeholder.Spelled maxDepth
        ⟨"\x7b$A\x7d", true, false, "A", [], [], []⟩ :=
    @Placeholder.SpelledAround.intro (Placeholder.Spelled 63) "A" [] [] [] [] []
      [] true (by decide) .nil .nil .nil
  have condition : Part.SpelledAll
      [.value ⟨"\x7b$A\x7d", true, false, "A", [], [], []⟩, .text " > 1"]
      "\x7b$A\x7d > 1".toList :=
    @Scanner.Pieces.construct _ _ _ _ "\x7b$A\x7d".toList " > 1".toList _
      ⟨isValue, rfl, rfl⟩ (@Scanner.Pieces.plain _ _ _ " > 1".toList [] []
      (by simp) (by simp) (by simp) .nil)
  have opening :
      Tag.Spelled ['t', ':']
        (.condition [.value ⟨"\x7b$A\x7d", true, false, "A", [], [], []⟩,
          .text " > 1"]) "<t:if t:cond=\"\x7b$A\x7d > 1\">".toList :=
    (@Tag.Has.condition _ _ "cond" condition rfl (by simp)).spelled_written
      ['t', ':'] (by simp)
  have set : Tag.Spelled ['t', ':'] (.set "T" [] [.text "Hi"])
      "<t:set t:var=\"T\">Hi</t:set>".toList :=
    @Tag.Spelled.set ['t', ':'] "T" [] [.text "Hi"] [] _ "Hi".toList (by decide)
      .nil (Head.spelled_written (by decide) (by decide) (by simp))
      (@Scanner.Pieces.plain _ _ _ "Hi".toList [] [] (by simp) (by simp)
        (by simp) .nil) (by simp) (by simp)
  have destination : Destination.Spelled (.path "end.html" [("by", .text "me")])
      "end.html?by=me".toList :=
    @Destination.Spelled.path "end.html".toList "?by=me".toList _ (by simp)
      (by simp) (@Query.Spelled.cons _ _ "by=me".toList []
      (@Parameter.Spelled.text "by".toList "me".toList (by simp) (by simp)
        (by simp) (by simp) (by simp) (by simp) (by simp)) .nil)
  have inclusion : Tag.Spelled ['t', ':']
      (.inclusion .optional (.path "end.html" [("by", .text "me")]) true)
      "<t:include t:tpl=\"end.html?by=me\" t:once=\"true\" />".toList :=
    (@Tag.Has.inclusionOnce .optional _ _ true _ destination
      (.inl rfl)).spelled_written ['t', ':'] (by simp)
  apply tokenize_source ⟨rfl, rfl, rfl, rfl, rfl⟩ (.inr ⟨['t'], by decide, rfl⟩)
  · simp only [Token.greeting, List.forall_mem_cons]
    exact ⟨.text (by decide) (by decide) (by decide), .print isPrint rfl,
      .tag opening, .text (by decide) (by decide) (by decide),
      .tag .endCondition, .tag set, .tag inclusion, by simp⟩
  · simp [Token.Apart, Token.greeting, List.infix_cons_iff]

end TemplateEngine.Markup
