import TemplateEngine.Markup.Token
import TemplateEngine.Proofs.Markup.Reads

/-!
# The texts of a source

What stands between constructs is one text, which is not empty.  Two texts stand
side by side only where one of them is an escaped brace.
-/

namespace TemplateEngine.Markup

/-- Whether no text is empty, and no two blank texts stand side by side.  A
construct that is no text counts as nothing. -/
def Spaced : List (Option String) → Prop
  | [] => True
  | none :: rest => Spaced rest
  | some text :: rest =>
    text ≠ "" ∧
      (Text.isAllBlank text.toList = true →
        ∀ next,
          rest.head? = some (some next) → Text.isAllBlank next.toList = false) ∧
      Spaced rest

/-- The text that a token is. -/
def Token.text? : Token → Option String
  | .text content => some content
  | _ => none

/-- A text that is found is an escaped brace. -/
theorem Token.eq_of_scan {options : Options} {source rest : List Char}
    {text : String}
    (found : Token.scan options source = .ok (some (.text text, rest))) :
    text = "\x7b" := by
  unfold Token.scan at found
  split at found
  next =>
    cases found
    rfl
  next =>
    rw [Scanner.bind_apply] at found
    split at found <;> cases found
  next =>
    rw [Scanner.bind_apply] at found
    split at found <;> cases found
  next => cases found

namespace Scanner

/-- Whether plain pieces are not empty and stand apart, and constructs that are
texts are not blank. -/
def Piece.Apart : List (Piece Token) → Prop
  | [] => True
  | .plain text :: rest =>
    text ≠ [] ∧ (∀ next, rest.head? ≠ some (.plain next)) ∧ Apart rest
  | .construct token :: rest =>
    (∀ text, token = .text text → Text.isAllBlank text.toList = false) ∧
      Apart rest

theorem Piece.Apart.prepend (character : Char) {pieces : List (Piece Token)}
    (apart : Piece.Apart pieces) :
    Piece.Apart (Piece.prepend character pieces) := by
  match pieces with
  | [] => exact ⟨List.cons_ne_nil _ _, by simp, trivial⟩
  | .plain text :: rest => exact ⟨List.cons_ne_nil _ _, apart.2.1, apart.2.2⟩
  | .construct token :: rest => exact ⟨List.cons_ne_nil _ _, by simp, apart⟩

theorem apart_splitWithin {scanner : Scanner Token}
    (visible :
      ∀ source text rest, scanner source = .ok (some (.text text, rest)) →
        Text.isAllBlank text.toList = false) (fuel : Nat) (source : List Char)
    {pieces : List (Piece Token)}
    (splits : splitWithin scanner fuel source = .ok pieces) :
    Piece.Apart pieces := by
  induction fuel generalizing source pieces with
  | zero =>
      cases splits
      trivial
  | succ fuel induction =>
      cases source with
      | nil =>
          cases splits
          trivial
      | cons character source =>
          rcases splitWithin_cons_eq_ok splits with
            ⟨-, others, later, rfl⟩ | ⟨token, rest, others, scanned, later, rfl⟩
          · exact (induction source later).prepend character
          · refine ⟨?_, induction rest later⟩
            rintro text rfl
            exact visible _ _ _ scanned

end Scanner

/-- The token of a piece. -/
def Token.ofPiece : Scanner.Piece Token → Token
  | .plain content => .text (String.ofList content)
  | .construct token => token

theorem Scanner.Piece.Apart.spaced {pieces : List (Scanner.Piece Token)}
    (apart : Scanner.Piece.Apart pieces) :
    Spaced ((pieces.map Token.ofPiece).map Token.text?) := by
  induction pieces with
  | nil => trivial
  | cons piece pieces induction =>
      cases piece with
      | plain text =>
          obtain ⟨filled, alone, apart⟩ := apart
          refine ⟨by simpa using filled, ?_, induction apart⟩
          intro _ next follows
          match pieces with
          | [] => cases follows
          | .plain other :: rest => exact absurd rfl (alone other)
          | .construct token :: rest =>
              cases token with
              | text content =>
                  cases follows
                  exact apart.1 next rfl
              | print placeholder => cases follows
              | tag tag raw => cases follows
      | construct token =>
          obtain ⟨visible, apart⟩ := apart
          cases token with
          | text content =>
              have notBlank := visible content rfl
              refine ⟨?_, ?_, induction apart⟩
              · rintro rfl
                cases notBlank
              · intro blank
                rw [notBlank] at blank
                cases blank
          | print placeholder => exact induction apart
          | tag tag raw => exact induction apart

theorem tokenize_eq (options : Options) (source : List Char) :
    tokenize options source =
      (Scanner.split (Token.scan options) source).map
        (List.map Token.ofPiece) :=
  rfl

theorem exists_pieces_of_tokenize {options : Options} {source : List Char}
    {tokens : List Token} (tokenized : tokenize options source = .ok tokens) :
    ∃ pieces, Scanner.split (Token.scan options) source = .ok pieces ∧
      tokens = pieces.map Token.ofPiece := by
  rw [tokenize_eq] at tokenized
  cases splits : Scanner.split (Token.scan options) source with
  | error error =>
      rw [splits] at tokenized
      cases tokenized
  | ok pieces =>
      rw [splits] at tokenized
      cases tokenized
      exact ⟨pieces, rfl, rfl⟩

theorem Token.apart_of_split {options : Options} {source : List Char}
    {pieces : List (Scanner.Piece Token)}
    (splits : Scanner.split (Token.scan options) source = .ok pieces) :
    Scanner.Piece.Apart pieces := by
  apply Scanner.apart_splitWithin _ _ _ splits
  intro source text rest found
  rw [Token.eq_of_scan found]
  rfl

/-- The texts of a source are not empty, and no two blank ones stand side by
side. -/
theorem spaced_of_tokenize {options : Options} {source : List Char}
    {tokens : List Token} (tokenized : tokenize options source = .ok tokens) :
    Spaced (tokens.map Token.text?) := by
  obtain ⟨pieces, splits, rfl⟩ := exists_pieces_of_tokenize tokenized
  exact (Token.apart_of_split splits).spaced

/-! ## Tokens without regard to compaction -/

section

variable (options : Options) (squeeze : Bool)

theorem Placeholder.scan_compactWhitespace (levels : Nat) :
    Placeholder.scan { options with compactWhitespace := squeeze } levels =
      Placeholder.scan options levels := by
  induction levels with
  | zero => rfl
  | succ levels induction =>
      rw [Placeholder.scan, Placeholder.scan, induction]
      rfl

theorem Placeholder.scanValue_compactWhitespace :
    Placeholder.scanValue { options with compactWhitespace := squeeze } =
      Placeholder.scanValue options := by
  rw [Placeholder.scanValue, Placeholder.scanValue,
    Placeholder.scan_compactWhitespace]

theorem Part.split_compactWhitespace :
    Part.split { options with compactWhitespace := squeeze } =
      Part.split options := by
  funext text
  rw [Part.split, Part.split, Placeholder.scanValue_compactWhitespace]

theorem Tag.parametersOf_compactWhitespace (pairs : List (List Char)) :
    Tag.parametersOf { options with compactWhitespace := squeeze } pairs =
      Tag.parametersOf options pairs := by
  induction pairs with
  | nil => rfl
  | cons pair pairs induction =>
      rw [Tag.parametersOf, Tag.parametersOf, induction, Tag.parameterOf,
        Tag.parameterOf, Placeholder.scanValue_compactWhitespace]

theorem Tag.ofHead_compactWhitespace :
    Tag.ofHead { options with compactWhitespace := squeeze } =
      Tag.ofHead options := by
  funext head
  unfold Tag.ofHead Tag.ofHead.elseIfOf Tag.foreachOf Tag.conditionOf
    Tag.inclusionOf Tag.destinationOf Tag.setOf Placeholder.scanTarget
    Options.tagNamespace
  simp only [Part.split_compactWhitespace, Placeholder.scan_compactWhitespace,
    Placeholder.scanValue_compactWhitespace, Tag.parametersOf_compactWhitespace]

/-- How a program is compacted does not change how its source is read. -/
theorem tokenize_compactWhitespace :
    tokenize { options with compactWhitespace := squeeze } =
      tokenize options := by
  have tags :
      Tag.scan { options with compactWhitespace := squeeze } =
        Tag.scan options := by
    unfold Tag.scan
    rw [Tag.ofHead_compactWhitespace]
    rfl
  have scans :
      Token.scan { options with compactWhitespace := squeeze } =
        Token.scan options := by
    unfold Token.scan Placeholder.scanPrint
    rw [tags, Placeholder.scan_compactWhitespace]
  funext source
  rw [tokenize, tokenize, scans]

end

end TemplateEngine.Markup
