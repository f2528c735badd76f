import TemplateEngine.Proofs.Markup.Cut
import TemplateEngine.Proofs.Markup.Normalized

/-!
# Literal texts hold no markup

A literal text is cut out of the source between two constructs, or before the
first or after the last one.  As nothing was found at any place of it when the
source was scanned, nothing is found there either when the text is scanned by
itself.
-/

namespace TemplateEngine.Markup

namespace Scanner

section

variable {α : Type} {scanner : Scanner α}

/-- Whether a scanner finds nothing at any place of a text. -/
def Inert (scanner : Scanner α) (text : List Char) : Prop :=
  ∀ part, part <:+ text → part ≠ [] → scanner part = .ok none

theorem Inert.of_suffix {text part : List Char} (inert : Inert scanner text)
    (inside : part <:+ text) : Inert scanner part :=
  fun inner within => inert inner (within.trans inside)

theorem split_of_inert {text : List Char} (inert : Inert scanner text)
    (filled : text ≠ []) : split scanner text = .ok [.plain text] := by
  induction text with
  | nil => exact absurd rfl filled
  | cons character text induction =>
      have here := inert _ (List.suffix_refl _) (List.cons_ne_nil _ _)
      rw [split, List.length_cons, splitWithin, here]
      cases text with
      | nil => rfl
      | cons next text =>
          have later :=
            induction (inert.of_suffix (List.suffix_cons _ _))
              (List.cons_ne_nil _ _)
          rw [split] at later
          simp only [later]
          rfl

/-- Where a piece of a text comes from: a plain one is a part in which nothing
is found, a construct is found somewhere. -/
def Piece.From (scanner : Scanner α) (source : List Char) : Piece α → Prop
  | .plain text => text ≠ [] ∧ text <:+: source ∧ Inert scanner text
  | .construct value =>
    ∃ part rest, part <:+ source ∧ scanner part = .ok (some (value, rest))

theorem Piece.From.of_suffix {source longer : List Char} {piece : Piece α}
    (origin : piece.From scanner source) (inside : source <:+ longer) :
    piece.From scanner longer := by
  cases piece with
  | plain text => exact ⟨origin.1, origin.2.1.trans inside.isInfix, origin.2.2⟩
  | construct value =>
      obtain ⟨part, rest, within, found⟩ := origin
      exact ⟨part, rest, within.trans inside, found⟩

/-- Where nothing is found in the source, nothing is found in what is cut out of
it. -/
theorem CutBy.origin (steady : Steady true scanner scanner) {source : List Char}
    {pieces : List (Piece α)} (cut : CutBy scanner pieces source) :
    ∀ piece ∈ pieces, piece.From scanner source := by
  induction cut with
  | nil => exact List.forall_mem_nil _
  | @plain text rest pieces filled inert _ induction =>
      rw [List.forall_mem_cons]
      refine ⟨⟨filled, (List.prefix_append text rest).isInfix, ?_⟩,
        fun piece member => ?_⟩
      · exact fun part inside some => steady.eq_none (inert part inside some)
      · exact (induction piece member).of_suffix (List.suffix_append text rest)
  | @construct value text rest pieces found _ induction =>
      rw [List.forall_mem_cons]
      refine ⟨⟨text, rest, List.suffix_refl _, found⟩, fun piece member => ?_⟩
      exact (induction piece member).of_suffix (steady.suffix found)

end

end Scanner

/-! ## Literal tokens -/

/-- Whether no two texts stand side by side. -/
def Separate : List (Option String) → Prop
  | [] => True
  | none :: rest => Separate rest
  | some _ :: rest => (∀ next, rest.head? ≠ some (some next)) ∧ Separate rest

section

variable {options : Options} {source : List Char} {tokens : List Token}

/-- Without escapes no construct is a text. -/
theorem Token.text?_of_scan (noEscape : ¬ ['\x7b', '\\'] <:+: source)
    {part rest : List Char} {token : Token} (inside : part <:+ source)
    (found : Token.scan options part = .ok (some (token, rest))) :
    token.text? = none := by
  cases token with
  | print placeholder => rfl
  | tag tag raw => rfl
  | text content =>
      rw [Token.scan.eq_def] at found
      split at found
      next rest =>
        exact absurd
          ((List.prefix_append ['\x7b', '\\'] rest).isInfix.trans
            inside.isInfix) noEscape
      next =>
        rw [Scanner.bind_apply] at found
        split at found <;> cases found
      next =>
        rw [Scanner.bind_apply] at found
        split at found <;> cases found
      next => cases found

theorem separate_of_apart {pieces : List (Scanner.Piece Token)}
    (apart : Scanner.Piece.Apart pieces)
    (markup : ∀ token, .construct token ∈ pieces → token.text? = none) :
    Separate ((pieces.map Token.ofPiece).map Token.text?) := by
  induction pieces with
  | nil => trivial
  | cons piece pieces induction =>
      have later (apart : Scanner.Piece.Apart pieces) :=
        induction apart fun token member =>
          markup token (List.mem_cons_of_mem _ member)
      cases piece with
      | construct token =>
          have nothing := markup token List.mem_cons_self
          rw [List.map_cons, List.map_cons, Token.ofPiece, nothing]
          exact later apart.2
      | plain text =>
          refine ⟨fun next follows => ?_, later apart.2.2⟩
          match pieces with
          | [] => cases follows
          | .plain other :: rest => exact apart.2.1 other rfl
          | .construct token :: rest =>
              have nothing :=
                markup token (List.mem_cons_of_mem _ List.mem_cons_self)
              rw [List.map_cons, List.map_cons, Token.ofPiece, nothing]
                at follows
              cases follows

/-- Without escapes the texts of a source are parts of it in which no markup is
found, and no two of them stand side by side. -/
theorem literals_of_tokenize (noEscape : ¬ ['\x7b', '\\'] <:+: source)
    (tokenized : tokenize options source = .ok tokens) :
    Separate (tokens.map Token.text?) ∧
      ∀ content, .text content ∈ tokens →
        content.toList ≠ [] ∧ content.toList <:+: source ∧
          Scanner.Inert (Token.scan options) content.toList := by
  obtain ⟨pieces, splits, rfl⟩ := exists_pieces_of_tokenize tokenized
  have origin := (Token.cutBy_of_split splits).origin Token.steady_scan
  have markup (token : Token) (member : .construct token ∈ pieces) :
      token.text? = none := by
    obtain ⟨part, rest, inside, found⟩ := origin _ member
    exact Token.text?_of_scan noEscape inside found
  refine ⟨separate_of_apart (Token.apart_of_split splits) markup,
    fun content member => ?_⟩
  obtain ⟨piece, within, same⟩ := List.mem_map.mp member
  cases piece with
  | plain text =>
      cases same
      rw [String.toList_ofList]
      exact origin _ within
  | construct token =>
      cases same
      cases markup _ within

/-- A text in which no markup is found is a single token. -/
theorem tokenize_of_inert {content : String} (filled : content.toList ≠ [])
    (inert : Scanner.Inert (Token.scan options) content.toList) :
    tokenize options content.toList = .ok [.text content] := by
  rw [tokenize, Scanner.split_of_inert inert filled]
  simp [Except.map]

end

end TemplateEngine.Markup
