import TemplateEngine.Proofs.Markup.Texts
import TemplateEngine.Proofs.Markup.Truncated

/-!
# Tokens cut up the source

The tokens of a source are its pieces, one after the other, and none of them is
empty.  What is literal text is so because nowhere in it, with what follows in
the source, does an escape, a placeholder that prints or a tag begin.
-/

namespace TemplateEngine.Markup

namespace Scanner

/-! ## Scanners that go on -/

/-- Whether a scanner reads at least one character of each text in which it
finds something. -/
def Advances {α : Type} (scanner : Scanner α) : Prop :=
  ∀ text value rest, scanner text = .ok (some (value, rest)) →
    ∃ raw, raw ≠ [] ∧ text = raw ++ rest

section

variable {α β : Type} {closed : Bool} {scanner : Scanner α}
  {next : α → Scanner β}

theorem advances_exactly (character : Char) (expected : List Char) :
    Advances (exactly (character :: expected)) :=
  fun _ _ _ found => ⟨_, List.cons_ne_nil _ _, exactly_eq_some_iff.mp found⟩

theorem advances_name : Advances name := by
  intro text value rest found
  obtain ⟨starts, -, rfl⟩ := name_eq_some_iff.mp found
  refine ⟨text.takeWhile Text.isNamePart, ?_,
    (List.takeWhile_append_dropWhile).symm⟩
  cases text with
  | nil => cases starts
  | cons first text =>
      have part : Text.isNamePart first = true :=
        Text.isNamePart_of_isNameStart (by simpa using starts)
      rw [List.takeWhile_cons_of_pos part]
      exact List.cons_ne_nil _ _

theorem Advances.bind (first : scanner.Advances)
    (second : ∀ value, Steady true (next value) (next value)) :
    (scanner >>= next).Advances := by
  intro text value rest found
  obtain ⟨middle, between, scanned, later⟩ := bind_eq_some_iff.mp found
  obtain ⟨raw, filled, rfl⟩ := first _ _ _ scanned
  obtain ⟨more, rfl⟩ := (second middle).suffix later
  exact ⟨raw ++ more, by simp [filled], (List.append_assoc _ _ _).symm⟩

theorem Steady.advances_bind (first : Steady closed scanner scanner)
    (second : ∀ value, (next value).Advances) :
    (scanner >>= next).Advances := by
  intro text value rest found
  obtain ⟨middle, between, scanned, later⟩ := bind_eq_some_iff.mp found
  obtain ⟨raw, filled, rfl⟩ := second middle _ _ _ later
  obtain ⟨more, rfl⟩ := first.suffix scanned
  exact ⟨more ++ raw, by simp [filled], (List.append_assoc _ _ _).symm⟩

/-- The text of a construct is what stands in front of the rest. -/
theorem Advances.append_of_withText (advances : scanner.Advances)
    {text raw rest : List Char} {value : α}
    (found : withText scanner text = .ok (some ((value, raw), rest))) :
    scanner text = .ok (some (value, rest)) ∧ raw ≠ [] ∧
      text = raw ++ rest := by
  obtain ⟨scanned, rfl⟩ := withText_eq_some_iff.mp found
  obtain ⟨raw, filled, rfl⟩ := advances _ _ _ scanned
  have taken :
      (raw ++ rest).take ((raw ++ rest).length - rest.length) = raw := by simp
  rw [taken]
  exact ⟨scanned, filled, rfl⟩

/-! ## Pieces in their places -/

/-- How a scanner cuts a text into pieces: at no place of plain text does it
find anything in what follows, and a construct is what it finds where the
construct stands. -/
inductive CutBy (scanner : Scanner α) : List (Piece α) → List Char → Prop
  | nil : CutBy scanner [] []
  | plain {text rest : List Char} {pieces : List (Piece α)} :
      text ≠ [] →
      (∀ part, part <:+ text → part ≠ [] → scanner (part ++ rest) = .ok none) →
      CutBy scanner pieces rest →
      CutBy scanner (.plain text :: pieces) (text ++ rest)
  | construct {value : α} {text rest : List Char} {pieces : List (Piece α)} :
      scanner text = .ok (some (value, rest)) → CutBy scanner pieces rest →
      CutBy scanner (.construct value :: pieces) text

/-- A character at which nothing is found goes to the plain text after it. -/
theorem CutBy.prepend {pieces : List (Piece α)} {character : Char}
    {rest : List Char} (cut : CutBy scanner pieces rest)
    (nothing : scanner (character :: rest) = .ok none) :
    CutBy scanner (Piece.prepend character pieces) (character :: rest) := by
  have alone :
      CutBy scanner (.plain [character] :: pieces) ([character] ++ rest) := by
    refine .plain (List.cons_ne_nil _ _) (fun part inside filled => ?_) cut
    rcases List.suffix_cons_iff.mp inside with rfl | nil
    · exact nothing
    · exact absurd (List.suffix_nil.mp nil) filled
  cases cut with
  | nil => exact alone
  | construct found cut => exact alone
  | @plain text rest pieces some inert cut =>
      rw [← List.cons_append]
      refine .plain (List.cons_ne_nil _ _) (fun part inside filled => ?_) cut
      rcases List.suffix_cons_iff.mp inside with rfl | inside
      · exact nothing
      · exact inert part inside filled

theorem Advances.cutBy_of_splitWithin (advances : scanner.Advances) {fuel : Nat}
    {text : List Char} {pieces : List (Piece α)} (enough : text.length ≤ fuel)
    (splits : splitWithin scanner fuel text = .ok pieces) :
    CutBy scanner pieces text := by
  induction fuel generalizing text pieces with
  | zero =>
      obtain rfl := List.eq_nil_of_length_eq_zero (Nat.le_zero.mp enough)
      cases splits
      exact .nil
  | succ fuel induction =>
      cases text with
      | nil =>
          cases splits
          exact .nil
      | cons character text =>
          rw [List.length_cons, Nat.add_le_add_iff_right] at enough
          rcases splitWithin_cons_eq_ok splits with
            ⟨nothing, others, later, rfl⟩ |
              ⟨value, rest, others, found, later, rfl⟩
          · exact (induction enough later).prepend nothing
          · -- A construct has a character, so the fuel lasts behind it.
            obtain ⟨raw, filled, same⟩ := advances _ _ _ found
            have shorter : rest.length ≤ fuel := by
              have length := congrArg List.length same
              have positive := List.length_pos_iff.mpr filled
              rw [List.length_cons, List.length_append] at length
              omega
            exact .construct found (induction shorter later)

end

end Scanner

open Scanner

section

variable {options : Options}

/-! ## Constructs go on -/

/-- A placeholder keeps the text that was read for it. -/
theorem Placeholder.append_of_scan {levels : Nat} {text rest : List Char}
    {placeholder : Placeholder}
    (found :
      Placeholder.scan options levels text = .ok (some (placeholder, rest))) :
    placeholder.raw ≠ "" ∧ text = placeholder.raw.toList ++ rest := by
  cases levels with
  | zero => cases found
  | succ levels =>
      have steady := Placeholder.steady_scan options levels
      rw [Placeholder.scan, Placeholder.scanAround] at found
      obtain ⟨⟨inner, raw⟩, between, scanned, found⟩ :=
        bind_eq_some_iff.mp found
      cases found
      have closes {change : Unit → Placeholder} : Advances (do
          let closed ← exactly ['\x7d']
          return change closed) :=
        (advances_exactly '\x7d' []).bind fun _ => steady_pure _
      have cut := Advances.append_of_withText ?_ scanned
      · obtain ⟨-, filled, rfl⟩ := cut
        simpa using filled
      -- The brace at the end is always read; what is in front of it need not
      -- read anything.
      refine (@steady_exactly true ['\x7b']).advances_bind fun _ => ?_
      refine (steady_takes '$').advances_bind fun isValue => ?_
      refine steady_name.advances_bind fun first => ?_
      refine (steady_manyAfter steady_name '.').advances_bind fun names => ?_
      refine (Placeholder.steady_scanSubscripts steady).advances_bind
        fun subscripts => ?_
      cases options.filters with
      | true =>
          exact (Placeholder.steady_scanFilters steady).advances_bind fun _ =>
            closes
      | false => exact (@steady_pure _ true []).advances_bind fun _ => closes

theorem Placeholder.starts_of_scan {levels : Nat} {text rest : List Char}
    {placeholder : Placeholder}
    (found :
      Placeholder.scan options levels text = .ok (some (placeholder, rest))) :
    ∃ more, text = '\x7b' :: more := by
  cases levels with
  | zero => cases found
  | succ levels =>
      rw [Placeholder.scan, Placeholder.scanAround] at found
      obtain ⟨_, _, scanned, -⟩ := bind_eq_some_iff.mp found
      obtain ⟨_, more, opened, -⟩ :=
        bind_eq_some_iff.mp (withText_eq_some_iff.mp scanned).1
      exact ⟨more, exactly_eq_some_iff.mp opened⟩

theorem Head.advances_scan (tagNamespace : List Char) :
    (Head.scan tagNamespace).Advances := by
  refine (@steady_exactly true ['<']).advances_bind fun _ => ?_
  refine (@steady_exactly true tagNamespace).advances_bind fun _ => ?_
  refine advances_name.bind fun name => ?_
  exact Head.steady_scanAllAttributes.bind (fun ⟨_, _⟩ => steady_pure _)
    (.inl rfl)

theorem Tag.advances_scan : (Tag.scan options).Advances := by
  intro text tag rest found
  rw [Tag.scan_eq] at found
  split at found
  · have closing : (Tag.scanClosing options).Advances :=
      (advances_exactly '<' ['/']).bind fun _ =>
        (@steady_exactly true _).bind (fun _ => Tag.steady_scanClosingName)
          (.inl rfl)
    exact closing _ _ _ found
  · have opening : (Tag.scanOpening options).Advances :=
      (Head.advances_scan _).bind Tag.steady_ofHead
    exact opening _ _ _ found

theorem Tag.starts_of_scan {text rest : List Char} {tag : Tag}
    (found : Tag.scan options text = .ok (some (tag, rest))) :
    ∃ more, text = '<' :: more := by
  rw [Tag.scan_eq] at found
  split at found
  next closing =>
    obtain ⟨more, rfl⟩ := closing
    exact ⟨_, rfl⟩
  next =>
    obtain ⟨head, _, scanned, -⟩ := bind_eq_some_iff.mp found
    obtain ⟨_, more, opened, -⟩ := bind_eq_some_iff.mp scanned
    exact ⟨more, exactly_eq_some_iff.mp opened⟩

/-! ## Tokens in their places -/

/-- Whether an escape, a placeholder that prints or a tag begins at the start of
a text. -/
inductive Token.Begins (options : Options) : List Char → Prop
  | escape (rest : List Char) : Begins options ('\x7b' :: '\\' :: rest)
  | print {text rest : List Char} {placeholder : Placeholder} :
      Placeholder.scanPrint options text = .ok (some (placeholder, rest)) →
      Begins options text
  | tag {text rest : List Char} {tag : Tag} :
      Tag.scan options text = .ok (some (tag, rest)) → Begins options text

/-- Which token a piece of the source is in front of a rest: a text in which
nothing begins, a brace with a backslash, or the text of a placeholder or tag
that is found there. -/
inductive Token.IsPiece (options : Options) (rest : List Char) :
    Token → List Char → Prop
  | verbatim {piece : List Char} :
      (∀ part,
        part <:+ piece → part ≠ [] → ¬ Token.Begins options (part ++ rest)) →
      IsPiece options rest (.text (String.ofList piece)) piece
  | escape : IsPiece options rest (.text "\x7b") ['\x7b', '\\']
  | print {placeholder : Placeholder} :
      Placeholder.scanPrint options (placeholder.raw.toList ++ rest) =
        .ok (some (placeholder, rest)) →
      IsPiece options rest (.print placeholder) placeholder.raw.toList
  | tag {found : Tag} {raw : String} :
      Tag.scan options (raw.toList ++ rest) = .ok (some (found, rest)) →
      IsPiece options rest (.tag found raw) raw.toList

/-- Whether a source consists of one piece for each token, in their order, none
of them empty. -/
inductive Token.CutFrom (options : Options) : List Token → List Char → Prop
  | nil : CutFrom options [] []
  | cons {token : Token} {piece rest : List Char} {tokens : List Token} :
      piece ≠ [] → token.IsPiece options rest piece →
      CutFrom options tokens rest →
      CutFrom options (token :: tokens) (piece ++ rest)

theorem Placeholder.scan_of_scanPrint {text rest : List Char}
    {placeholder : Placeholder}
    (found :
      Placeholder.scanPrint options text = .ok (some (placeholder, rest))) :
    Placeholder.scan options (maxDepth + 1) text =
      .ok (some (placeholder, rest)) := by
  obtain ⟨other, between, scanned, found⟩ := bind_eq_some_iff.mp found
  obtain ⟨_, _, ensured, found⟩ := bind_eq_some_iff.mp found
  cases found
  unfold ensure at ensured
  split at ensured
  · cases ensured
    exact scanned
  · cases ensured

/-- What is found in a source is a piece of it. -/
theorem Token.exists_piece_of_scan {text rest : List Char} {token : Token}
    (found : Token.scan options text = .ok (some (token, rest))) :
    ∃ piece,
      piece ≠ [] ∧ text = piece ++ rest ∧ token.IsPiece options rest piece := by
  rw [Token.scan_eq] at found
  split at found
  next escape =>
    obtain ⟨more, rfl⟩ := escape
    rw [show Token.scanEscape (['\x7b', '\\'] ++ more) = .ok
        (some (.text "\x7b", more)) from rfl] at found
    cases found
    exact ⟨_, List.cons_ne_nil _ _, rfl, .escape⟩
  next =>
    cases text with
    | nil => cases found
    | cons first text =>
        rw [Token.scanUnescaped, Token.scanAt] at found
        split at found
        · obtain ⟨placeholder, between, scanned, found⟩ :=
            bind_eq_some_iff.mp found
          cases found
          obtain ⟨filled, same⟩ :=
            Placeholder.append_of_scan (Placeholder.scan_of_scanPrint scanned)
          rw [same] at scanned
          exact ⟨_, by simpa using filled, same, .print scanned⟩
        · split at found
          · obtain ⟨⟨tag, raw⟩, between, scanned, found⟩ :=
              bind_eq_some_iff.mp found
            cases found
            obtain ⟨scanned, filled, same⟩ :=
              Tag.advances_scan.append_of_withText scanned
            rw [same, ← @String.toList_ofList raw] at scanned
            refine ⟨(String.ofList raw).toList, ?_, ?_, .tag scanned⟩
            · simpa using filled
            · rw [String.toList_ofList, same]
          · cases found

theorem Token.Begins.exists_scan {text : List Char}
    (begins : Token.Begins options text) :
    ∃ found, Token.scan options text = .ok (some found) := by
  rw [Token.scan_eq]
  by_cases escape : ['\x7b', '\\'] <+: text
  · obtain ⟨rest, rfl⟩ := escape
    exact ⟨_, rfl⟩
  · rw [if_neg escape]
    cases begins with
    | escape rest => exact absurd (List.prefix_append _ rest) escape
    | print found =>
        obtain ⟨more, rfl⟩ :=
          Placeholder.starts_of_scan (Placeholder.scan_of_scanPrint found)
        rw [Token.scanUnescaped, Token.scanAt, if_pos rfl]
        exact ⟨_, bind_eq_some_iff.mpr ⟨_, _, found, rfl⟩⟩
    | tag found =>
        obtain ⟨more, rfl⟩ := Tag.starts_of_scan found
        rw [Token.scanUnescaped, Token.scanAt, if_neg (by decide), if_pos rfl]
        exact ⟨_,
          bind_eq_some_iff.mpr ⟨_, _, withText_eq_some_iff.mpr ⟨found, rfl⟩,
            rfl⟩⟩

theorem Token.cutFrom_of_cutBy {pieces : List (Scanner.Piece Token)}
    {source : List Char} (cut : CutBy (Token.scan options) pieces source) :
    Token.CutFrom options (pieces.map Token.ofPiece) source := by
  induction cut with
  | nil => exact .nil
  | plain filled inert _ induction =>
      refine .cons filled (.verbatim fun part inside some begins => ?_)
        induction
      obtain ⟨found, scanned⟩ := begins.exists_scan
      rw [inert part inside some] at scanned
      cases scanned
  | construct found _ induction =>
      obtain ⟨piece, filled, rfl, isPiece⟩ := Token.exists_piece_of_scan found
      exact .cons filled isPiece induction

theorem Token.advances_scan : (Token.scan options).Advances := by
  intro text token rest found
  obtain ⟨piece, filled, same, -⟩ := Token.exists_piece_of_scan found
  exact ⟨piece, filled, same⟩

theorem Token.cutBy_of_split {source : List Char}
    {pieces : List (Scanner.Piece Token)}
    (splits : Scanner.split (Token.scan options) source = .ok pieces) :
    CutBy (Token.scan options) pieces source :=
  Token.advances_scan.cutBy_of_splitWithin (Nat.le_refl _) splits

/-- The tokens of a source are its pieces in their order: nothing of it is lost,
and nothing that is literal text could have been read as markup where it
stands. -/
theorem Token.cutFrom_of_tokenize {source : List Char} {tokens : List Token}
    (tokenized : tokenize options source = .ok tokens) :
    Token.CutFrom options tokens source := by
  obtain ⟨pieces, splits, rfl⟩ := exists_pieces_of_tokenize tokenized
  exact Token.cutFrom_of_cutBy (Token.cutBy_of_split splits)

end

/-- An escape, a tag without the namespace, a placeholder and a tag with it. -/
def Token.namespaced : List Token :=
  [.text "\x7b", .text "<else/>",
    .print ⟨"\x7bX\x7d", false, false, "X", [], [], []⟩,
    .tag .otherwise "<t:else/>"]

theorem Token.cutFrom_of_tokenize_namespaced :
    tokenize { namespacePrefix := some "t" }
          "\x7b\\<else/>\x7bX\x7d<t:else/>".toList =
        .ok Token.namespaced ∧
      Token.CutFrom { namespacePrefix := some "t" } Token.namespaced
        "\x7b\\<else/>\x7bX\x7d<t:else/>".toList := by
  have tokenized : tokenize { namespacePrefix := some "t" }
      "\x7b\\<else/>\x7bX\x7d<t:else/>".toList = .ok Token.namespaced := by cbv
  exact ⟨tokenized, Token.cutFrom_of_tokenize tokenized⟩

end TemplateEngine.Markup
