import TemplateEngine.Proofs.Markup.Found
import TemplateEngine.Proofs.Markup.Origins

/-!
# Placeholders in the order of the source

The placeholders of the tokens of a source stand in it one after the other, in
the order in which they are listed: tokens follow each other, a tag finds its
placeholders in one of its attributes, and an assignment finds those of its text
after those of its target.
-/

namespace TemplateEngine.Markup

/-- Whether pieces stand in a text one after the other, with any text around
them. -/
inductive InOrder : List (List Char) → List Char → Prop
  | nil (text : List Char) : InOrder [] text
  | cons (before piece : List Char) {pieces : List (List Char)}
      {rest : List Char} :
      InOrder pieces rest →
      InOrder (piece :: pieces) (before ++ (piece ++ rest))

namespace InOrder

variable {pieces others : List (List Char)} {text other : List Char}

theorem single (piece : List Char) : InOrder [piece] piece := by
  have alone := cons [] piece (nil [])
  rwa [List.append_nil] at alone

theorem prepend (before : List Char) (inOrder : InOrder pieces text) :
    InOrder pieces (before ++ text) := by
  cases inOrder with
  | nil => exact nil _
  | cons first piece inOrder =>
      rw [← List.append_assoc]
      exact cons (before ++ first) piece inOrder

theorem append (inOrder : InOrder pieces text) (later : InOrder others other) :
    InOrder (pieces ++ others) (text ++ other) := by
  induction inOrder with
  | nil text => exact later.prepend text
  | cons before piece _ induction =>
      rw [List.append_assoc, List.append_assoc]
      exact cons before piece induction

theorem widen (inOrder : InOrder pieces text) (inside : text <:+: other) :
    InOrder pieces other := by
  obtain ⟨before, after, rfl⟩ := inside
  have whole := (inOrder.prepend before).append (nil after)
  rwa [List.append_nil] at whole

theorem of_sublist (inOrder : InOrder pieces text)
    (fewer : others.Sublist pieces) : InOrder others text := by
  induction inOrder generalizing others with
  | nil text =>
      obtain rfl := List.sublist_nil.mp fewer
      exact nil text
  | cons before piece _ induction =>
      cases fewer with
      | cons _ fewer => exact ((induction fewer).prepend piece).prepend before
      | cons_cons _ fewer => exact cons before piece (induction fewer)

/-- What stands in pieces stands in the whole. -/
theorem flatten {inner : List (List (List Char))}
    (inside : List.Forall₂ InOrder inner pieces)
    (inOrder : InOrder pieces text) : InOrder inner.flatten text := by
  induction inOrder generalizing inner with
  | nil text =>
      cases inside
      exact nil text
  | cons before piece _ induction =>
      cases inside with
      | cons first inside =>
          exact (first.append (induction inside)).prepend before

/-- The parts of a text between separators stand in it. -/
theorem splitOn (separator : Char) (text : List Char) :
    InOrder (List.splitOn separator text) text := by
  have joined (parts : List (List Char)) :
      InOrder parts (List.intercalate [separator] parts) := by
    induction parts with
    | nil => exact nil _
    | cons part parts induction =>
        cases parts with
        | nil => simpa using single part
        | cons next parts =>
            have later := cons [] part (induction.prepend [separator])
            simpa using later
  have whole := joined (List.splitOn separator text)
  rwa [List.intercalate_splitOn] at whole

end InOrder

/-- Whether placeholders stand in a text one after the other. -/
def Placeholder.StandIn (placeholders : List Placeholder) (text : List Char) :
    Prop :=
  InOrder (placeholders.map fun placeholder => placeholder.raw.toList) text

namespace Scanner

/-- Items that are read one after the other stand in what is read for all of
them. -/
theorem Covers.manyAfter {α : Type} {scanner : Scanner α}
    {inner : α → List Placeholder}
    (covers :
      scanner.Covers fun value raw => Placeholder.StandIn (inner value) raw)
    (lead : Char) : (manyAfter lead scanner).Covers fun values raw =>
      Placeholder.StandIn (values.flatMap inner) raw := by
  have bounded (fuel : Nat) :
      (manyAfterWithin lead scanner fuel).Covers fun values raw =>
        Placeholder.StandIn (values.flatMap inner) raw := by
    induction fuel with
    | zero =>
        intro text values rest found
        cases found
        exact ⟨[], rfl, .nil _⟩
    | succ fuel induction =>
        have items : (do
            let first ← scanner
            let others ← manyAfterWithin lead scanner fuel
            return first :: others : Scanner (List α)).Covers fun values raw =>
              Placeholder.StandIn (values.flatMap inner) raw := by
          refine covers.bind fun first raw stand =>
            induction.bind fun others more later => ?_
          refine covers_pure ?_
          rw [List.append_nil, List.flatMap_cons, Placeholder.StandIn,
            List.map_append]
          exact stand.append later
        intro text values rest found
        cases text with
        | nil =>
            cases found
            exact ⟨[], rfl, .nil _⟩
        | cons character text =>
            rw [manyAfterWithin] at found
            split at found
            · obtain ⟨raw, rfl, stand⟩ := items text values rest found
              exact ⟨character :: raw, rfl, stand.prepend [character]⟩
            · cases found
              exact ⟨[], rfl, .nil _⟩
  exact fun text => bounded text.length text

end Scanner

open Scanner

section

variable {options : Options}

theorem Placeholder.covers_scan (levels : Nat) :
    (Placeholder.scan options levels).Covers fun placeholder raw =>
      raw = placeholder.raw.toList :=
  fun _ _ _ found => ⟨_, (Placeholder.append_of_scan found).2, rfl⟩

theorem Placeholder.covers_scanValue :
    (Placeholder.scanValue options).Covers fun placeholder raw =>
      raw = placeholder.raw.toList :=
  (Placeholder.covers_scan _).bind fun placeholder raw same =>
    (gives_ensure _).covers fun _ _ =>
      covers_pure (by rw [List.append_nil, same])

theorem Placeholder.advances_scanValue :
    (Placeholder.scanValue options).Advances := by
  have advances (levels : Nat) :
      (Placeholder.scan options levels).Advances := by
    intro text placeholder rest found
    obtain ⟨filled, same⟩ := Placeholder.append_of_scan found
    exact ⟨_, by simpa using filled, same⟩
  exact (advances _).bind fun placeholder =>
    (steady_ensure _).map fun _ => placeholder

theorem Placeholder.standIn_of_scanValue {text : List Char}
    {placeholder : Placeholder}
    (scanned :
      Placeholder.scanValue options text = .ok (some (placeholder, []))) :
    StandIn [placeholder] text := by
  obtain ⟨raw, same, rfl⟩ := Placeholder.covers_scanValue _ _ _ scanned
  rw [List.append_nil] at same
  rw [same]
  exact .single _

/-- An argument is a value that is all of its text, or holds no placeholder. -/
theorem Argument.covers_scan (levels : Nat) (stop : Char → Bool) :
    (Argument.scan (Placeholder.scan options levels) stop).Covers
      fun argument raw => Placeholder.StandIn argument.placeholders raw := by
  intro text argument rest found
  cases text with
  | nil => cases found
  | cons first text =>
      have covers :
          (Argument.scanAt (Placeholder.scan options levels) stop first).Covers
            fun argument raw =>
              Placeholder.StandIn argument.placeholders raw := by
        rw [Argument.scanAt]
        split
        · refine (Placeholder.covers_scan levels).bind
            fun placeholder raw same => ?_
          refine (gives_ensure _).covers fun _ _ => covers_pure ?_
          rw [List.append_nil, same]
          exact .single _
        · split
          · exact (@steady_quoted false).covers.bind fun _ _ _ =>
              covers_pure (.nil _)
          · exact (steady_bare stop).covers.bind fun _ _ _ =>
              covers_pure (.nil _)
      rw [Argument.scan_cons] at found
      exact covers _ argument rest found

theorem Placeholder.covers_scanTarget :
    (Placeholder.scanTarget options).Covers fun found raw =>
      Placeholder.StandIn (found.2.flatMap Argument.placeholders) raw := by
  have subscripts :
      (Placeholder.scanSubscripts
          (Placeholder.scan options (maxDepth - 1))).Covers
        fun subscripts raw =>
          Placeholder.StandIn (subscripts.flatMap Argument.placeholders)
            raw := by
    refine Covers.manyAfter
      ((Argument.covers_scan _ _).bind fun subscript raw stand => ?_) '['
    refine (covers_exactly _).bind fun _ closed _ => covers_pure ?_
    rw [List.append_nil]
    exact stand.widen ⟨[], closed, rfl⟩
  refine steady_name.covers.bind fun name written _ =>
    subscripts.bind fun found raw stand => ?_
  refine covers_pure ?_
  rw [List.append_nil]
  exact stand.prepend written

/-- The values of a text stand in it. -/
theorem Part.standIn_of_split {text : List Char} {parts : List Part}
    (splits : Part.split options text = .ok parts) :
    Placeholder.StandIn (parts.flatMap Part.placeholders) text := by
  obtain ⟨pieces, found, rfl⟩ := Part.exists_pieces_of_split splits
  have cut : CutBy (Placeholder.scanValue options) pieces text :=
    Placeholder.advances_scanValue.cutBy_of_splitWithin (Nat.le_refl _) found
  clear splits found
  induction cut with
  | nil => exact .nil _
  | plain _ _ _ induction => exact induction.prepend _
  | construct scanned _ induction =>
      obtain ⟨raw, rfl, rfl⟩ := Placeholder.covers_scanValue _ _ _ scanned
      exact .cons [] _ induction

/-! ## Tags -/

theorem Parameter.suffix_split (pair : List Char) :
    (split pair).2 <:+ pair := by
  by_cases inside : '=' ∈ pair
  · obtain ⟨name, value, rfl, apart⟩ := List.eq_append_cons_of_mem inside
    rw [split, Text.splitFirst?_append_cons value apart]
    exact ⟨name ++ ['='], by simp⟩
  · rw [split, Text.splitFirst?_of_not_mem inside]
    exact List.nil_suffix

theorem Parameter.ReadFrom.standIn {pair : List Char}
    {parameter : String × Part} (origin : ReadFrom options pair parameter) :
    Placeholder.StandIn parameter.2.placeholders pair := by
  cases origin with
  | text name => exact .nil _
  | value name scanned =>
      exact (Placeholder.standIn_of_scanValue scanned).widen
        (suffix_split pair).isInfix

/-- The values of a query string stand in it, each in its own pair. -/
theorem Parameter.standIn_of_pairs {query : List Char}
    {parameters : List (String × Part)}
    (origins : List.Forall₂ (ReadFrom options) (pairs query) parameters) :
    Placeholder.StandIn
      (parameters.flatMap fun (_, value) => value.placeholders) query := by
  let raws (parameter : String × Part) : List (List Char) :=
    parameter.2.placeholders.map fun placeholder => placeholder.raw.toList
  have inside : List.Forall₂ InOrder (parameters.map raws) (pairs query) :=
    List.forall₂_map_left_iff.mpr
      (origins.flip.imp fun _ _ origin => origin.standIn)
  have whole := InOrder.flatten inside
    ((InOrder.splitOn '&' query).of_sublist List.filter_sublist)
  rw [Placeholder.StandIn, List.map_flatMap]
  exact whole

theorem Destination.ReadFrom.standIn {template : List Char}
    {destination : Destination}
    (origin : destination.ReadFrom options template) :
    Placeholder.StandIn destination.placeholders template := by
  cases origin with
  | dynamic scanned => exact Placeholder.standIn_of_scanValue scanned
  | @path name query parameters splits origins =>
      have inQuery : query <:+ template := by
        rcases (Tag.splitPath?_eq_some splits).2 with ⟨-, rfl⟩ | rfl
        · exact List.nil_suffix
        · exact ⟨name ++ ['?'], by simp⟩
      exact (Parameter.standIn_of_pairs origins).widen inQuery.isInfix

/-- The placeholders of a tag stand in its text; those of an assigned text stand
behind the head. -/
theorem Tag.ReadFrom.standIn {tag : Tag} {raw : List Char}
    (origin : tag.ReadFrom options raw) :
    Placeholder.StandIn tag.placeholders raw := by
  cases origin with
  | endForeach => exact .nil _
  | endCondition => exact .nil _
  | @opening tag attributes start body stand madeOf =>
      have inHead {value : List Char} {placeholders : List Placeholder}
          (member : value ∈ attributes.map Prod.snd)
          (inValue : Placeholder.StandIn placeholders value) :
          Placeholder.StandIn placeholders (start ++ []) := by
        rw [List.append_nil]
        exact inValue.widen (stand value member)
      cases madeOf with
      | foreach rowAlias member scanned =>
          exact inHead member (Placeholder.standIn_of_scanValue scanned)
      | foreachElse | block _ _ | otherwise _ => exact .nil _
      | condition _ member splits =>
          exact inHead member (Part.standIn_of_split splits)
      | elseIf _ member splits =>
          exact inHead member (Part.standIn_of_split splits)
      | inclusion kind once _ member origin =>
          exact inHead member origin.standIn
      | set closing _ member scanned splits =>
          obtain ⟨target, same, inTarget⟩ :=
            Placeholder.covers_scanTarget _ _ _ scanned
          rw [List.append_nil] at same
          have inBody := (Part.standIn_of_split splits).widen
            (List.prefix_append _ closing).isInfix
          rw [Placeholder.StandIn, Tag.placeholders, List.map_append]
          exact (inTarget.widen (same ▸ stand _ member)).append inBody

theorem Token.CutFrom.standIn {tokens : List Token} {source : List Char}
    (cut : Token.CutFrom options tokens source) :
    Placeholder.StandIn (tokens.flatMap Token.placeholders) source := by
  induction cut with
  | nil => exact .nil _
  | @cons token piece rest tokens _ isPiece _ induction =>
      have inPiece : Placeholder.StandIn token.placeholders piece := by
        cases isPiece with
        | verbatim _ => exact .nil _
        | escape => exact .nil _
        | print _ => exact .single _
        | tag scanned =>
            obtain ⟨raw, same, origin⟩ := Tag.covers_scan _ _ _ scanned
            rw [List.append_cancel_right same]
            exact origin.standIn
      rw [Placeholder.StandIn, List.flatMap_cons, List.map_append]
      exact inPiece.append induction

/-- The placeholders of a source stand in it, in the order of its tokens. -/
theorem Token.standIn_of_tokenize {source : List Char} {tokens : List Token}
    (tokenized : tokenize options source = .ok tokens) :
    Placeholder.StandIn (tokens.flatMap Token.placeholders) source := by
  obtain ⟨pieces, splits, rfl⟩ := exists_pieces_of_tokenize tokenized
  exact (Token.cutFrom_of_cutBy (Token.cutBy_of_split splits)).standIn

end

end TemplateEngine.Markup
