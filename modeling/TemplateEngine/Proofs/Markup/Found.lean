import TemplateEngine.Proofs.Markup.Texts
import TemplateEngine.Proofs.Markup.Truncated

/-!
# What scanners find

A property of all that a scanner finds, whatever the text, passes from scanners
to those that are put together from them.  What holds of all placeholders that
are scanned holds of those of a tag and of a token.  So the levels of nested
placeholders are bounded by those with which they are scanned: 65 in
placeholders that print, and fewer in tags.
-/

namespace TemplateEngine.Markup

namespace Scanner

/-- Whether all that a scanner finds, in whatever text, has a property. -/
def Finds {α : Type} (holds : α → Prop) (scanner : Scanner α) : Prop :=
  ∀ text value rest, scanner text = .ok (some (value, rest)) → holds value

section

variable {α β : Type} {between : α → Prop} {holds : β → Prop}
  {scanner : Scanner α}

theorem finds_all (scanner : Scanner α) : scanner.Finds fun _ => True :=
  fun _ _ _ _ => trivial

theorem finds_pure {value : β} (has : holds value) :
    (pure value : Scanner β).Finds holds := by
  intro text other rest found
  cases found
  exact has

theorem finds_nothing : (nothing : Scanner β).Finds holds := by
  intro text value rest found
  cases found

theorem finds_lift {result : Except SyntaxError β}
    (has : ∀ value, result = .ok value → holds value) :
    (lift result).Finds holds := by
  intro text value rest found
  cases result with
  | error error => cases found
  | ok other =>
      cases found
      exact has value rfl

theorem Finds.bind {next : α → Scanner β} (first : scanner.Finds between)
    (second : ∀ value, between value → (next value).Finds holds) :
    (scanner >>= next).Finds holds := by
  intro text value rest found
  obtain ⟨middle, after, scanned, found⟩ := bind_eq_some_iff.mp found
  exact second middle (first text middle after scanned) after value rest found

/-- What a scanner finds first does not matter. -/
theorem finds_bind {next : α → Scanner β}
    (second : ∀ value, (next value).Finds holds) :
    (scanner >>= next).Finds holds :=
  (finds_all scanner).bind fun value _ => second value

theorem Finds.map {change : α → β}
    (finds : scanner.Finds fun value => holds (change value)) :
    (do return change (← scanner) : Scanner β).Finds holds :=
  finds.bind fun _ has => finds_pure has

theorem Finds.withText (finds : scanner.Finds between) :
    (withText scanner).Finds fun found => between found.1 := by
  rintro text ⟨value, raw⟩ rest found
  exact finds text value rest (withText_eq_some_iff.mp found).1

theorem Finds.within (finds : scanner.Finds between) (other : List Char) :
    (within other scanner).Finds between := by
  intro text value rest found
  unfold Scanner.within at found
  split at found
  · cases found
  next scanned =>
    cases found
    exact finds other value [] scanned
  · cases found

theorem Finds.manyAfter (finds : scanner.Finds between) (lead : Char) :
    (manyAfter lead scanner).Finds fun values =>
      ∀ value ∈ values, between value := by
  have bounded (fuel : Nat) :
      (manyAfterWithin lead scanner fuel).Finds fun values =>
        ∀ value ∈ values, between value := by
    induction fuel with
    | zero =>
        intro text values rest found
        cases found
        exact List.forall_mem_nil _
    | succ fuel induction =>
        intro text values rest found
        cases text with
        | nil =>
            cases found
            exact List.forall_mem_nil _
        | cons character text =>
            rw [manyAfterWithin] at found
            split at found
            · have items : (do
                  let first ← scanner
                  let others ← manyAfterWithin lead scanner fuel
                  return first :: others : Scanner (List α)).Finds
                    fun values => ∀ value ∈ values, between value :=
                finds.bind fun first has => induction.bind fun others have' =>
                  finds_pure (List.forall_mem_cons.mpr ⟨has, have'⟩)
              exact items text values rest found
            · cases found
              exact List.forall_mem_nil _
  intro text values rest found
  exact bounded text.length text values rest found

@[simp] theorem mem_prepend {character : Char} {pieces : List (Piece α)}
    {value : α} :
    .construct value ∈ Piece.prepend character pieces ↔
      .construct value ∈ pieces := by
  unfold Piece.prepend
  split <;> simp

theorem Finds.of_split (finds : scanner.Finds between) {text : List Char}
    {pieces : List (Piece α)} (splits : split scanner text = .ok pieces)
    {value : α} (member : .construct value ∈ pieces) : between value := by
  rw [split] at splits
  generalize text.length = fuel at splits
  induction fuel generalizing text pieces with
  | zero =>
      cases splits
      cases member
  | succ fuel induction =>
      cases text with
      | nil =>
          cases splits
          cases member
      | cons character text =>
          rcases splitWithin_cons_eq_ok splits with
            ⟨-, others, later, rfl⟩ | ⟨first, rest, others, scanned, later, rfl⟩
          · exact induction (mem_prepend.mp member) later
          · rcases List.mem_cons.mp member with same | member
            · cases same
              exact finds _ _ _ scanned
            · exact induction member later

end

end Scanner

open Scanner

/-! ## Placeholders of a token -/

def Argument.placeholders : Argument → List Placeholder
  | .value placeholder => [placeholder]
  | _ => []

def Part.placeholders : Part → List Placeholder
  | .text _ => []
  | .value placeholder => [placeholder]

def Destination.placeholders : Destination → List Placeholder
  | .path _ query => query.flatMap fun (_, value) => value.placeholders
  | .dynamic placeholder => [placeholder]

/-- The placeholders of a tag that are not inside of others. -/
def Tag.placeholders : Tag → List Placeholder
  | .foreach collection _ => [collection]
  | .condition parts => parts.flatMap Part.placeholders
  | .elseIf parts => parts.flatMap Part.placeholders
  | .inclusion _ destination _ => destination.placeholders
  | .set _ subscripts body =>
    subscripts.flatMap Argument.placeholders ++ body.flatMap Part.placeholders
  | _ => []

/-- The placeholders of a token that are not inside of others. -/
def Token.placeholders : Token → List Placeholder
  | .text _ => []
  | .print placeholder => [placeholder]
  | .tag found _ => found.placeholders

/-- The placeholders directly inside of a placeholder. -/
def Placeholder.inner (placeholder : Placeholder) : List Placeholder :=
  placeholder.subscripts.flatMap Argument.placeholders ++
    placeholder.filters.flatMap fun call =>
      call.arguments.flatMap Argument.placeholders

section

variable {nested : Scanner Placeholder} {holds : Placeholder → Prop}
  (finds : nested.Finds holds)

include finds

theorem Argument.finds_placeholders (stop : Char → Bool) :
    (Argument.scan nested stop).Finds fun argument =>
      ∀ placeholder ∈ argument.placeholders, holds placeholder := by
  intro text argument rest found
  cases text with
  | nil => cases found
  | cons first text =>
      have inside : (Argument.scanAt nested stop first).Finds fun argument =>
          ∀ placeholder ∈ argument.placeholders, holds placeholder := by
        rw [Argument.scanAt]
        split
        · exact finds.bind fun _ has => finds_bind fun _ =>
            finds_pure (List.forall_mem_singleton.mpr has)
        · split
          · exact finds_bind fun _ => finds_pure (List.forall_mem_nil _)
          · exact finds_bind fun _ => finds_pure (List.forall_mem_nil _)
      rw [Argument.scan_cons] at found
      exact inside _ argument rest found

theorem Placeholder.finds_subscripts :
    (Placeholder.scanSubscripts nested).Finds fun subscripts =>
      ∀ placeholder ∈ subscripts.flatMap Argument.placeholders,
        holds placeholder := by
  intro text subscripts rest found
  have each :=
    Finds.manyAfter
      ((Argument.finds_placeholders finds _).bind fun _ has =>
        finds_bind fun _ => finds_pure has)
      '[' text subscripts rest found
  simpa only [List.forall_mem_flatMap] using each

theorem Placeholder.finds_filters :
    (Placeholder.scanFilters nested).Finds fun calls =>
      ∀ placeholder ∈ calls.flatMap fun call => call.arguments.flatMap
          Argument.placeholders,
        holds placeholder := by
  have items : (do
      let name ← Scanner.name
      let arguments ← manyAfter ':'
        (Argument.scan nested Argument.endsFilterArgument)
      return ⟨name, arguments⟩ : Scanner FilterCall).Finds fun call =>
        ∀ argument ∈ call.arguments,
          ∀ placeholder ∈ argument.placeholders, holds placeholder :=
    finds_bind fun name =>
      ((Argument.finds_placeholders finds _).manyAfter ':').bind
        fun _ has => finds_pure has
  intro text calls rest found
  have each := items.manyAfter '|' text calls rest found
  simpa only [List.forall_mem_flatMap] using each

/-- What is found around nested placeholders: constants and filters only if they
are switched on, and inside only what is found for the nested ones. -/
theorem Placeholder.finds_around (options : Options) :
    (Placeholder.scanAround options nested).Finds fun placeholder =>
      (placeholder.isConstant = true → options.constants = true) ∧
      (placeholder.filters ≠ [] → options.filters = true) ∧
      ∀ inner ∈ placeholder.inner, holds inner := by
  refine (@Finds.withText _ (fun placeholder : Placeholder =>
    (placeholder.isConstant = true → options.constants = true) ∧
      (placeholder.filters ≠ [] → options.filters = true) ∧
      ∀ inner ∈ placeholder.inner,
        holds inner) _ ?_).bind fun found has => finds_pure has
  refine finds_bind fun _ => finds_bind fun isValue => finds_bind fun first =>
    finds_bind fun rest => ?_
  refine (Placeholder.finds_subscripts finds).bind
    fun subscripts inSubscripts => ?_
  have closed (filters : List FilterCall)
    (enabled : filters ≠ [] → options.filters = true)
    (inFilters : ∀ inner ∈ filters.flatMap fun call =>
        call.arguments.flatMap Argument.placeholders, holds inner) :
      (exactly ['\x7d'] >>= fun _ => pure ({
        raw := ""
        isValue
        isConstant :=
          options.constants && rest.isEmpty && Placeholder.namesConstant first
        first, rest, subscripts, filters } : Placeholder)).Finds
          fun placeholder =>
            (placeholder.isConstant = true → options.constants = true) ∧
            (placeholder.filters ≠ [] → options.filters = true) ∧
            ∀ inner ∈ placeholder.inner, holds inner := by
    refine finds_bind fun _ => finds_pure ⟨fun isConstant => ?_, enabled, ?_⟩
    · exact (Bool.and_eq_true_iff.mp (Bool.and_eq_true_iff.mp isConstant).1).1
    · exact List.forall_mem_append.mpr ⟨inSubscripts, inFilters⟩
  by_cases enabled : options.filters = true
  · rw [if_pos enabled]
    exact (Placeholder.finds_filters finds).bind fun filters inFilters =>
      closed filters (fun _ => enabled) inFilters
  · rw [if_neg enabled]
    have unfiltered :
        (pure [] : Scanner (List FilterCall)).Finds fun filters =>
          filters = [] :=
      finds_pure rfl
    refine unfiltered.bind fun filters none =>
      closed filters (fun some => absurd none some) ?_
    rw [none]
    exact List.forall_mem_nil _

end

/-! ## What holds of all placeholders of a token -/

/-- The part of free text that a piece is. -/
def Part.ofPiece : Scanner.Piece Placeholder → Part
  | .plain content => .text (String.ofList content)
  | .construct placeholder => .value placeholder

theorem Part.split_eq (options : Options) (text : List Char) :
    Part.split options text =
      (Scanner.split (Placeholder.scanValue options) text).map
        (List.map Part.ofPiece) :=
  rfl

theorem Part.exists_pieces_of_split {options : Options} {text : List Char}
    {parts : List Part} (splits : Part.split options text = .ok parts) :
    ∃ pieces, Scanner.split (Placeholder.scanValue options) text = .ok pieces ∧
      parts = pieces.map Part.ofPiece := by
  rw [Part.split_eq] at splits
  cases found : Scanner.split (Placeholder.scanValue options) text with
  | error error =>
      rw [found] at splits
      cases splits
  | ok pieces =>
      rw [found] at splits
      cases splits
      exact ⟨pieces, rfl, rfl⟩

section

variable {options : Options} {holds : Placeholder → Prop}

/-- What holds of all values holds of those that free text is split at. -/
theorem Part.forall_of_split
    (inValues : (Placeholder.scanValue options).Finds holds) {text : List Char}
    {parts : List Part} (splits : Part.split options text = .ok parts) :
    ∀ placeholder ∈ parts.flatMap Part.placeholders, holds placeholder := by
  intro placeholder member
  obtain ⟨pieces, found, rfl⟩ := exists_pieces_of_split splits
  obtain ⟨part, inside, member⟩ := List.mem_flatMap.mp member
  obtain ⟨piece, within, rfl⟩ := List.mem_map.mp inside
  cases piece with
  | plain text => cases member
  | construct value =>
      obtain rfl := List.mem_singleton.mp member
      exact inValues.of_split found within

namespace Tag

/-- Whether something holds of all placeholders of a tag. -/
def Each (holds : Placeholder → Prop) (tag : Tag) : Prop :=
  ∀ placeholder ∈ tag.placeholders, holds placeholder

theorem finds_complete {holds : Tag → Prop} {tag : Scanner (Tag × Attributes)}
    (finds : tag.Finds fun found => holds found.1) :
    (complete tag).Finds holds :=
  finds.bind fun _ has => finds_bind fun _ => finds_pure has

theorem finds_blockOf (attributes : Attributes) :
    (blockOf attributes).Finds fun found => found.1.Each holds :=
  finds_bind fun _ => finds_bind fun _ => finds_pure (List.forall_mem_nil _)

section

variable (inValues : (Placeholder.scanValue options).Finds holds)

include inValues

theorem finds_foreachOf (attributes : Attributes) :
    (foreachOf options attributes).Finds fun found => found.1.Each holds :=
  finds_bind fun _ => (inValues.within _).bind fun _ has =>
    finds_bind fun _ => finds_pure (List.forall_mem_singleton.mpr has)

theorem finds_conditionOf (attributes : Attributes) :
    (conditionOf options attributes).Finds fun found =>
      ∀ placeholder ∈ found.1.flatMap Part.placeholders, holds placeholder :=
  finds_bind fun _ => finds_bind fun _ =>
    (finds_lift fun _ splits => Part.forall_of_split inValues splits).bind
      fun _ has => finds_pure has

theorem finds_parameterOf (pair : List Char) :
    (parameterOf options pair).Finds fun parameter =>
      ∀ placeholder ∈ parameter.2.placeholders, holds placeholder := by
  rw [parameterOf]
  generalize (Text.splitFirst? '=' pair).getD (pair, []) = parts
  obtain ⟨name, value⟩ := parts
  refine finds_bind fun _ => Finds.map ?_
  intro text part rest found
  dsimp only at found
  split at found
  · cases found
    exact List.forall_mem_nil _
  next scanned =>
    cases found
    exact List.forall_mem_singleton.mpr (inValues.within _ _ _ _ scanned)
  · cases found

theorem finds_parametersOf (pairs : List (List Char)) :
    (parametersOf options pairs).Finds fun parameters =>
      ∀ parameter ∈ parameters,
        ∀ placeholder ∈ parameter.2.placeholders, holds placeholder := by
  induction pairs with
  | nil => exact finds_pure (List.forall_mem_nil _)
  | cons pair pairs induction =>
      exact (finds_parameterOf inValues pair).bind fun _ first =>
        induction.bind fun _ others =>
          finds_pure (List.forall_mem_cons.mpr ⟨first, others⟩)

theorem finds_pathOf (template : List Char) :
    (pathOf options template).Finds fun destination =>
      ∀ placeholder ∈ destination.placeholders, holds placeholder :=
  finds_bind fun _ => (finds_parametersOf inValues _).bind fun _ has =>
    finds_pure (List.forall_mem_flatMap.mpr has)

theorem finds_destinationOf (template : List Char) :
    (destinationOf options template).Finds fun destination =>
      ∀ placeholder ∈ destination.placeholders, holds placeholder := by
  intro text destination rest found
  rw [destinationOf] at found
  split at found
  · cases found
  next scanned =>
    cases found
    exact List.forall_mem_singleton.mpr (inValues.within _ _ _ _ scanned)
  next => exact finds_pathOf inValues template text destination rest found

theorem finds_inclusionOf (kind : InclusionKind) (attributes : Attributes) :
    (inclusionOf options kind attributes).Finds fun found =>
      found.1.Each holds :=
  finds_bind fun _ => finds_bind fun _ =>
    (finds_destinationOf inValues _).bind fun _ has => finds_pure has

end

section

variable (inValues : (Placeholder.scanValue options).Finds holds)
  (inTargets : (Placeholder.scan options (maxDepth - 1)).Finds holds)

include inValues inTargets

theorem finds_setOf (attributes : Attributes) :
    (setOf options attributes).Finds (Each holds) := by
  have target : (Placeholder.scanTarget options).Finds fun found =>
      ∀ placeholder ∈ found.2.flatMap Argument.placeholders,
        holds placeholder :=
    finds_bind fun _ =>
      (Placeholder.finds_subscripts inTargets).bind fun _ has => finds_pure has
  refine finds_bind fun _ =>
    finds_bind fun _ => (target.within _).bind fun found inTarget => ?_
  refine finds_bind fun body => finds_bind fun _ => ?_
  exact (finds_lift fun _ splits => Part.forall_of_split inValues splits).bind
    fun parts inBody =>
      finds_pure (List.forall_mem_append.mpr ⟨inTarget, inBody⟩)

theorem finds_ofHead (head : Head) :
    (ofHead options head).Finds (Each holds) := by
  have elseIfs : (ofHead.elseIfOf options head).Finds (Each holds) :=
    finds_bind fun _ => finds_complete
      ((finds_conditionOf inValues _).bind fun _ has => finds_pure has)
  unfold ofHead
  split
  · exact finds_complete (finds_foreachOf inValues _)
  · exact finds_complete (finds_pure (List.forall_mem_nil _))
  · exact finds_complete (finds_blockOf _)
  · exact finds_bind fun _ => finds_complete
      ((finds_conditionOf inValues _).bind fun _ has => finds_pure has)
  · exact elseIfs
  · exact elseIfs
  · exact finds_bind fun _ =>
      finds_complete (finds_pure (List.forall_mem_nil _))
  · exact finds_bind fun _ => finds_complete (finds_inclusionOf inValues _ _)
  · exact finds_bind fun _ => finds_complete (finds_inclusionOf inValues _ _)
  · exact finds_bind fun _ => finds_setOf inValues inTargets _
  · exact finds_nothing

/-- What holds of all placeholders that a tag may have holds of those of each
tag. -/
theorem finds_scan : (scan options).Finds (Each holds) := by
  have closing : (scanClosing options).Finds (Each holds) := by
    refine finds_bind fun _ =>
      finds_bind fun _ => finds_bind fun isForeach => ?_
    split
    · exact finds_pure (List.forall_mem_nil _)
    · exact finds_bind fun _ =>
        finds_bind fun _ => finds_pure (List.forall_mem_nil _)
  have opening : (scanOpening options).Finds (Each holds) :=
    finds_bind fun _ => finds_ofHead inValues inTargets _
  intro text tag rest found
  rw [scan_eq] at found
  split at found
  · exact closing text tag rest found
  · exact opening text tag rest found

end

end Tag

/-- What holds of all placeholders that are scanned holds of those of each
token. -/
theorem Token.finds_scan
    (inPrints : (Placeholder.scanPrint options).Finds holds)
    (inTags : (Tag.scan options).Finds (Tag.Each holds)) :
    (Token.scan options).Finds fun token =>
      ∀ placeholder ∈ token.placeholders, holds placeholder := by
  have prints : (Placeholder.scanPrint options >>= fun placeholder =>
      pure (Token.print placeholder) : Scanner Token).Finds
        fun token => ∀ placeholder ∈ token.placeholders, holds placeholder :=
    inPrints.bind fun _ has => finds_pure (List.forall_mem_singleton.mpr has)
  have tags : (Scanner.withText (Tag.scan options) >>= fun found =>
      pure (Token.tag found.1 (String.ofList found.2)) : Scanner Token).Finds
        fun token => ∀ placeholder ∈ token.placeholders, holds placeholder :=
    inTags.withText.bind fun _ has => finds_pure has
  intro text token rest found
  rw [Token.scan.eq_def] at found
  split at found
  · cases found
    exact List.forall_mem_nil _
  · exact prints _ token rest found
  · exact tags _ token rest found
  · cases found

theorem Token.forall_of_tokenize
    (finds : (Token.scan options).Finds fun token =>
      ∀ placeholder ∈ token.placeholders, holds placeholder)
    {source : List Char} {tokens : List Token}
    (tokenized : tokenize options source = .ok tokens) :
    ∀ placeholder ∈ tokens.flatMap Token.placeholders, holds placeholder := by
  intro placeholder member
  obtain ⟨token, inside, member⟩ := List.mem_flatMap.mp member
  obtain ⟨pieces, splits, rfl⟩ := exists_pieces_of_tokenize tokenized
  obtain ⟨piece, within, same⟩ := List.mem_map.mp inside
  cases piece with
  | plain text =>
      cases same
      cases member
  | construct found =>
      cases same
      exact finds.of_split splits within placeholder member

end

/-! ## Levels of placeholders -/

mutual

/-- The number of levels of a placeholder: one more than the deepest of its
subscripts and of the arguments of its filters. -/
def Placeholder.levels : Placeholder → Nat
  | ⟨_, _, _, _, _, subscripts, filters⟩ =>
    1 + max (Argument.levelsAll subscripts) (FilterCall.levelsAll filters)

def Argument.levels : Argument → Nat
  | .bare _ => 0
  | .quoted _ => 0
  | .value placeholder => placeholder.levels

def Argument.levelsAll : List Argument → Nat
  | [] => 0
  | argument :: others => max argument.levels (Argument.levelsAll others)

def FilterCall.levelsAll : List FilterCall → Nat
  | [] => 0
  | ⟨_, arguments⟩ :: calls =>
    max (Argument.levelsAll arguments) (FilterCall.levelsAll calls)

end

theorem Argument.levelsAll_le_iff {arguments : List Argument} {bound : Nat} :
    Argument.levelsAll arguments ≤ bound ↔
      ∀ argument ∈ arguments, argument.levels ≤ bound := by
  induction arguments with
  | nil => simp [Argument.levelsAll]
  | cons argument others induction =>
      rw [Argument.levelsAll, Nat.max_le, induction, List.forall_mem_cons]

theorem FilterCall.levelsAll_le_iff {calls : List FilterCall} {bound : Nat} :
    FilterCall.levelsAll calls ≤ bound ↔
      ∀ call ∈ calls, Argument.levelsAll call.arguments ≤ bound := by
  induction calls with
  | nil => simp [FilterCall.levelsAll]
  | cons call calls induction =>
      obtain ⟨name, arguments⟩ := call
      rw [FilterCall.levelsAll, Nat.max_le, induction, List.forall_mem_cons]

/-- A placeholder has one level more than those directly inside of it. -/
theorem Placeholder.levels_le {placeholder : Placeholder} {bound : Nat}
    (inside : ∀ inner ∈ placeholder.inner, inner.levels ≤ bound) :
    placeholder.levels ≤ bound + 1 := by
  have ofArguments {arguments : List Argument}
      (inArguments : ∀ inner ∈ arguments.flatMap Argument.placeholders,
        inner.levels ≤ bound) : Argument.levelsAll arguments ≤ bound := by
    refine Argument.levelsAll_le_iff.mpr fun argument member => ?_
    have inArgument := List.forall_mem_flatMap.mp inArguments argument member
    cases argument with
    | bare _ | quoted _ => exact Nat.zero_le _
    | value inner => exact inArgument inner (List.mem_singleton_self inner)
  obtain ⟨raw, isValue, isConstant, first, rest, subscripts, filters⟩ :=
    placeholder
  obtain ⟨inSubscripts, inFilters⟩ := List.forall_mem_append.mp inside
  rw [Placeholder.levels, Nat.add_comm]
  refine Nat.succ_le_succ (Nat.max_le.mpr ⟨ofArguments inSubscripts, ?_⟩)
  exact FilterCall.levelsAll_le_iff.mpr fun call member =>
    ofArguments (List.forall_mem_flatMap.mp inFilters call member)

/-- Placeholders have at most the levels with which they are scanned. -/
theorem Placeholder.finds_scan (options : Options) (levels : Nat) :
    (Placeholder.scan options levels).Finds fun placeholder =>
      placeholder.levels ≤ levels := by
  induction levels with
  | zero =>
      intro text placeholder rest found
      cases found
  | succ levels induction =>
      intro text placeholder rest found
      exact Placeholder.levels_le (Placeholder.finds_around induction options
        text placeholder rest found).2.2

/-- Whether no placeholder of a tag has more levels than a tag may have. -/
def Tag.Shallow (tag : Tag) : Prop :=
  ∀ placeholder ∈ tag.placeholders, placeholder.levels ≤ maxDepth

section

variable {options : Options}

theorem Placeholder.finds_scanPrint :
    (Placeholder.scanPrint options).Finds fun placeholder =>
      placeholder.levels ≤ maxDepth + 1 :=
  (Placeholder.finds_scan options _).bind fun _ has =>
    finds_bind fun _ => finds_pure has

theorem Placeholder.finds_scanValue :
    (Placeholder.scanValue options).Finds fun placeholder =>
      placeholder.levels ≤ maxDepth :=
  (Placeholder.finds_scan options _).bind fun _ has =>
    finds_bind fun _ => finds_pure has

theorem Tag.shallow_of_scan : (Tag.scan options).Finds Tag.Shallow :=
  Tag.finds_scan Placeholder.finds_scanValue fun text placeholder rest found =>
    Nat.le_trans (Placeholder.finds_scan options _ text placeholder rest found)
      (Nat.sub_le _ _)

/-- The placeholders of a template have at most 65 levels. -/
theorem Token.levels_le_of_tokenize {source : List Char} {tokens : List Token}
    (tokenized : tokenize options source = .ok tokens) :
    ∀ placeholder ∈ tokens.flatMap Token.placeholders,
      placeholder.levels ≤ maxDepth + 1 :=
  Token.forall_of_tokenize (Token.finds_scan Placeholder.finds_scanPrint
    fun text tag rest found placeholder member =>
      Nat.le_succ_of_le
        (Tag.shallow_of_scan text tag rest found placeholder member))
    tokenized

end

end TemplateEngine.Markup
