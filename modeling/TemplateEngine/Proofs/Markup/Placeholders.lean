import TemplateEngine.Markup.Placeholder
import TemplateEngine.Proofs.Markup.Reads

/-!
# Placeholders as they are written

A placeholder keeps its text.  Whether this text is one of the ways to write it
is told by a grammar: arguments may be bare, between single or double quotes, or
values, and placeholders may be nested within a number of levels.  Scanning the
text gives the placeholder back.
-/

namespace TemplateEngine.Markup

open Scanner (Reads Stops Many Quoted stops_cons)

/-- How an argument is written, given which placeholders may be nested in it and
where it ends if it is bare. -/
inductive Argument.Spelled (nested : Placeholder → Prop) (stop : Char → Bool) :
    Argument → List Char → Prop
  | bare {text : List Char} :
      text ≠ [] →
      (∀ character ∈ text, (stop character || Text.isBlank character) = false) →
      (∀ mark ∈ ['\x7b', '\'', '"'], text.head? ≠ some mark) →
      Spelled nested stop (.bare (String.ofList text)) text
  | quoted {mark : Char} {content written : List Char} :
      mark = '\'' ∨ mark = '"' → Quoted mark content written →
      Spelled nested stop (.quoted (String.ofList content))
        ([mark] ++ (written ++ [mark]))
  | value {placeholder : Placeholder} :
      nested placeholder → placeholder.isValue = true →
      Spelled nested stop (.value placeholder) placeholder.raw.toList

/-- How a name is written. -/
def Name.Spelled (name : String) (text : List Char) : Prop :=
  text = name.toList ∧ Text.isName text = true

/-- How a subscript is written after its opening bracket. -/
def Argument.SpelledSubscript (nested : Placeholder → Prop)
    (subscript : Argument) (text : List Char) : Prop :=
  ∃ inner, subscript.Spelled nested Argument.endsSubscript inner ∧
    text = inner ++ [']']

/-- How a filter is written after its bar. -/
def FilterCall.Spelled (nested : Placeholder → Prop) (call : FilterCall)
    (text : List Char) : Prop :=
  Text.isName call.name.toList = true ∧
    ∃ arguments,
      Many ':' (Argument.Spelled nested Argument.endsFilterArgument)
          call.arguments arguments ∧
        text = call.name.toList ++ arguments

/-- Whether a placeholder is written as its text says, given which placeholders
may be nested in it. -/
inductive Placeholder.SpelledAround (nested : Placeholder → Prop) :
    Placeholder → Prop
  | intro {first : String} {rest : List String} {subscripts : List Argument}
      {filters : List FilterCall} {names brackets chain : List Char}
      (isValue : Bool) :
      Text.isName first.toList = true → Many '.' Name.Spelled rest names →
      Many '[' (Argument.SpelledSubscript nested) subscripts brackets →
      Many '|' (FilterCall.Spelled nested) filters chain →
      SpelledAround nested {
        raw := String.ofList (['\x7b'] ++ ((if isValue then ['$'] else []) ++
          (first.toList ++ (names ++ (brackets ++ (chain ++ ['\x7d']))))))
        isValue
        isConstant := rest.isEmpty && Placeholder.namesConstant first
        first, rest, subscripts, filters }

/-- Whether a placeholder that may be nested within a number of levels is
written as its text says. -/
def Placeholder.Spelled : (levels : Nat) → Placeholder → Prop
  | 0 => fun _ => False
  | levels + 1 => Placeholder.SpelledAround (Placeholder.Spelled levels)

/-! ## Reading them -/

/-- Whether a scanner reads a placeholder from its text, whatever comes after
it. -/
structure Placeholder.ReadBy (scanner : Scanner Placeholder)
    (placeholder : Placeholder) : Prop where
  brace : ∃ text, placeholder.raw.toList = '\x7b' :: text
  reads : ∀ rest, Reads scanner placeholder.raw.toList placeholder rest

section

variable {nested : Placeholder → Prop} {scanner : Scanner Placeholder}
  (readBy : ∀ placeholder, nested placeholder → placeholder.ReadBy scanner)

include readBy

theorem Argument.Spelled.reads_scan {stop : Char → Bool} {argument : Argument}
    {text rest : List Char} (spelled : argument.Spelled nested stop text)
    (stops : Stops stop rest) :
    Reads (Argument.scan scanner stop) text argument rest := by
  cases spelled with
  | bare some inside start =>
      obtain ⟨character, text, rfl⟩ := List.exists_cons_of_ne_nil some
      have read := (Scanner.reads_bare some inside
        (stops.mono fun _ stop => by rw [stop]; rfl)).bind_pure Argument.bare
      have noBrace : character ≠ '\x7b' :=
        fun same => start '\x7b' (by simp) (by rw [same]; rfl)
      have noQuote : character ≠ '\'' :=
        fun same => start '\'' (by simp) (by rw [same]; rfl)
      have noDouble : character ≠ '"' :=
        fun same => start '"' (by simp) (by rw [same]; rfl)
      rw [Reads, List.cons_append, Argument.scan.eq_def]
      split
      · simp_all
      · simp_all
      · simp_all
      · exact read
  | quoted isMark quoted =>
      have read :
          Reads (do return Argument.quoted (← Scanner.quoted)) _ _ rest :=
        (quoted.reads_quoted isMark).bind_pure Argument.quoted
      rcases isMark with rfl | rfl
      · exact read
      · exact read
  | @value placeholder nested isValue =>
      obtain ⟨⟨text, brace⟩, reads⟩ := readBy placeholder nested
      have read : Reads (do
          let placeholder ← scanner
          Scanner.ensure placeholder.isValue
          return Argument.value placeholder) placeholder.raw.toList
            (Argument.value placeholder) rest :=
        (reads rest).bind_last ((Scanner.reads_ensure isValue).bind_pure
          fun _ => Argument.value placeholder)
      rw [brace] at read ⊢
      exact read

theorem Argument.reads_scanSubscripts {subscripts : List Argument}
    {text rest : List Char}
    (spelled : Many '[' (Argument.SpelledSubscript nested) subscripts text)
    (stops : Stops (· != '[') rest) :
    Reads (Placeholder.scanSubscripts scanner) text subscripts rest := by
  apply spelled.reads_manyAfter (fun _ => True) _ (fun _ => trivial) trivial
    stops
  rintro subscript _ after ⟨inner, spelled, rfl⟩ -
  exact (spelled.reads_scan readBy (stops_cons rfl after)).bind
    ((Scanner.reads_exactly [']']).bind_pure fun _ => subscript)

theorem FilterCall.Spelled.reads {call : FilterCall} {text rest : List Char}
    (spelled : call.Spelled nested text)
    (stops : Stops (fun c => c == '|' || c == '\x7d') rest) : Reads (do
      let name ← Scanner.name
      let arguments ← Scanner.manyAfter ':'
        (Argument.scan scanner Argument.endsFilterArgument)
      return (⟨name, arguments⟩ : FilterCall)) text call rest := by
  obtain ⟨name, arguments⟩ := call
  obtain ⟨isName, text, many, rfl⟩ := spelled
  have ends : Stops Argument.endsFilterArgument rest := stops.of_either rfl rfl
  have noColon : Stops (· != ':') rest := stops.of_either rfl rfl
  have noName : Stops (fun c => !Text.isNamePart c) rest :=
    stops.of_either rfl rfl
  have read := many.reads_manyAfter (Stops Argument.endsFilterArgument)
    (fun argument text after spelled stops => spelled.reads_scan readBy stops)
    (fun after => stops_cons rfl after) ends noColon
  have readName := Scanner.reads_name isName (many.stops rfl noName)
  rw [String.ofList_toList] at readName
  exact readName.bind (read.bind_pure (FilterCall.mk name))

theorem FilterCall.reads_scanFilters {filters : List FilterCall}
    {text rest : List Char}
    (spelled : Many '|' (FilterCall.Spelled nested) filters text)
    (stops : Stops (· == '\x7d') rest) :
    Reads (Placeholder.scanFilters scanner) text filters rest := by
  apply spelled.reads_manyAfter (Stops fun c => c == '|' || c == '\x7d')
  · intro call text after spelled stops
    exact spelled.reads readBy stops
  · intro after
    exact stops_cons rfl after
  · exact stops.mono fun character brace => by rw [brace, Bool.or_true]
  · exact stops.mono fun character brace => by
      rw [eq_of_beq brace]
      rfl

end

theorem Name.reads_manyAfter {names : List String} {text rest : List Char}
    (spelled : Many '.' Name.Spelled names text)
    (stops : Stops (fun c => !Text.isNamePart c && c != '.') rest) :
    Reads (Scanner.manyAfter '.' Scanner.name) text names rest := by
  apply spelled.reads_manyAfter (Stops fun c => !Text.isNamePart c)
  · rintro name _ after ⟨rfl, isName⟩ stops
    have read := Scanner.reads_name isName stops
    rwa [String.ofList_toList] at read
  · intro after
    exact stops_cons rfl after
  · exact stops.mono fun character ending => (Bool.and_eq_true_iff.mp ending).1
  · exact stops.mono fun character ending => (Bool.and_eq_true_iff.mp ending).2

/-- The dollar sign of a value is read in front of a name, and only there. -/
theorem Placeholder.reads_sigil (isValue : Bool) {name rest : List Char}
    (isName : Text.isName name = true) :
    Reads (Scanner.takes ['$']) (if isValue then ['$'] else []) isValue
      (name ++ rest) := by
  cases isValue with
  | true => exact Scanner.reads_takes ['$']
  | false =>
      exact Scanner.reads_takes_of_none
        (Scanner.isPrefixOf?_of_isName isName rfl [])

/-- A placeholder is read from its text, if the placeholders nested in it
are. -/
theorem Placeholder.SpelledAround.readBy {options : Options}
    (filters : options.filters = true) (constants : options.constants = true)
    {nested : Placeholder → Prop} {scanner : Scanner Placeholder}
    (readBy : ∀ placeholder, nested placeholder → placeholder.ReadBy scanner)
    {placeholder : Placeholder} (spelled : placeholder.SpelledAround nested) :
    placeholder.ReadBy (Placeholder.scanAround options scanner) := by
  cases spelled with
  | @intro first others subscripts calls names brackets chain isValue isName
      dots inBrackets bars =>
      refine ⟨⟨_, String.toList_ofList⟩, fun rest => ?_⟩
      have atBrace : ∀ {stop : Char → Bool}, stop '\x7d' = true →
          Stops stop (['\x7d'] ++ rest) := fun stops => stops_cons stops rest
      have readCalls := FilterCall.reads_scanFilters readBy bars (atBrace rfl)
      have readSubscripts := Argument.reads_scanSubscripts readBy inBrackets
        (bars.stops rfl (atBrace rfl))
      have readNames := Name.reads_manyAfter dots
        (inBrackets.stops rfl (bars.stops rfl (atBrace rfl)))
      have readFirst := Scanner.reads_name isName
        (dots.stops rfl (inBrackets.stops rfl (bars.stops rfl (atBrace rfl))))
      have readSigil := @Placeholder.reads_sigil isValue first.toList
        (names ++ (brackets ++ (chain ++ (['\x7d'] ++ rest)))) isName
      rw [String.ofList_toList] at readFirst
      simp only [← List.append_assoc _ _ rest]
        at readSigil readFirst readNames readSubscripts
      rw [String.toList_ofList, Placeholder.scanAround, filters, constants]
      apply Reads.withText_bind
      · apply (Scanner.reads_exactly ['\x7b']).bind
        apply readSigil.bind
        apply readFirst.bind
        apply readNames.bind
        apply readSubscripts.bind
        apply readCalls.bind
        exact (Scanner.reads_exactly ['\x7d']).bind_pure _
      · exact Scanner.reads_pure _

section

variable {options : Options} (filters : options.filters = true)
  (constants : options.constants = true)

include filters constants

theorem Placeholder.Spelled.readBy {levels : Nat} {placeholder : Placeholder}
    (spelled : placeholder.Spelled levels) :
    placeholder.ReadBy (Placeholder.scan options levels) := by
  induction levels generalizing placeholder with
  | zero => exact False.elim spelled
  | succ levels induction =>
      exact Placeholder.SpelledAround.readBy filters constants
        (fun _ => induction) spelled

/-- A value in a tag is read from its text. -/
theorem Placeholder.Spelled.reads_scanValue {placeholder : Placeholder}
    {rest : List Char} (spelled : placeholder.Spelled maxDepth)
    (isValue : placeholder.isValue = true) :
    Reads (Placeholder.scanValue options) placeholder.raw.toList placeholder
      rest := by
  apply ((spelled.readBy filters constants).reads rest).bind_last
  exact (Scanner.reads_ensure isValue).bind_pure fun _ => placeholder

theorem Placeholder.Spelled.reads_scanPrint {placeholder : Placeholder}
    {rest : List Char} (spelled : placeholder.Spelled (maxDepth + 1))
    (isPrint : placeholder.isValue = false) :
    Reads (Placeholder.scanPrint options) placeholder.raw.toList placeholder
      rest := by
  have prints : (!placeholder.isValue) = true := by rw [isPrint]; rfl
  apply ((spelled.readBy filters constants).reads rest).bind_last
  exact (Scanner.reads_ensure prints).bind_pure fun _ => placeholder

end

/-- No placeholder starts with another character than a brace. -/
theorem Placeholder.scanValue_of_ne (options : Options) {text : List Char}
    (other : text.head? ≠ some '\x7b') :
    Placeholder.scanValue options text = .ok none := by
  have absent : List.isPrefixOf? ['\x7b'] text = none := by
    cases text with
    | nil => rfl
    | cons character text =>
        have different : '\x7b' ≠ character :=
          fun same => other (by rw [same]; rfl)
        exact Text.isPrefixOf?_cons_of_ne different _ _
  have scanned : Placeholder.scan options maxDepth text = .ok none := by
    rw [show maxDepth = 63 + 1 from rfl, Placeholder.scan,
      Placeholder.scanAround, Scanner.bind_apply, Scanner.withText,
      Scanner.bind_apply, Scanner.exactly, absent]
    rfl
  rw [Placeholder.scanValue, Scanner.bind_apply, scanned]

/-! ## Free text -/

def Part.toPiece : Part → Scanner.Piece Placeholder
  | .text content => .plain content.toList
  | .value placeholder => .construct placeholder

/-- How free text with values in it is written: its texts are not empty, hold no
brace, and are not next to each other. -/
def Part.SpelledAll (parts : List Part) (text : List Char) : Prop :=
  Scanner.Pieces (· == '\x7b')
    (fun placeholder text => placeholder.Spelled maxDepth ∧
      placeholder.isValue = true ∧ text = placeholder.raw.toList)
    (parts.map Part.toPiece) text

theorem Part.SpelledAll.split_eq {options : Options}
    (filters : options.filters = true) (constants : options.constants = true)
    {parts : List Part} {text : List Char}
    (spelled : Part.SpelledAll parts text) :
    Part.split options text = .ok parts := by
  have pieces : Scanner.split (Placeholder.scanValue options) text =
      .ok (parts.map Part.toPiece) := by
    apply Scanner.Pieces.split_eq _ _ spelled
    · intro character rest plain
      apply Placeholder.scanValue_of_ne
      rw [List.head?_cons, ne_eq, Option.some.injEq]
      exact ne_of_beq_false plain
    · rintro placeholder _ rest ⟨spelled, isValue, rfl⟩
      obtain ⟨text, brace⟩ := (spelled.readBy filters constants).brace
      refine ⟨?_, spelled.reads_scanValue filters constants isValue⟩
      rw [brace]
      exact List.cons_ne_nil _ _
  rw [Part.split, pieces, Except.map, List.map_map]
  congr 1
  refine (List.map_congr_left fun part _ => ?_).trans (List.map_id parts)
  cases part with
  | text content => exact congrArg Part.text String.ofList_toList
  | value placeholder => rfl

/-! ## Targets of assignments -/

/-- The target of an assignment is read from its text. -/
theorem Placeholder.reads_scanTarget {options : Options}
    (filters : options.filters = true) (constants : options.constants = true)
    {name : String} (isName : Text.isName name.toList = true)
    {subscripts : List Argument} {brackets : List Char}
    (spelled :
      Many '[' (Argument.SpelledSubscript (Placeholder.Spelled (maxDepth - 1)))
        subscripts brackets) :
    Reads (Placeholder.scanTarget options) (name.toList ++ brackets)
      (name, subscripts) [] := by
  have readBy :
      ∀ placeholder : Placeholder, placeholder.Spelled (maxDepth - 1) →
        placeholder.ReadBy (Placeholder.scan options (maxDepth - 1)) :=
    fun _ spelled => spelled.readBy filters constants
  have readName :=
    Scanner.reads_name isName (spelled.stops rfl Scanner.stops_nil)
  have readSubscripts :=
    Argument.reads_scanSubscripts readBy spelled Scanner.stops_nil
  rw [String.ofList_toList] at readName
  exact readName.bind (readSubscripts.bind_pure (Prod.mk name))

end TemplateEngine.Markup
