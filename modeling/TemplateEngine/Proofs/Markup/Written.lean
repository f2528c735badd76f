import TemplateEngine.Proofs.Markup.Found
import TemplateEngine.Proofs.Markup.Placeholders

/-!
# Placeholders from their parts

A placeholder is written from its parts alone: bare arguments as they are,
quoted ones between single quotes with a backslash before each quote and
backslash, values as placeholders again.  If the parts can be told apart in this
text, scanning it gives the placeholder back, whatever follows it.  With too
many levels the scanner fails for good, at whatever level of the text it meets
the first placeholder that is nested too deeply.
-/

namespace TemplateEngine.Markup

namespace Scanner

/-! ## Failing for good -/

/-- Whether a scanner fails with a cause on a text. -/
def Fails {α : Type} (cause : SyntaxError.Cause) (scanner : Scanner α)
    (text : List Char) : Prop :=
  ∃ near, scanner text = .error ⟨cause, near⟩

section

variable {α β : Type} {cause : SyntaxError.Cause} {scanner : Scanner α}
  {next : α → Scanner β} {text rest : List Char} {value : α}

theorem Fails.bind (fails : Fails cause scanner text) :
    Fails cause (scanner >>= next) text := by
  obtain ⟨near, failed⟩ := fails
  exact ⟨near, by rw [bind_apply, failed]⟩

/-- What is read first does not keep a scanner from failing on the rest. -/
theorem Reads.fails_bind (first : Reads scanner text value rest)
    (fails : Fails cause (next value) rest) :
    Fails cause (scanner >>= next) (text ++ rest) := by
  obtain ⟨near, failed⟩ := fails
  refine ⟨near, ?_⟩
  rw [bind_apply, first]
  exact failed

theorem Fails.withText (fails : Fails cause scanner text) :
    Fails cause (withText scanner) text := by
  obtain ⟨near, failed⟩ := fails
  exact ⟨near, by rw [Scanner.withText, failed]⟩

/-- Reading a list fails if reading one of its items does, since those before it
are read. -/
theorem Many.fails_manyAfter {lead : Char} {item : α → List Char → Prop}
    {values : List α} (many : Many lead item values text)
    (ends : List Char → Prop) (good : α → Prop)
    (reads :
      ∀ value text after, item value text → ends after → good value →
        Reads scanner text value after)
    (fails :
      ∀ value text after, item value text → ends after → ¬ good value →
        Fails cause scanner (text ++ after))
    (goesOn : ∀ after, ends (lead :: after)) (ended : ends rest)
    (bad : ¬ ∀ value ∈ values, good value) :
    Fails cause (manyAfter lead scanner) (text ++ rest) := by
  have within : ∀ fuel, values.length ≤ fuel →
      Fails cause (manyAfterWithin lead scanner fuel) (text ++ rest) := by
    induction many with
    | nil => exact absurd (List.forall_mem_nil _) bad
    | @cons value values text others spelled many induction =>
        intro fuel enough
        cases fuel with
        | zero => exact absurd enough (Nat.not_succ_le_zero _)
        | succ fuel =>
            have endsThere : ends (others ++ rest) := by
              cases many with
              | nil => exact ended
              | cons _ _ => exact goesOn _
            rw [Fails, List.cons_append, manyAfterWithin, if_pos rfl,
              List.append_assoc]
            by_cases first : good value
            · have later : ¬ ∀ value ∈ values, good value := fun others =>
                bad (List.forall_mem_cons.mpr ⟨first, others⟩)
              exact (reads value text _ spelled endsThere first).fails_bind
                (induction later fuel (Nat.le_of_succ_le_succ enough)).bind
            · exact (fails value text _ spelled endsThere first).bind
  apply within
  rw [List.length_append]
  exact Nat.le_trans many.length_le (Nat.le_add_right _ _)

/-- A list whose items are written one after the other behind the character. -/
theorem Many.flatMap {lead : Char} {item : α → List Char → Prop}
    {write : α → List Char} {values : List α}
    (each : ∀ value ∈ values, item value (write value)) :
    Many lead item values
      (values.flatMap fun value => lead :: write value) := by
  induction values with
  | nil => exact .nil
  | cons value values induction =>
      rw [List.forall_mem_cons] at each
      exact .cons each.1 (induction each.2)

end

/-- A content with a backslash before each single quote and backslash. -/
def escapeQuotes (content : List Char) : List Char :=
  content.flatMap fun character =>
    if character = '\'' ∨ character = '\\' then ['\\', character]
    else [character]

theorem quoted_escapeQuotes (content : List Char) :
    Quoted '\'' content (escapeQuotes content) := by
  induction content with
  | nil => exact .nil
  | cons character content induction =>
      rw [escapeQuotes, List.flatMap_cons]
      by_cases special : character = '\'' ∨ character = '\\'
      · rw [if_pos special]
        exact .escaped special induction
      · rw [if_neg special]
        rw [not_or] at special
        exact .plain special.1 special.2 induction

end Scanner

open Scanner (Reads Stops Many Fails stops_cons)

/-! ## The text of a placeholder -/

mutual

/-- A placeholder as its parts are written. -/
def Placeholder.written : Placeholder → List Char
  | ⟨_, isValue, _, first, rest, subscripts, filters⟩ =>
    '\x7b' :: ((if isValue then ['$'] else []) ++ (first.toList ++
      ((rest.flatMap fun name => '.' :: name.toList) ++
        (Argument.writtenSubscripts subscripts ++
          (FilterCall.writtenAll filters ++ ['\x7d'])))))

def Argument.written : Argument → List Char
  | .bare text => text.toList
  | .quoted text => ['\''] ++ (Scanner.escapeQuotes text.toList ++ ['\''])
  | .value placeholder => placeholder.written

/-- Subscripts, each between brackets. -/
def Argument.writtenSubscripts : List Argument → List Char
  | [] => []
  | subscript :: others =>
    '[' :: (subscript.written ++ [']']) ++ Argument.writtenSubscripts others

/-- The arguments of a filter, each behind a colon. -/
def Argument.writtenArguments : List Argument → List Char
  | [] => []
  | argument :: others =>
    ':' :: argument.written ++ Argument.writtenArguments others

/-- Filters, each behind a bar. -/
def FilterCall.writtenAll : List FilterCall → List Char
  | [] => []
  | ⟨name, arguments⟩ :: calls =>
    '|' :: (name.toList ++ Argument.writtenArguments arguments) ++
      FilterCall.writtenAll calls

end

/-- Whether an argument can be told apart from what follows it, given which
placeholders may be nested in it and where it ends if it is bare. -/
inductive Argument.WellFormed (nested : Placeholder → Prop)
    (stop : Char → Bool) : Argument → Prop
  | bare {text : String} :
      text ≠ "" →
      (∀ character ∈ text.toList,
        (stop character || Text.isBlank character) = false) →
      text.toList.head? ≠ some '\'' → text.toList.head? ≠ some '"' →
      WellFormed nested stop (.bare text)
  | quoted (text : String) : WellFormed nested stop (.quoted text)
  | value {placeholder : Placeholder} :
      nested placeholder → placeholder.isValue = true →
      WellFormed nested stop (.value placeholder)

/-- Whether a filter is called by a name, with arguments that can be told
apart. -/
inductive FilterCall.WellFormed (nested : Placeholder → Prop) :
    FilterCall → Prop
  | intro {name : String} {arguments : List Argument} :
      Text.isName name.toList = true →
      (∀ argument ∈ arguments,
        argument.WellFormed nested Argument.endsFilterArgument) →
      WellFormed nested ⟨name, arguments⟩

/-- Whether a placeholder consists of names and of arguments that can be told
apart, keeps the text that is written from them, and is a constant if its name
says so. -/
inductive Placeholder.WellFormed : Placeholder → Prop
  | intro {placeholder : Placeholder} :
      placeholder.raw = String.ofList placeholder.written →
      placeholder.isConstant =
        (placeholder.rest.isEmpty &&
          Placeholder.namesConstant placeholder.first) →
      Text.isName placeholder.first.toList = true →
      (∀ name ∈ placeholder.rest, Text.isName name.toList = true) →
      (∀ subscript ∈ placeholder.subscripts,
        Argument.WellFormed Placeholder.WellFormed Argument.endsSubscript
          subscript) →
      (∀ call ∈ placeholder.filters,
        FilterCall.WellFormed Placeholder.WellFormed call) →
      WellFormed placeholder

theorem Argument.writtenSubscripts_eq (subscripts : List Argument) :
    Argument.writtenSubscripts subscripts =
      subscripts.flatMap fun subscript =>
        '[' :: (subscript.written ++ [']']) := by
  induction subscripts with
  | nil => rfl
  | cons subscript others induction =>
      rw [Argument.writtenSubscripts, induction, List.flatMap_cons]

theorem Argument.writtenArguments_eq (arguments : List Argument) :
    Argument.writtenArguments arguments =
      arguments.flatMap fun argument => ':' :: argument.written := by
  induction arguments with
  | nil => rfl
  | cons argument others induction =>
      rw [Argument.writtenArguments, induction, List.flatMap_cons]

theorem FilterCall.writtenAll_eq (calls : List FilterCall) :
    FilterCall.writtenAll calls = calls.flatMap fun call =>
      '|' ::
        (call.name.toList ++ Argument.writtenArguments call.arguments) := by
  induction calls with
  | nil => rfl
  | cons call calls induction =>
      obtain ⟨name, arguments⟩ := call
      rw [FilterCall.writtenAll, induction, List.flatMap_cons]

theorem Placeholder.WellFormed.raw_eq {placeholder : Placeholder}
    (wellFormed : placeholder.WellFormed) :
    placeholder.raw.toList = placeholder.written := by
  cases wellFormed with
  | intro raw => rw [raw, String.toList_ofList]

theorem Name.many_written {names : List String}
    (areNames : ∀ name ∈ names, Text.isName name.toList = true) :
    Many '.' Name.Spelled names
      (names.flatMap fun name => '.' :: name.toList) :=
  Many.flatMap fun name member => ⟨rfl, areNames name member⟩

theorem Argument.stops_writtenSubscripts {stop : Char → Bool}
    (atBracket : stop '[' = true) {rest : List Char} (atRest : Stops stop rest)
    (subscripts : List Argument) :
    Stops stop (Argument.writtenSubscripts subscripts ++ rest) := by
  cases subscripts with
  | nil => exact atRest
  | cons _ _ => exact stops_cons atBracket _

theorem FilterCall.stops_writtenAll {stop : Char → Bool}
    (atBar : stop '|' = true) {rest : List Char} (atRest : Stops stop rest)
    (calls : List FilterCall) :
    Stops stop (FilterCall.writtenAll calls ++ rest) := by
  cases calls with
  | nil => exact atRest
  | cons call _ =>
      obtain ⟨_, _⟩ := call
      exact stops_cons atBar _

/-! ## Few levels -/

section

variable {nested : Placeholder → Prop} {levels : Nat}
  (values : ∀ placeholder : Placeholder,
    placeholder.WellFormed → placeholder.levels ≤ levels → nested placeholder)

include values

/-- The text of a well-formed argument is one of the ways to write it. -/
theorem Argument.WellFormed.spelled {stop : Char → Bool}
    (stops : stop '\x7b' = true) {argument : Argument}
    (wellFormed : argument.WellFormed Placeholder.WellFormed stop)
    (few : argument.levels ≤ levels) :
    argument.Spelled nested stop argument.written := by
  cases wellFormed with
  | @bare text some inside noQuote noDouble =>
      have spelled :
          (Argument.bare (String.ofList text.toList)).Spelled nested stop
            text.toList := by
        refine .bare (by simpa using some) inside fun mark member => ?_
        have noBrace : text.toList.head? ≠ Option.some '\x7b' := by
          intro head
          have outside := inside '\x7b' (List.mem_of_head? head)
          rw [stops] at outside
          cases outside
        simp only [List.mem_cons, List.not_mem_nil, or_false] at member
        rcases member with rfl | rfl | rfl
        · exact noBrace
        · exact noQuote
        · exact noDouble
      rw [String.ofList_toList] at spelled
      exact spelled
  | quoted text =>
      have spelled :
          (Argument.quoted (String.ofList text.toList)).Spelled nested stop
            (Argument.quoted text).written :=
        .quoted (.inl rfl) (Scanner.quoted_escapeQuotes text.toList)
      rw [String.ofList_toList] at spelled
      exact spelled
  | value wellFormed isValue =>
      rw [Argument.written, ← wellFormed.raw_eq]
      exact .value (values _ wellFormed few) isValue

theorem Argument.many_writtenSubscripts {subscripts : List Argument}
    (wellFormed : ∀ subscript ∈ subscripts,
      subscript.WellFormed Placeholder.WellFormed Argument.endsSubscript)
    (few : ∀ subscript ∈ subscripts, subscript.levels ≤ levels) :
    Many '[' (Argument.SpelledSubscript nested) subscripts
      (Argument.writtenSubscripts subscripts) := by
  rw [Argument.writtenSubscripts_eq]
  exact Many.flatMap fun subscript member =>
    ⟨_, (wellFormed subscript member).spelled values rfl (few subscript member),
      rfl⟩

theorem FilterCall.WellFormed.spelled {call : FilterCall}
    (wellFormed : call.WellFormed Placeholder.WellFormed)
    (few : Argument.levelsAll call.arguments ≤ levels) :
    call.Spelled nested
      (call.name.toList ++ Argument.writtenArguments call.arguments) := by
  cases wellFormed with
  | intro isName wellFormed =>
      refine ⟨isName, _, ?_, rfl⟩
      rw [Argument.writtenArguments_eq]
      exact Many.flatMap fun argument member =>
        (wellFormed argument member).spelled values rfl
          (Argument.levelsAll_le_iff.mp few argument member)

end

theorem Placeholder.levels_le_succ_iff {placeholder : Placeholder}
    {levels : Nat} :
    placeholder.levels ≤ levels + 1 ↔
      (∀ subscript ∈ placeholder.subscripts, subscript.levels ≤ levels) ∧
        ∀ call ∈ placeholder.filters,
          Argument.levelsAll call.arguments ≤ levels := by
  obtain ⟨_, _, _, _, _, subscripts, filters⟩ := placeholder
  rw [Placeholder.levels, Nat.add_comm, Nat.add_le_add_iff_right, Nat.max_le,
    Argument.levelsAll_le_iff, FilterCall.levelsAll_le_iff]

theorem Placeholder.levels_pos (placeholder : Placeholder) :
    0 < placeholder.levels := by
  obtain ⟨_, _, _, _, _, subscripts, filters⟩ := placeholder
  rw [Placeholder.levels]
  omega

/-- The text of a well-formed placeholder is one of the ways to write it. -/
theorem Placeholder.WellFormed.spelled {levels : Nat}
    {placeholder : Placeholder} (wellFormed : placeholder.WellFormed)
    (few : placeholder.levels ≤ levels) : placeholder.Spelled levels := by
  -- `WellFormed` is nested in lists, so the induction is on the levels that
  -- values inside use up.
  induction levels generalizing placeholder with
  | zero => exact absurd few (Nat.not_le_of_gt placeholder.levels_pos)
  | succ levels induction =>
      obtain ⟨fewSubscripts, fewArguments⟩ :=
        Placeholder.levels_le_succ_iff.mp few
      obtain ⟨raw, isValue, isConstant, first, rest, subscripts, filters⟩ :=
        placeholder
      cases wellFormed with
      | intro raw isConstant isName areNames inBrackets called =>
          rw [Placeholder.written] at raw
          dsimp only at raw isConstant
          subst raw isConstant
          have chain :
              Many '|' (FilterCall.Spelled (Placeholder.Spelled levels)) filters
                (FilterCall.writtenAll filters) := by
            rw [FilterCall.writtenAll_eq]
            exact Many.flatMap fun call member =>
              (called call member).spelled (fun _ => induction)
                (fewArguments call member)
          exact .intro isValue isName (Name.many_written areNames)
            (Argument.many_writtenSubscripts (fun _ => induction) inBrackets
              fewSubscripts) chain

/-! ## Too many levels -/

/-- Whether a scanner tells placeholders with few levels, which it reads, from
those with too many, on which it fails. -/
structure Placeholder.Bounded (scanner : Scanner Placeholder) (levels : Nat) :
    Prop where
  readBy : ∀ placeholder : Placeholder,
    placeholder.Spelled levels → placeholder.ReadBy scanner
  fails :
    ∀ placeholder : Placeholder, placeholder.WellFormed →
      levels < placeholder.levels →
      ∀ rest, Fails .tooDeep scanner (placeholder.written ++ rest)

section

variable {scanner : Scanner Placeholder} {levels : Nat}
  (bounded : Placeholder.Bounded scanner levels)

include bounded

theorem Argument.WellFormed.reads_scan {stop : Char → Bool}
    (stops : stop '\x7b' = true) {argument : Argument}
    (wellFormed : argument.WellFormed Placeholder.WellFormed stop)
    (few : argument.levels ≤ levels) {rest : List Char}
    (ended : Stops stop rest) :
    Reads (Argument.scan scanner stop) argument.written argument rest :=
  (wellFormed.spelled (fun _ => Placeholder.WellFormed.spelled) stops
    few).reads_scan bounded.readBy ended

/-- Only a value has levels, and it fails in place of the argument. -/
theorem Argument.WellFormed.fails_scan {stop : Char → Bool}
    {argument : Argument}
    (wellFormed : argument.WellFormed Placeholder.WellFormed stop)
    (many : ¬ argument.levels ≤ levels) (rest : List Char) :
    Fails .tooDeep (Argument.scan scanner stop) (argument.written ++ rest) := by
  rw [Nat.not_le] at many
  cases wellFormed with
  | bare => cases many
  | quoted => cases many
  | @value placeholder wellFormed =>
      have fails := bounded.fails placeholder wellFormed many rest
      obtain ⟨_, isValue, _, first, names, subscripts, filters⟩ := placeholder
      exact fails.bind

theorem Argument.fails_scanSubscripts {subscripts : List Argument}
    (wellFormed : ∀ subscript ∈ subscripts,
      subscript.WellFormed Placeholder.WellFormed Argument.endsSubscript)
    (many : ¬ ∀ subscript ∈ subscripts, subscript.levels ≤ levels)
    (rest : List Char) :
    Fails .tooDeep (Placeholder.scanSubscripts scanner)
      (Argument.writtenSubscripts subscripts ++ rest) := by
  have written : Many '[' (fun subscript text =>
      subscript.WellFormed Placeholder.WellFormed Argument.endsSubscript ∧
        text = subscript.written ++ [']']) subscripts
      (Argument.writtenSubscripts subscripts) := by
    rw [Argument.writtenSubscripts_eq]
    exact Many.flatMap fun subscript member =>
      ⟨wellFormed subscript member, rfl⟩
  apply written.fails_manyAfter (fun _ => True)
    (fun subscript => subscript.levels ≤ levels)
    _ _ (fun _ => trivial) trivial many
  · rintro subscript _ after ⟨wellFormed, rfl⟩ - few
    exact (wellFormed.reads_scan bounded rfl few (stops_cons rfl after)).bind
      ((Scanner.reads_exactly [']']).bind_pure fun _ => subscript)
  · rintro subscript _ after ⟨wellFormed, rfl⟩ - many
    rw [List.append_assoc]
    exact (wellFormed.fails_scan bounded many _).bind

theorem FilterCall.WellFormed.fails {call : FilterCall}
    (wellFormed : call.WellFormed Placeholder.WellFormed)
    (many : ¬ Argument.levelsAll call.arguments ≤ levels) {rest : List Char}
    (stops : Stops (fun c => c == '|' || c == '\x7d') rest) :
    Fails .tooDeep (do
      let name ← Scanner.name
      let arguments ← Scanner.manyAfter ':'
        (Argument.scan scanner Argument.endsFilterArgument)
      return (⟨name, arguments⟩ : FilterCall))
      (call.name.toList ++ Argument.writtenArguments call.arguments ++
        rest) := by
  cases wellFormed with
  | @intro name arguments isName wellFormed =>
      have ends : Stops Argument.endsFilterArgument rest :=
        stops.of_either rfl rfl
      have noName : Stops (fun c => !Text.isNamePart c) rest :=
        stops.of_either rfl rfl
      have written : Many ':' (fun argument text =>
          argument.WellFormed Placeholder.WellFormed
              Argument.endsFilterArgument ∧
            text =
              argument.written) arguments
                (Argument.writtenArguments arguments) := by
        rw [Argument.writtenArguments_eq]
        exact Many.flatMap fun argument member =>
          ⟨wellFormed argument member, rfl⟩
      rw [Argument.levelsAll_le_iff] at many
      have fails :
          Fails .tooDeep
            (Scanner.manyAfter ':'
              (Argument.scan scanner Argument.endsFilterArgument))
            (Argument.writtenArguments arguments ++ rest) := by
        apply written.fails_manyAfter (Stops Argument.endsFilterArgument)
          (fun argument => argument.levels ≤ levels) _ _ (stops_cons rfl) ends
          many
        · rintro argument _ after ⟨wellFormed, rfl⟩ stops few
          exact wellFormed.reads_scan bounded rfl few stops
        · rintro argument _ after ⟨wellFormed, rfl⟩ - many
          exact wellFormed.fails_scan bounded many after
      have readName := Scanner.reads_name isName (written.stops rfl noName)
      rw [List.append_assoc]
      exact readName.fails_bind fails.bind

theorem FilterCall.fails_scanFilters {calls : List FilterCall}
    (wellFormed : ∀ call ∈ calls, call.WellFormed Placeholder.WellFormed)
    (many : ¬ ∀ call ∈ calls, Argument.levelsAll call.arguments ≤ levels)
    {rest : List Char} (stops : Stops (· == '\x7d') rest) :
    Fails .tooDeep (Placeholder.scanFilters scanner)
      (FilterCall.writtenAll calls ++ rest) := by
  have written :
      Many '|'
        (fun call text => call.WellFormed Placeholder.WellFormed ∧
          text = call.name.toList ++ Argument.writtenArguments call.arguments)
        calls (FilterCall.writtenAll calls) := by
    rw [FilterCall.writtenAll_eq]
    exact Many.flatMap fun call member => ⟨wellFormed call member, rfl⟩
  apply written.fails_manyAfter (Stops fun c => c == '|' || c == '\x7d')
    (fun call => Argument.levelsAll call.arguments ≤ levels) _ _
    (stops_cons rfl) _ many
  · rintro call _ after ⟨wellFormed, rfl⟩ stops few
    exact
      (wellFormed.spelled (fun _ => Placeholder.WellFormed.spelled) few).reads
      bounded.readBy stops
  · rintro call _ after ⟨wellFormed, rfl⟩ stops many
    exact wellFormed.fails bounded many stops
  · exact stops.mono fun character brace => by rw [brace, Bool.or_true]

/-- The names in front are read; then the subscripts fail, or they are read and
the filters fail. -/
theorem Placeholder.WellFormed.fails_scanAround {options : Options}
    (filters : options.filters = true) {placeholder : Placeholder}
    (wellFormed : placeholder.WellFormed)
    (many : levels + 1 < placeholder.levels) (rest : List Char) :
    Fails .tooDeep (Placeholder.scanAround options scanner)
      (placeholder.written ++ rest) := by
  rw [← Nat.not_le, Placeholder.levels_le_succ_iff] at many
  obtain ⟨_, isValue, _, first, names, subscripts, calls⟩ := placeholder
  cases wellFormed with
  | intro _ _ isName areNames inBrackets called =>
      dsimp only at many isName areNames inBrackets called
      have atBrace : ∀ {stop : Char → Bool}, stop '\x7d' = true →
          Stops stop (['\x7d'] ++ rest) := fun stops => stops_cons stops rest
      have atChain :
          ∀ {stop : Char → Bool}, stop '|' = true → stop '\x7d' = true →
            Stops stop (FilterCall.writtenAll calls ++ (['\x7d'] ++ rest)) :=
        fun atBar stops =>
          FilterCall.stops_writtenAll atBar (atBrace stops) calls
      have atBrackets :
          ∀ {stop : Char → Bool}, stop '[' = true → stop '|' = true →
            stop '\x7d' = true →
            Stops stop (Argument.writtenSubscripts subscripts ++
              (FilterCall.writtenAll calls ++ (['\x7d'] ++ rest))) :=
        fun atBracket atBar stops =>
          Argument.stops_writtenSubscripts atBracket (atChain atBar stops)
            subscripts
      have readNames := Name.reads_manyAfter (Name.many_written areNames)
        (atBrackets rfl rfl rfl)
      have readFirst := Scanner.reads_name isName
        ((Name.many_written areNames).stops rfl (atBrackets rfl rfl rfl))
      rw [Placeholder.scanAround, filters, Placeholder.written]
      simp only [List.cons_append, List.append_assoc]
      -- Failing goes outwards through the text that is kept, then inwards past
      -- what is read.
      apply Fails.bind
      apply Fails.withText
      apply (Scanner.reads_exactly ['\x7b']).fails_bind
      apply (Placeholder.reads_sigil isValue isName).fails_bind
      apply readFirst.fails_bind
      apply readNames.fails_bind
      by_cases few : ∀ subscript ∈ subscripts, subscript.levels ≤ levels
      · have readSubscripts :=
          Argument.reads_scanSubscripts bounded.readBy
            (Argument.many_writtenSubscripts
              (fun _ => Placeholder.WellFormed.spelled) inBrackets few)
            (atChain rfl rfl)
        apply readSubscripts.fails_bind
        exact (FilterCall.fails_scanFilters bounded called
          (fun fewCalls => many ⟨few, fewCalls⟩) (atBrace rfl)).bind
      · exact (Argument.fails_scanSubscripts bounded inBrackets few _).bind

end

theorem Placeholder.bounded_scan {options : Options}
    (filters : options.filters = true) (constants : options.constants = true)
    (levels : Nat) :
    Placeholder.Bounded (Placeholder.scan options levels) levels := by
  refine ⟨fun _ spelled => spelled.readBy filters constants, ?_⟩
  induction levels with
  | zero => exact fun placeholder _ _ rest => ⟨_, rfl⟩
  | succ levels induction =>
      intro placeholder wellFormed many rest
      have bounded :
          Placeholder.Bounded (Placeholder.scan options levels) levels :=
        ⟨fun _ spelled => spelled.readBy filters constants, induction⟩
      exact wellFormed.fails_scanAround bounded filters many rest

/-- How deeply placeholders are nested in a placeholder. -/
def Placeholder.nesting (placeholder : Placeholder) : Nat :=
  placeholder.levels - 1

/-- A well-formed placeholder that starts at a depth is read from its parts, and
nothing after them, if with its nesting it is at most at the greatest depth.
Otherwise it is too deep. -/
theorem Placeholder.scan_written {options : Options}
    (filters : options.filters = true) (constants : options.constants = true)
    {placeholder : Placeholder} (wellFormed : placeholder.WellFormed)
    (depth : Nat) (rest : List Char) :
    (depth + placeholder.nesting ≤ maxDepth →
        Placeholder.scan options (maxDepth + 1 - depth)
            (placeholder.written ++ rest) =
          .ok (some (placeholder, rest))) ∧
      (maxDepth < depth + placeholder.nesting →
        ∃ near,
          Placeholder.scan options (maxDepth + 1 - depth)
              (placeholder.written ++ rest) =
            .error ⟨.tooDeep, near⟩) := by
  have positive := placeholder.levels_pos
  have bounded :=
    Placeholder.bounded_scan filters constants (maxDepth + 1 - depth)
  rw [Placeholder.nesting]
  constructor
  · intro within
    have spelled :=
      wellFormed.spelled
        (show placeholder.levels ≤ maxDepth + 1 - depth by omega)
    have read := (bounded.readBy placeholder spelled).reads rest
    rwa [wellFormed.raw_eq] at read
  · intro beyond
    exact bounded.fails placeholder wellFormed (by omega) rest

/-- A value in a subscript, with a brace and a quote inside of quotes. -/
def Placeholder.subscripted : Placeholder where
  raw := "\x7bA.b['it\\'s'][\x7b$B|cut:20:'\x7d'\x7d]|upper\x7d"
  isValue := false
  isConstant := false
  first := "A"
  rest := ["b"]
  subscripts := [.quoted "it's", .value {
    raw := "\x7b$B|cut:20:'\x7d'\x7d"
    isValue := true
    isConstant := false
    first := "B"
    rest := []
    subscripts := []
    filters := [⟨"cut", [.bare "20", .quoted "\x7d"]⟩] }]
  filters := [⟨"upper", []⟩]

theorem Placeholder.scan_written_subscripted :
    Placeholder.subscripted.WellFormed ∧
      Placeholder.scan {} (maxDepth + 1 - 63)
          (Placeholder.subscripted.written ++ [']', '\x7d']) =
        .ok (some (Placeholder.subscripted, [']', '\x7d'])) ∧
      ∃ near,
        Placeholder.scan {} (maxDepth + 1 - 64)
            (Placeholder.subscripted.written ++ [']', '\x7d']) =
          .error ⟨.tooDeep, near⟩ := by
  have wellFormed : Placeholder.subscripted.WellFormed := by
    refine .intro rfl rfl (by decide) (by decide) ?_ ?_
    · refine List.forall_mem_cons.mpr ⟨.quoted _,
        List.forall_mem_cons.mpr ⟨.value ?_ rfl, List.forall_mem_nil _⟩⟩
      refine .intro rfl rfl (by decide) (by decide) (List.forall_mem_nil _) ?_
      refine List.forall_mem_cons.mpr
        ⟨.intro (by decide) ?_, List.forall_mem_nil _⟩
      have visible :
          ∀ character ∈ "20".toList,
            (Argument.endsFilterArgument character || Text.isBlank character) =
              false := by
        simp [Argument.endsFilterArgument, Text.isBlank]
      exact List.forall_mem_cons.mpr ⟨.bare (by simp) visible (by simp)
          (by simp),
        List.forall_mem_cons.mpr ⟨.quoted _, List.forall_mem_nil _⟩⟩
    · exact List.forall_mem_cons.mpr
        ⟨.intro (by decide) (List.forall_mem_nil _), List.forall_mem_nil _⟩
  exact ⟨wellFormed,
    (Placeholder.scan_written rfl rfl wellFormed 63 _).1 (by decide),
    (Placeholder.scan_written rfl rfl wellFormed 64 _).2 (by decide)⟩

end TemplateEngine.Markup
