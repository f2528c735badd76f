import Mathlib.Data.List.TakeWhile
import TemplateEngine.Proofs.Markup.Normalized
import TemplateEngine.Proofs.Markup.Tokens

/-!
# Targets of inclusions

A literal path without braces is read without scanning for placeholders, and a
variable is scanned in one way.  So both are read alike whatever other features
of the language are switched on, in tags that stand by themselves as well as
between other text.
-/

namespace TemplateEngine.Markup

open Scanner (Reads Stops stops_cons)

/-! ## Paths without placeholders -/

/-- The name and the value of a parameter, which is empty without an equals
sign. -/
def Parameter.split (pair : List Char) : List Char × List Char :=
  (Text.splitFirst? '=' pair).getD (pair, [])

/-- A parameter of literal text. -/
def Parameter.plain (pair : List Char) : String × Part :=
  (String.ofList (split pair).1, .text (String.ofList (split pair).2))

/-- The parts of a query string that are not empty. -/
def Parameter.pairs (query : List Char) : List (List Char) :=
  (List.splitOn '&' query).filter fun pair => !pair.isEmpty

def Parameter.allNamed (pairs : List (List Char)) : Bool :=
  pairs.all fun pair => !(split pair).1.isEmpty

/-- A literal path whose parameters are literal text, if all of them are
named. -/
def Destination.plain? (template : List Char) : Option Destination :=
  match Tag.splitPath? template with
  | none => none
  | some (name, query) =>
    if Parameter.allNamed (Parameter.pairs query) then
      some (.path (String.ofList name)
        ((Parameter.pairs query).map Parameter.plain))
    else none

/-- A path ends at the first question mark, or with the text. -/
theorem Tag.splitPath?_eq_some {text path query : List Char}
    (splits : splitPath? text = some (path, query)) :
    '?' ∉ path ∧ (text = path ∧ query = [] ∨ text = path ++ '?' :: query) := by
  rw [splitPath?] at splits
  split at splits
  · cases splits
  · have whole := @List.takeWhile_append_dropWhile _ (fun character : Char =>
      !(character == '?' || character == '\x7b' || character == '\x7d' ||
        character == '"')) text
    have noMark : '?' ∉ text.takeWhile fun character =>
        !(character == '?' || character == '\x7b' || character == '\x7d' ||
          character == '"') := by
      intro inside
      have passes := List.mem_takeWhile_imp inside
      cases passes
    split at splits
    next ended =>
      cases splits
      rw [ended, List.append_nil] at whole
      exact ⟨noMark, .inl ⟨whole.symm, rfl⟩⟩
    next following =>
      split at splits
      · cases splits
      · cases splits
        rw [following] at whole
        exact ⟨noMark, .inr whole.symm⟩
    · cases splits

theorem Parameter.subset_split (pair : List Char) : (split pair).2 ⊆ pair := by
  by_cases inside : '=' ∈ pair
  · obtain ⟨name, value, rfl, apart⟩ := List.eq_append_cons_of_mem inside
    rw [split, Text.splitFirst?_append_cons value apart]
    exact List.subset_append_of_subset_right _ (List.subset_cons_self _ _)
  · rw [split, Text.splitFirst?_of_not_mem inside]
    exact List.nil_subset _

section

variable (options : Options) {text : List Char}

theorem Placeholder.within_scanValue_of_not_mem (noBrace : '\x7b' ∉ text) :
    Scanner.within text (Placeholder.scanValue options) = Scanner.nothing := by
  funext rest
  exact Scanner.within_of_none (Placeholder.scanValue_of_ne options fun head =>
    noBrace (List.mem_of_head? head))

theorem Tag.parameterOf_of_not_mem (noBrace : '\x7b' ∉ text) :
    parameterOf options text = (do
      Scanner.ensure !(Parameter.split text).1.isEmpty
      return Parameter.plain text) := by
  have absent := Placeholder.within_scanValue_of_not_mem options
    fun inside => noBrace (Parameter.subset_split text inside)
  funext rest
  rw [parameterOf, ← Parameter.split]
  simp only [absent]
  rfl

theorem Tag.parametersOf_of_not_mem {pairs : List (List Char)}
    (noBrace : ∀ pair ∈ pairs, '\x7b' ∉ pair) :
    parametersOf options pairs =
      if Parameter.allNamed pairs then pure (pairs.map Parameter.plain)
      else Scanner.nothing := by
  induction pairs with
  | nil => rfl
  | cons pair pairs induction =>
      rw [List.forall_mem_cons] at noBrace
      rw [parametersOf, parameterOf_of_not_mem options noBrace.1,
        induction noBrace.2, Parameter.allNamed, Parameter.allNamed,
        List.all_cons]
      funext rest
      cases named : !(Parameter.split pair).1.isEmpty with
      | false =>
          rw [Bool.false_and]
          rfl
      | true =>
          rw [Bool.true_and]
          split <;> rfl

/-- What is read from a text without braces does not depend on the features of
the language. -/
theorem Tag.destinationOf_of_not_mem (noBrace : '\x7b' ∉ text) :
    destinationOf options text = Scanner.some? (Destination.plain? text) := by
  have absent := Placeholder.within_scanValue_of_not_mem options noBrace
  funext rest
  rw [destinationOf, absent, Destination.plain?]
  dsimp only [Scanner.nothing]
  rcases splits : splitPath? text with _ | ⟨path, query⟩
  · rfl
  · have inside : ∀ pair ∈ Parameter.pairs query, '\x7b' ∉ pair := by
      intro pair member brace
      have inQuery :=
        Text.subset_of_mem_splitOn (List.mem_filter.mp member).1 brace
      rcases (splitPath?_eq_some splits).2 with ⟨-, rfl⟩ | rfl
      · cases inQuery
      · exact noBrace (List.mem_append_right _ (List.mem_cons_of_mem _ inQuery))
    have read :
        (parametersOf options (Parameter.pairs query) : Scanner _) = _ :=
      parametersOf_of_not_mem options inside
    rw [Scanner.bind_apply]
    dsimp only [Scanner.some?, Scanner.pure_apply]
    rw [← Parameter.pairs, Scanner.bind_apply, read]
    by_cases named : Parameter.allNamed (Parameter.pairs query) = true
    · rw [if_pos named, if_pos named]
      rfl
    · rw [if_neg named, if_neg named]
      rfl

variable {destination : Destination}

theorem Destination.plain?_of_accepted (noBrace : '\x7b' ∉ text)
    (accepted :
      Tag.destinationOf options text [] = .ok (some (destination, []))) :
    plain? text = some destination := by
  rw [Tag.destinationOf_of_not_mem options noBrace] at accepted
  cases found : plain? text with
  | none =>
      rw [found] at accepted
      cases accepted
  | some other =>
      rw [found] at accepted
      cases accepted
      rfl

theorem Destination.reads_plain (noBrace : '\x7b' ∉ text)
    (plain : plain? text = some destination) (rest : List Char) :
    Reads (Tag.destinationOf options text) [] destination rest := by
  rw [Tag.destinationOf_of_not_mem options noBrace, plain]
  exact Scanner.reads_some destination

end

/-! ## Variables -/

/-- The value of a variable. -/
def Placeholder.ofVariable (name : String) : Placeholder where
  raw := String.ofList (['\x7b'] ++ (['$'] ++ (name.toList ++ ['\x7d'])))
  isValue := true
  isConstant := false
  first := name
  rest := []
  subscripts := []
  filters := []

theorem Placeholder.not_mem_ofVariable {name : String}
    (isName : Text.isName name.toList = true) {character : Char}
    (other : Text.isNamePart character = false)
    (apart : character ∉ ['\x7b', '$', '\x7d']) :
    character ∉ (ofVariable name).raw.toList := by
  simp only [List.mem_cons, List.not_mem_nil, or_false, not_or] at apart
  simp [ofVariable, apart, Text.not_mem_of_isName isName other]

section

variable {options : Options} {name : String}
  (isName : Text.isName name.toList = true)
  (isVariable : (options.constants && Placeholder.namesConstant name) = false)

include isName isVariable

theorem Placeholder.reads_scanAround_ofVariable (nested : Scanner Placeholder)
    (rest : List Char) :
    Reads (Placeholder.scanAround options nested) (ofVariable name).raw.toList
      (ofVariable name) rest := by
  have atBrace {stop : Char → Bool} (stops : stop '\x7d' = true) :
      Stops stop (['\x7d'] ++ rest) :=
    stops_cons stops rest
  have readName := Scanner.reads_name isName (atBrace rfl)
  have readNames :
      Reads (Scanner.manyAfter '.' Scanner.name) [] [] (['\x7d'] ++ rest) :=
    Name.reads_manyAfter .nil (atBrace rfl)
  have noNested :
      ∀ placeholder, False → Placeholder.ReadBy nested placeholder :=
    fun _ never => never.elim
  have readSubscripts :
      Reads (Placeholder.scanSubscripts nested) [] [] (['\x7d'] ++ rest) :=
    Argument.reads_scanSubscripts noNested .nil (atBrace rfl)
  have readFilters :
      Reads (Placeholder.scanFilters nested) [] [] (['\x7d'] ++ rest) :=
    FilterCall.reads_scanFilters noNested .nil (atBrace rfl)
  have readNone :
      Reads (pure [] : Scanner (List FilterCall)) [] [] (['\x7d'] ++ rest) :=
    Scanner.reads_pure []
  have isAccess : (options.constants && ([] : List String).isEmpty &&
      Placeholder.namesConstant name) = false := by simpa using isVariable
  rw [String.ofList_toList] at readName
  rw [ofVariable, String.toList_ofList, Placeholder.scanAround, ← isAccess]
  apply Reads.withText_bind
  · apply (Scanner.reads_exactly ['\x7b']).bind
    apply (Scanner.reads_takes ['$']).bind
    apply readName.bind
    apply readNames.bind_nil
    apply readSubscripts.bind_nil
    cases options.filters with
    | true =>
        exact readFilters.bind_nil
          ((Scanner.reads_exactly ['\x7d']).bind_pure _)
    | false =>
        exact readNone.bind_nil ((Scanner.reads_exactly ['\x7d']).bind_pure _)
  · exact Scanner.reads_pure _

/-- A variable is read as a target, whatever features are switched on. -/
theorem Destination.reads_ofVariable (rest : List Char) :
    Reads (Tag.destinationOf options (Placeholder.ofVariable name).raw.toList)
      [] (.dynamic (.ofVariable name)) rest := by
  have read :
      Reads (Placeholder.scanValue options)
        (Placeholder.ofVariable name).raw.toList (.ofVariable name) [] := by
    apply
      (Placeholder.reads_scanAround_ofVariable isName isVariable _ []).bind_last
    exact (Scanner.reads_ensure rfl).bind_pure fun _ =>
      Placeholder.ofVariable name
  have found :
      Reads
        (Scanner.within (Placeholder.ofVariable name).raw.toList
          (Placeholder.scanValue options)) [] (Placeholder.ofVariable name)
        rest := read.within
  rw [Reads, List.nil_append] at found
  simp only [Reads, List.nil_append, Tag.destinationOf, found]

end

/-! ## Directives -/

/-- The head of an inclusion, which may say whether its template is included at
most once. -/
def Head.inclusion (kind : InclusionKind) (template : List Char)
    (once : Option Bool) : Head where
  name := kind.tagName
  attributes :=
    ("tpl", template) ::
      (once.map fun once =>
        ("once", (if once then "true".toList else "false".toList))).toList
  selfClosing := true

section

variable {options : Options} (isNamespace : IsNamespace options.tagNamespace)
  {template : List Char}

include isNamespace

/-- An inclusion is read if its target is. -/
theorem Head.reads_inclusion (includes : options.inclusion = true)
    (unquoted : '"' ∉ template) {destination : Destination}
    (reads :
      ∀ rest, Reads (Tag.destinationOf options template) [] destination rest)
    (kind : InclusionKind) (once : Option Bool) (rest : List Char) : 
    let written := (inclusion kind template once).written options.tagNamespace
    Reads (Token.scan options) written
      (.tag (.inclusion kind destination (once.getD false))
        (String.ofList written)) rest := by
  intro written
  have areNames : ∀ entry ∈ (inclusion kind template once).attributes,
      Text.isName entry.1.toList = true := by
    have isTpl : Text.isName "tpl".toList = true := by decide
    rw [inclusion, List.forall_mem_cons]
    refine ⟨isTpl, ?_⟩
    rcases once with _ | _ | _ <;> decide
  have areUnquoted :
      ∀ entry ∈ (inclusion kind template once).attributes, '"' ∉ entry.2 := by
    rw [inclusion, List.forall_mem_cons]
    refine ⟨unquoted, ?_⟩
    rcases once with _ | _ | _ <;> decide
  have spelled :
      (inclusion kind template once).Spelled options.tagNamespace written :=
    spelled_written kind.isName_tagName areNames areUnquoted
  have taken :
      Attributes.take ["tpl"] (inclusion kind template once).attributes =
        (some template, (inclusion kind template once).attributes.tail) :=
    Attributes.take_cons_of_mem (by simp)
  have readTag : Reads (Tag.ofHead options (inclusion kind template once)) []
      (.inclusion kind destination (once.getD false)) rest := by
    refine Tag.reads_ofHead_inclusion includes
      (Tag.reads_inclusionOf (reads rest) taken ?_)
    rcases once with _ | once
    · exact .inl ⟨rfl, rfl⟩
    · exact .inr (Attributes.take_cons_of_mem (by simp))
  have whole : Reads (Tag.scan options) (written ++ []) _ rest :=
    spelled.reads_scan isNamespace readTag
  rw [List.append_nil] at whole
  exact Tag.reads_token whole ⟨_, rfl⟩

/-- An inclusion without comments and tags in its target is normalized. -/
theorem Head.normalize_inclusion (noTag : '<' ∉ template)
    (noComment : ¬ ['/', '*'] <:+: template) (kind : InclusionKind)
    (once : Option Bool) : 
    let written := (inclusion kind template once).written options.tagNamespace
    normalize options.tagNamespace written = written := by
  intro written
  -- The target stands between a start and an end that are made of names and a
  -- few characters.
  let before :=
    options.tagNamespace ++
      (kind.tagName.toList ++
        ([' '] ++ (options.tagNamespace ++ ("tpl".toList ++ ['=', '"']))))
  let after := ['"'] ++ (Attributes.written options.tagNamespace
    (inclusion kind template once).attributes.tail ++ [' ', '/', '>'])
  have same : written = '<' :: (before ++ (template ++ after)) := by
    simp only [written, before, after, Head.written, Attributes.written,
      inclusion, if_true, List.append_assoc, List.tail_cons]
    rfl
  have inBefore {character : Char} (other : Text.isNamePart character = false)
      (apart : character ∉ [':', ' ', '=', '"']) : character ∉ before := by
    have inNamespace : character ∉ options.tagNamespace :=
      isNamespace.not_mem other fun colon =>
        apart (by rw [colon]; exact List.mem_cons_self)
    have inTag := Text.not_mem_of_isName kind.isName_tagName other
    have inName : character ∉ "tpl".toList :=
      Text.not_mem_of_isName (by decide) other
    simp only [List.mem_cons, List.not_mem_nil, or_false, not_or] at apart
    simp only [before, List.mem_append, List.mem_cons, List.not_mem_nil,
      or_false, not_or]
    exact ⟨inNamespace, inTag, apart.2.1, inNamespace, inName, apart.2.2⟩
  have inAfter {character : Char} (other : Text.isNamePart character = false)
      (apart : character ∉ [':', ' ', '=', '"', '/', '>']) :
      character ∉ after := by
    have inNamespace : character ∉ options.tagNamespace :=
      isNamespace.not_mem other fun colon =>
        apart (by rw [colon]; exact List.mem_cons_self)
    have inOnce : ∀ entry ∈ (inclusion kind template once).attributes.tail,
        character ∉ entry.1.toList ∧ character ∉ entry.2 := by
      rcases once with _ | _ | _
      · exact List.forall_mem_nil _
      · exact List.forall_mem_singleton.mpr ⟨Text.not_mem_of_isName (by decide)
            other, Text.not_mem_of_isName (by decide) other⟩
      · exact List.forall_mem_singleton.mpr ⟨Text.not_mem_of_isName (by decide)
            other, Text.not_mem_of_isName (by decide) other⟩
    simp only [List.mem_cons, List.not_mem_nil, or_false, not_or] at apart
    have inAttributes :=
      Attributes.not_mem_written inNamespace (by simp [apart]) inOnce
    simp only [after, List.mem_append, List.mem_cons, List.not_mem_nil,
      or_false, not_or]
    exact ⟨apart.2.2.2.1, inAttributes, apart.2.1, apart.2.2.2.2⟩
  have unmarked : '<' ∉ before ++ (template ++ after) := by
    intro inside
    rcases List.mem_append.mp inside with inside | inside
    · exact inBefore rfl (by decide) inside
    · rcases List.mem_append.mp inside with inside | inside
      · exact noTag inside
      · exact inAfter rfl (by decide) inside
  rw [same]
  apply normalize_of_absent
  · have inValue :=
      Text.not_infix_append_right (@inAfter '*' rfl (by decide)) noComment
    have foreign : Text.startsNone ['/', '*'] ('<' :: before) = true :=
      Text.startsNone_of_not_mem (List.not_mem_cons_of_ne_of_not_mem (by decide)
        (inBefore rfl (by decide)))
    exact Text.not_infix_append foreign inValue
  · apply Text.not_infix_cons unmarked
    intro starts
    simp only [before, List.append_assoc] at starts
    have follows := (List.prefix_append_right_inj _).mp starts
    cases kind with
    | optional => cases (List.cons_prefix_cons.mp follows).1
    | required => cases (List.cons_prefix_cons.mp follows).1
  · apply Text.not_infix_cons unmarked
    have opening :
        List.isPrefixOf? ['/'] (before ++ (template ++ after)) = none := by
      simp only [before, List.append_assoc]
      exact isNamespace.isPrefixOf?_eq_none kind.isName_tagName rfl []
    intro starts
    apply Text.isPrefixOf?_eq_none_iff.mp opening
    exact (List.prefix_append ['/'] _).trans starts

end

end TemplateEngine.Markup
