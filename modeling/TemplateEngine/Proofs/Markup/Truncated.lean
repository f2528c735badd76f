import TemplateEngine.Markup.Token
import TemplateEngine.Proofs.Markup.Inclusions
import TemplateEngine.Proofs.Markup.Steady

/-!
# Markup that is cut off

Every placeholder and every tag ends with characters of its own: a brace, an
angle bracket, or the closing tag of an assignment.  So what is recognised in a
text is recognised in front of any further text, and cutting a text off brings
out no new markup.
-/

namespace TemplateEngine.Markup

open Scanner

/-! ## Placeholders -/

/-- Reads an argument that starts with a character. -/
def Argument.scanAt (nested : Scanner Placeholder) (stop : Char → Bool)
    (first : Char) : Scanner Argument :=
  if first = '\x7b' then do
    let placeholder ← nested
    ensure placeholder.isValue
    return .value placeholder
  else if first = '\'' ∨ first = '"' then do
    return .quoted (← Scanner.quoted)
  else do
    return .bare (← Scanner.bare stop)

theorem Argument.scan_cons (nested : Scanner Placeholder) (stop : Char → Bool)
    (first : Char) (rest : List Char) :
    Argument.scan nested stop (first :: rest) =
      Argument.scanAt nested stop first (first :: rest) := by
  rw [Argument.scan.eq_def, Argument.scanAt]
  split <;> simp_all

section

variable {nested : Scanner Placeholder} (steady : Steady true nested nested)

include steady

theorem Argument.steady_scan (stop : Char → Bool) :
    Steady false (Argument.scan nested stop) (Argument.scan nested stop) := by
  refine steady_of_head rfl (Argument.scan_cons nested stop) fun first => ?_
  rw [Argument.scanAt]
  split
  · exact steady.bind (fun placeholder => (steady_ensure _).map fun _ => _)
      (.inl rfl)
  · split
    · exact steady_quoted.map Argument.quoted
    · exact (steady_bare stop).map Argument.bare

theorem Placeholder.steady_scanSubscripts :
    Steady false (Placeholder.scanSubscripts nested)
      (Placeholder.scanSubscripts nested) := by
  apply steady_manyAfter
  refine (Argument.steady_scan steady _).bind (fun subscript => ?_)
    (.inr fun _ => .inl rfl)
  exact (steady_exactly [']']).map fun _ => subscript

theorem Placeholder.steady_scanFilters :
    Steady false (Placeholder.scanFilters nested)
      (Placeholder.scanFilters nested) := by
  apply steady_manyAfter
  refine steady_name.bind (fun name => ?_) (.inr fun _ => .inr ⟨rfl, _, rfl⟩)
  exact (steady_manyAfter (Argument.steady_scan steady _) ':').map
    (FilterCall.mk name)

theorem Placeholder.steady_scanAround (options : Options) :
    Steady true (Placeholder.scanAround options nested)
      (Placeholder.scanAround options nested) := by
  rw [Placeholder.scanAround]
  -- each part before the closing brace may be empty, but then the brace is
  -- missing
  refine (Steady.withText ?_).map _
  refine (steady_exactly _).bind (fun _ => ?_) (.inl rfl)
  refine (steady_takes '$').bind (fun isValue => ?_) (.inr fun _ => .inl rfl)
  generalize options.filters = chained
  refine steady_name.bind (fun first => ?_)
    (.inr fun _ => .inl (by cases chained <;> rfl))
  refine (steady_manyAfter steady_name '.').bind (fun rest => ?_)
    (.inr fun _ => .inl (by cases chained <;> rfl))
  refine (Placeholder.steady_scanSubscripts steady).bind (fun subscripts => ?_)
    (.inr fun _ => .inl (by cases chained <;> rfl))
  cases chained with
  | true =>
      refine (Placeholder.steady_scanFilters steady).bind (fun filters => ?_)
        (.inr fun _ => .inl rfl)
      exact (steady_exactly _).map fun _ => _
  | false =>
      refine (steady_pure []).bind (fun filters => ?_) (.inl rfl)
      exact (steady_exactly _).map fun _ => _

end

theorem Placeholder.steady_scan (options : Options) (levels : Nat) :
    Steady true (Placeholder.scan options levels)
      (Placeholder.scan options levels) := by
  induction levels with
  | zero => exact steady_fail .tooDeep
  | succ levels induction =>
      exact Placeholder.steady_scanAround induction options

theorem Placeholder.steady_scanPrint (options : Options) :
    Steady true (Placeholder.scanPrint options)
      (Placeholder.scanPrint options) :=
  (Placeholder.steady_scan options _).bind
    (fun placeholder => (steady_ensure _).map fun _ => placeholder) (.inl rfl)

/-! ## Heads of tags -/

/-- No name follows a text within which none starts. -/
theorem exactly_name_eq_none {β : Type} {expected text : List Char}
    {next : String → Scanner β}
    (nameless : ∀ part, part <:+ text → name part = .ok none) :
    (exactly expected >>= fun _ => name >>= next) text = .ok none := by
  rw [bind_apply]
  rcases scanned : exactly expected text with error | _ | ⟨value, rest⟩
  · cases scanned
  · rfl
  · have inside : rest <:+ text :=
      (@steady_exactly true expected).suffix scanned
    dsimp only
    rw [bind_apply, nameless rest inside]

section

variable {tagNamespace : List Char}

theorem Head.steady_scanAttributes {fuel more : Nat} (enough : fuel ≤ more) :
    Steady true (Head.scanAttributes tagNamespace fuel)
      (Head.scanAttributes tagNamespace more) := by
  induction fuel generalizing more with
  | zero => exact steady_nothing _
  | succ fuel induction =>
      cases more with
      | zero => exact absurd enough (Nat.not_succ_le_zero _)
      | succ more =>
          rw [Head.scanAttributes, Head.scanAttributes]
          have nameless :
              ∀ part, part <:+ ['/'] → Scanner.name part = .ok none := by
            intro part inside
            rcases List.suffix_cons_iff.mp inside with rfl | inside
            · rfl
            · rw [List.suffix_nil.mp inside]
              rfl
          have nameless_nil :
              ∀ part, part <:+ [] → Scanner.name part = .ok none :=
            fun part inside => nameless part (inside.trans List.nil_suffix)
          refine steady_skipBlanks.bind (fun spaced => ?_)
            (.inr fun spaced => .inl ?_)
          · refine steady_takes_or (steady_pure _)
              (steady_takes_or (steady_pure _) ?_ ?_) ?_
            · refine (steady_ensure _).bind (fun _ => ?_) (.inl rfl)
              refine (steady_exactly _).bind (fun _ => ?_) (.inl rfl)
              refine steady_name.bind (fun name => ?_) (.inr fun _ => .inl rfl)
              refine (steady_exactly _).bind (fun _ => ?_) (.inl rfl)
              refine (steady_takeUntil _).bind (fun value => ?_)
                (.inr fun _ => .inl rfl)
              refine (steady_exactly _).bind (fun _ => ?_) (.inl rfl)
              exact (induction (Nat.le_of_succ_le_succ enough)).bind
                (fun ⟨_, _⟩ => steady_pure _) (.inl rfl)
            · intro start inside apart
              rcases List.prefix_cons_iff.mp inside with rfl | ⟨_, rfl, nothing⟩
              · cases spaced with
                | false => rfl
                | true => exact exactly_name_eq_none nameless_nil
              · cases List.prefix_nil.mp nothing
                exact absurd rfl apart
            · intro start inside apart
              cases spaced with
              | false =>
                  rcases eq_of_cut_pair inside apart with rfl | rfl <;> rfl
              | true =>
                  rcases eq_of_cut_pair inside apart with rfl | rfl
                  · exact exactly_name_eq_none nameless_nil
                  · exact exactly_name_eq_none nameless
          · cases spaced with
            | false => rfl
            | true => exact exactly_name_eq_none nameless_nil

/-- Reads the attributes of a tag; no more of them are there than characters. -/
def Head.scanAllAttributes (tagNamespace : List Char) :
    Scanner (Attributes × Bool) :=
  fun text => Head.scanAttributes tagNamespace (text.length + 1) text

theorem Head.steady_scanAllAttributes :
    Steady true (Head.scanAllAttributes tagNamespace)
      (Head.scanAllAttributes tagNamespace) := by
  refine ⟨?_, ?_, ?_⟩
  · intro text value rest more found inside
    exact (Head.steady_scanAttributes (by simp)).found more found inside
  · intro text error more failed
    exact (Head.steady_scanAttributes (by simp)).failed more failed
  · intro text value rest found
    exact (Head.steady_scanAttributes (Nat.le_refl _)).suffix found

theorem Head.steady_scan :
    Steady true (Head.scan tagNamespace) (Head.scan tagNamespace) := by
  refine (steady_exactly _).bind (fun _ => ?_) (.inl rfl)
  refine (steady_exactly _).bind (fun _ => ?_) (.inl rfl)
  refine steady_name.bind (fun name => ?_) (.inr fun _ => .inl rfl)
  exact Head.steady_scanAllAttributes.bind (fun ⟨_, _⟩ => steady_pure _)
    (.inl rfl)

end

/-! ## Tags -/

section

variable {options : Options}

theorem Attributes.steady_require (names : List String)
    (attributes : Attributes) :
    Steady true (attributes.require names) (attributes.require names) :=
  (steady_some _).map fun _ => _

namespace Tag

theorem steady_complete {tag : Scanner (Tag × Attributes)}
    (steady : Steady true tag tag) :
    Steady true (complete tag) (complete tag) :=
  steady.bind (fun ⟨_, _⟩ => (steady_ensure _).map fun _ => _) (.inl rfl)

theorem steady_foreachOf (attributes : Attributes) :
    Steady true (foreachOf options attributes)
      (foreachOf options attributes) := by
  refine (attributes.steady_require _).bind (fun ⟨collection, attributes⟩ => ?_)
    (.inl rfl)
  refine (steady_within _ _).bind (fun collection => ?_) (.inl rfl)
  exact (steady_ensure _).map fun _ => _

theorem steady_blockOf (attributes : Attributes) :
    Steady true (blockOf attributes) (blockOf attributes) := by
  refine (attributes.steady_require _).bind (fun ⟨name, attributes⟩ => ?_)
    (.inl rfl)
  exact (steady_ensure _).map fun _ => _

theorem steady_conditionOf (attributes : Attributes) :
    Steady true (conditionOf options attributes)
      (conditionOf options attributes) := by
  refine (attributes.steady_require _).bind (fun ⟨text, attributes⟩ => ?_)
    (.inl rfl)
  refine (steady_ensure _).bind (fun _ => ?_) (.inl rfl)
  exact (steady_lift _).map fun _ => _

theorem steady_parameterOf (pair : List Char) :
    Steady true (parameterOf options pair) (parameterOf options pair) := by
  rw [parameterOf]
  generalize (Text.splitFirst? '=' pair).getD (pair, []) = parts
  obtain ⟨name, value⟩ := parts
  refine (steady_ensure _).bind (fun _ => ?_) (.inl rfl)
  refine Steady.map ?_ _
  obtain ⟨result, still⟩ :=
    exists_within_eq value (Placeholder.scanValue options)
  apply @steady_of_still _ _ _ (result.map fun found =>
    some ((found.map Part.value).getD (Part.text (String.ofList value))))
  intro text
  simp only [still]
  rcases result with error | _ | placeholder <;> rfl

theorem steady_parametersOf (pairs : List (List Char)) :
    Steady true (parametersOf options pairs) (parametersOf options pairs) := by
  induction pairs with
  | nil => exact steady_pure []
  | cons pair pairs induction =>
      exact (steady_parameterOf pair).bind (fun _ => induction.map fun _ => _)
        (.inl rfl)

theorem steady_pathOf (template : List Char) :
    Steady true (pathOf options template) (pathOf options template) :=
  (steady_some _).bind (fun ⟨_, _⟩ => (steady_parametersOf _).map fun _ => _)
    (.inl rfl)

theorem steady_destinationOf (template : List Char) :
    Steady true (destinationOf options template)
      (destinationOf options template) := by
  obtain ⟨result, still⟩ :=
    exists_within_eq template (Placeholder.scanValue options)
  rcases result with error | _ | placeholder
  · apply @steady_of_still _ _ _ (.error error)
    intro text
    rw [destinationOf, still]
    rfl
  · have byPath : destinationOf options template = pathOf options template := by
      funext text
      rw [destinationOf, still]
      rfl
    rw [byPath]
    exact steady_pathOf template
  · apply @steady_of_still _ _ _ (.ok (some (.dynamic placeholder)))
    intro text
    rw [destinationOf, still]
    rfl

theorem steady_inclusionOf (kind : InclusionKind) (attributes : Attributes) :
    Steady true (inclusionOf options kind attributes)
      (inclusionOf options kind attributes) := by
  refine (attributes.steady_require _).bind (fun ⟨template, attributes⟩ => ?_)
    (.inl rfl)
  refine (steady_some _).bind (fun once => ?_) (.inl rfl)
  exact (steady_destinationOf _).map fun _ => _

theorem steady_setOf (attributes : Attributes) :
    Steady true (setOf options attributes) (setOf options attributes) := by
  refine (attributes.steady_require _).bind (fun ⟨target, attributes⟩ => ?_)
    (.inl rfl)
  refine (steady_ensure _).bind (fun _ => ?_) (.inl rfl)
  refine (steady_within _ _).bind (fun ⟨name, subscripts⟩ => ?_) (.inl rfl)
  refine (steady_upTo '<' ('/' :: options.tagNamespace ++ "set>".toList)).bind
    (fun body => ?_) (.inl rfl)
  refine (steady_ensure _).bind (fun _ => ?_) (.inl rfl)
  exact (steady_lift _).map fun _ => _

theorem steady_elseIfOf (head : Head) :
    Steady true (ofHead.elseIfOf options head)
      (ofHead.elseIfOf options head) := by
  refine (steady_ensure _).bind (fun _ => steady_complete ?_) (.inl rfl)
  exact (steady_conditionOf _).bind (fun ⟨_, _⟩ => steady_pure _) (.inl rfl)

theorem steady_ofHead (head : Head) :
    Steady true (ofHead options head) (ofHead options head) := by
  unfold ofHead
  split
  · exact steady_complete (steady_foreachOf _)
  · exact steady_complete (steady_pure _)
  · exact steady_complete (steady_blockOf _)
  · refine (steady_ensure _).bind (fun _ => steady_complete ?_) (.inl rfl)
    exact (steady_conditionOf _).bind (fun ⟨_, _⟩ => steady_pure _) (.inl rfl)
  · exact steady_elseIfOf head
  · exact steady_elseIfOf head
  · exact (steady_ensure _).bind (fun _ => steady_complete (steady_pure _))
      (.inl rfl)
  · exact (steady_ensure _).bind
      (fun _ => steady_complete (steady_inclusionOf _ _)) (.inl rfl)
  · exact (steady_ensure _).bind
      (fun _ => steady_complete (steady_inclusionOf _ _)) (.inl rfl)
  · exact (steady_ensure _).bind (fun _ => steady_setOf _) (.inl rfl)
  · exact steady_nothing _

/-- Reads the name of a closing tag. -/
def scanClosingName (options : Options) : Scanner Tag := do
  if ← Scanner.takes "foreach>".toList then
    return endForeach
  else
    Scanner.ensure options.conditions
    Scanner.exactly "if>".toList
    return endCondition

theorem steady_scanClosingName :
    Steady true (scanClosingName options) (scanClosingName options) := by
  refine steady_takes_or (steady_pure _) ?_ ?_
  · refine (steady_ensure _).bind (fun _ => ?_) (.inl rfl)
    exact (steady_exactly _).map fun _ => _
  · intro start inside apart
    rcases List.prefix_cons_iff.mp inside with rfl | ⟨left, rfl, -⟩
    · cases options.conditions <;> rfl
    · cases options.conditions <;> rfl

theorem steady_scanClosing :
    Steady true (scanClosing options) (scanClosing options) :=
  (steady_exactly _).bind
    (fun _ =>
      (steady_exactly _).bind (fun _ => steady_scanClosingName) (.inl rfl))
    (.inl rfl)

/-- Reads a tag that does not start as a closing one. -/
def scanOpening (options : Options) : Scanner Tag := do
  let head ← Head.scan options.tagNamespace
  ofHead options head

theorem scan_eq (options : Options) (text : List Char) :
    scan options text =
      if ['<', '/'] <+: text then scanClosing options text
      else scanOpening options text := by
  rw [scan.eq_def]
  split
  next rest => exact (if_pos (List.prefix_append ['<', '/'] rest)).symm
  next other =>
    rw [if_neg]
    · rfl
    · rintro ⟨rest, rfl⟩
      exact other rest rfl

theorem steady_scanOpening :
    Steady true (scanOpening options) (scanOpening options) :=
  Head.steady_scan.bind steady_ofHead (.inl rfl)

theorem steady_scan : Steady true (scan options) (scan options) := by
  refine steady_of_starts (scan_eq options) (scan_eq options) steady_scanClosing
    steady_scanOpening ?_
  intro start inside apart
  rw [scanOpening]
  generalize options.tagNamespace = tagNamespace
  rcases eq_of_cut_pair inside apart with rfl | rfl
  · rfl
  · cases tagNamespace <;> rfl

end Tag

/-! ## Tokens -/

namespace Token

/-- Reads what starts with a character, if this is no escape. -/
def scanAt (options : Options) (first : Char) : Scanner Token :=
  if first = '\x7b' then do
    return .print (← Placeholder.scanPrint options)
  else if first = '<' then do
    let (found, raw) ← Scanner.withText (Tag.scan options)
    return .tag found (String.ofList raw)
  else Scanner.nothing

def scanUnescaped (options : Options) : Scanner Token
  | [] => .ok none
  | first :: rest => scanAt options first (first :: rest)

def scanEscape : Scanner Token := do
  Scanner.exactly ['\x7b', '\\']
  return .text "\x7b"

theorem scan_eq (options : Options) (source : List Char) :
    scan options source =
      if ['\x7b', '\\'] <+: source then scanEscape source
      else scanUnescaped options source := by
  rw [scan.eq_def]
  split
  next rest => exact (if_pos (List.prefix_append ['\x7b', '\\'] rest)).symm
  next rest other =>
    rw [if_neg]
    · rw [scanUnescaped, scanAt, if_pos rfl]
    · rintro ⟨text, same⟩
      cases same
      exact other text rfl
  next rest =>
    rw [if_neg]
    · rw [scanUnescaped, scanAt, if_neg (by decide), if_pos rfl]
    · rintro ⟨text, same⟩
      cases same
  next noEscape noBrace noTag =>
    rw [if_neg]
    · cases source with
      | nil => rfl
      | cons first rest =>
          have brace : first ≠ '\x7b' := fun same => noBrace rest (by rw [same])
          have angle : first ≠ '<' := fun same => noTag rest (by rw [same])
          rw [scanUnescaped, scanAt, if_neg brace, if_neg angle]
          rfl
    · rintro ⟨text, rfl⟩
      exact noEscape text rfl

theorem steady_scan : Steady true (scan options) (scan options) := by
  have unescaped :
      Steady true (scanUnescaped options) (scanUnescaped options) := by
    have start (first : Char) (rest : List Char) :
        scanUnescaped options (first :: rest) =
          scanAt options first (first :: rest) := rfl
    refine steady_of_head rfl start fun first => ?_
    rw [scanAt]
    split
    · exact (Placeholder.steady_scanPrint options).map Token.print
    · split
      · exact Tag.steady_scan.withText.bind (fun ⟨_, _⟩ => steady_pure _)
          (.inl rfl)
      · exact steady_nothing _
  refine steady_of_starts (scan_eq options) (scan_eq options)
    ((steady_exactly _).map fun _ => _) unescaped ?_
  intro start inside apart
  rcases eq_of_cut_pair inside apart with rfl | rfl <;> rfl

end Token

end

end TemplateEngine.Markup
