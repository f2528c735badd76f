import Mathlib.Data.List.Forall2
import TemplateEngine.Proofs.Markup.Cut
import TemplateEngine.Proofs.Markup.Targets

/-!
# Where the parts of a tag come from

Whatever is found in a tag was found in one of its attributes or in the text it
assigns, with the feature of the tag switched on.  A scanner that is put
together from others reads the texts of its parts one after the other, so each
form of a tag has one origin.
-/

namespace TemplateEngine.Markup

namespace Scanner

/-! ## What scanners have read -/

/-- Whether all that a scanner finds has some relation to the text that was read
for it. -/
def Covers {α : Type} (holds : α → List Char → Prop) (scanner : Scanner α) :
    Prop :=
  ∀ text value rest, scanner text = .ok (some (value, rest)) →
    ∃ raw, text = raw ++ rest ∧ holds value raw

section

variable {α β : Type} {between : α → List Char → Prop}
  {holds : β → List Char → Prop} {scanner : Scanner α}

theorem Covers.mono {other : α → List Char → Prop}
    (covers : scanner.Covers between)
    (weaker : ∀ value raw, between value raw → other value raw) :
    scanner.Covers other := by
  intro text value rest found
  obtain ⟨raw, same, has⟩ := covers text value rest found
  exact ⟨raw, same, weaker value raw has⟩

/-- The second of two scanners is to have the relation to what both have
read. -/
theorem Covers.bind {next : α → Scanner β} (first : scanner.Covers between)
    (second : ∀ value raw, between value raw →
      (next value).Covers fun found more => holds found (raw ++ more)) :
    (scanner >>= next).Covers holds := by
  intro text value rest found
  obtain ⟨middle, left, scanned, later⟩ := bind_eq_some_iff.mp found
  obtain ⟨raw, rfl, has⟩ := first text middle left scanned
  obtain ⟨more, rfl, has⟩ := second middle raw has left value rest later
  exact ⟨raw ++ more, (List.append_assoc _ _ _).symm, has⟩

theorem covers_pure {value : β} (has : holds value []) :
    (pure value : Scanner β).Covers holds := by
  intro text other rest found
  cases found
  exact ⟨[], rfl, has⟩

theorem covers_nothing : (nothing : Scanner β).Covers holds := by
  intro text value rest found
  cases found

theorem Steady.covers {closed : Bool} (steady : Steady closed scanner scanner) :
    scanner.Covers fun _ _ => True := by
  intro text value rest found
  obtain ⟨raw, rfl⟩ := steady.suffix found
  exact ⟨raw, rfl, trivial⟩

theorem covers_takes (expected : List Char) :
    (takes expected).Covers fun _ _ => True := by
  intro text value rest found
  rw [takes] at found
  split at found
  · cases found
    exact ⟨[], rfl, trivial⟩
  next dropped =>
    cases found
    exact ⟨expected, (List.append_eq_of_isPrefixOf?_eq_some dropped).symm,
      trivial⟩

theorem covers_exactly (expected : List Char) :
    (exactly expected).Covers fun _ raw => raw = expected :=
  fun _ _ _ found => ⟨expected, exactly_eq_some_iff.mp found, rfl⟩

theorem covers_takeUntil (stop : Char → Bool) :
    (takeUntil stop).Covers fun value raw => raw = value := by
  intro text value rest found
  cases found
  exact ⟨_, List.takeWhile_append_dropWhile.symm, rfl⟩

end

/-! ## What scanners give that read nothing -/

/-- Whether a scanner reads nothing, and all that it finds has a property. -/
def Gives {α : Type} (holds : α → Prop) (scanner : Scanner α) : Prop :=
  scanner.Covers fun value raw => raw = [] ∧ holds value

section

variable {α β : Type} {between : α → Prop} {scanner : Scanner α}

theorem Gives.covers {next : α → Scanner β} {holds : β → List Char → Prop}
    (first : scanner.Gives between)
    (second : ∀ value, between value → (next value).Covers holds) :
    (scanner >>= next).Covers holds := by
  refine Covers.bind first fun value raw found => ?_
  obtain ⟨rfl, has⟩ := found
  exact second value has

theorem Gives.bind {next : α → Scanner β} {holds : β → Prop}
    (first : scanner.Gives between)
    (second : ∀ value, between value → (next value).Gives holds) :
    (scanner >>= next).Gives holds :=
  first.covers second

theorem gives_pure {holds : β → Prop} {value : β} (has : holds value) :
    (pure value : Scanner β).Gives holds :=
  covers_pure ⟨rfl, has⟩

theorem gives_ensure (condition : Bool) :
    (ensure condition).Gives fun _ => condition = true := by
  cases condition with
  | false => exact covers_nothing
  | true => exact gives_pure rfl

theorem gives_some (expected : Option α) :
    (some? expected).Gives fun value => expected = some value := by
  cases expected with
  | none => exact covers_nothing
  | some value => exact gives_pure rfl

theorem gives_lift (result : Except SyntaxError α) :
    (lift result).Gives fun value => result = .ok value := by
  intro text value rest found
  cases result with
  | error error => cases found
  | ok value =>
      cases found
      exact ⟨[], rfl, rfl, rfl⟩

theorem gives_within (other : List Char) (scanner : Scanner α) :
    (within other scanner).Gives fun value =>
      scanner other = .ok (some (value, [])) := by
  intro text value rest found
  rw [within] at found
  split at found
  · cases found
  next scanned =>
    cases found
    exact ⟨[], rfl, rfl, scanned⟩
  · cases found

end

end Scanner

open Scanner

/-! ## Attributes -/

theorem Attributes.mem_of_take {names : List String} {attributes : Attributes}
    {value : List Char} (taken : (attributes.take names).1 = some value) :
    value ∈ attributes.map Prod.snd := by
  obtain ⟨entry, found, rfl⟩ := Option.map_eq_some_iff.mp taken
  exact List.mem_map.mpr ⟨entry, List.mem_of_find?_eq_some found, rfl⟩

theorem Attributes.gives_require (names : List String)
    (attributes : Attributes) :
    (attributes.require names).Gives fun found =>
      found.1 ∈ attributes.map Prod.snd :=
  (gives_some _).bind fun _ taken => gives_pure (mem_of_take taken)

/-- The values of attributes stand in the text of their tag. -/
theorem Head.covers_scanAttributes (tagNamespace : List Char) (fuel : Nat) :
    (scanAttributes tagNamespace fuel).Covers fun found raw =>
      ∀ value ∈ found.1.map Prod.snd, value <:+: raw := by
  induction fuel with
  | zero => exact covers_nothing
  | succ fuel induction =>
      rw [scanAttributes]
      refine steady_skipBlanks.covers.bind fun spaced blanks _ => ?_
      refine (covers_takes _).bind fun isClosed slash _ => ?_
      cases isClosed with
      | true => exact covers_pure (List.forall_mem_nil _)
      | false =>
          refine (covers_takes _).bind fun ends angle _ => ?_
          cases ends with
          | true => exact covers_pure (List.forall_mem_nil _)
          | false =>
              refine (gives_ensure _).covers fun _ _ => ?_
              refine (covers_exactly _).bind fun _ lead _ => ?_
              refine (@steady_name).covers.bind fun name written _ => ?_
              refine (covers_exactly _).bind fun _ opened _ => ?_
              refine (covers_takeUntil _).bind fun value inside same => ?_
              obtain rfl := same
              refine (covers_exactly _).bind fun _ closed _ => ?_
              refine induction.bind fun found later stand => ?_
              obtain ⟨others, selfClosing⟩ := found
              refine covers_pure ?_
              let before :=
                blanks ++ (slash ++ (angle ++ (lead ++ (written ++ opened))))
              have whole :
                  blanks ++
                      (slash ++
                        (angle ++
                          (lead ++
                            (written ++
                              (opened ++
                                (inside ++ (closed ++ (later ++ [])))))))) =
                    before ++ inside ++ (closed ++ later) := by
                simp [before]
              rw [whole]
              refine List.forall_mem_cons.mpr
                ⟨⟨before, _, rfl⟩, fun other member => ?_⟩
              refine (stand other member).trans (List.IsSuffix.isInfix ?_)
              rw [← List.append_assoc]
              exact List.suffix_append _ later

/-- The values of attributes stand in the text of their tag. -/
theorem Head.covers_scan (tagNamespace : List Char) :
    (scan tagNamespace).Covers fun head raw =>
      ∀ value ∈ head.attributes.map Prod.snd, value <:+: raw := by
  have attributes : (scanAllAttributes tagNamespace).Covers fun found raw =>
      ∀ value ∈ found.1.map Prod.snd, value <:+: raw :=
    fun text => covers_scanAttributes tagNamespace (text.length + 1) text
  refine (covers_exactly _).bind fun _ angle _ => ?_
  refine (covers_exactly _).bind fun _ lead _ => ?_
  refine (@steady_name).covers.bind fun name written _ => ?_
  refine attributes.bind fun found later stand => ?_
  obtain ⟨found, selfClosing⟩ := found
  refine covers_pure ?_
  intro value member
  refine (stand value member).trans (List.IsSuffix.isInfix ?_)
  rw [List.append_nil]
  exact
    ((List.suffix_append written later).trans (List.suffix_append lead _)).trans
    (List.suffix_append angle _)

/-! ## Forms of tags -/

/-- What the value of a parameter is: a literal text, or a placeholder that is
all of it. -/
inductive Parameter.ReadFrom (options : Options) (pair : List Char) :
    String × Part → Prop
  | text (name : String) :
      ReadFrom options pair (name, .text (String.ofList (split pair).2))
  | value (name : String) {placeholder : Placeholder} :
      Placeholder.scanValue options (split pair).2 =
        .ok (some (placeholder, [])) →
      ReadFrom options pair (name, .value placeholder)

/-- Where a destination was found. -/
inductive Destination.ReadFrom (options : Options) (template : List Char) :
    Destination → Prop
  | dynamic {placeholder : Placeholder} :
      Placeholder.scanValue options template = .ok (some (placeholder, [])) →
      ReadFrom options template (.dynamic placeholder)
  | path {name query : List Char} {parameters : List (String × Part)} :
      Tag.splitPath? template = some (name, query) →
      List.Forall₂ (Parameter.ReadFrom options) (Parameter.pairs query)
        parameters →
      ReadFrom options template (.path (String.ofList name) parameters)

namespace Tag

/-- Where the parts of a tag were found: in its attributes, or in the text after
them that still belongs to the tag. -/
inductive MadeOf (options : Options) (attributes : Attributes) :
    Tag → List Char → Prop
  | foreach {value : List Char} {collection : Placeholder}
      (rowAlias : Option String) :
      value ∈ attributes.map Prod.snd →
      Placeholder.scanValue options value = .ok (some (collection, [])) →
      MadeOf options attributes (.foreach collection rowAlias) []
  | foreachElse : MadeOf options attributes .foreachElse []
  | block (name : String) (parent : Option String) :
      MadeOf options attributes (.block name parent) []
  | condition {value : List Char} {parts : List Part} :
      options.conditions = true → value ∈ attributes.map Prod.snd →
      Part.split options value = .ok parts →
      MadeOf options attributes (.condition parts) []
  | elseIf {value : List Char} {parts : List Part} :
      options.conditions = true → value ∈ attributes.map Prod.snd →
      Part.split options value = .ok parts →
      MadeOf options attributes (.elseIf parts) []
  | otherwise :
      options.conditions = true → MadeOf options attributes .otherwise []
  | inclusion {template : List Char} {destination : Destination}
      (kind : InclusionKind) (once : Bool) :
      options.inclusion = true → template ∈ attributes.map Prod.snd →
      destination.ReadFrom options template →
      MadeOf options attributes (.inclusion kind destination once) []
  | set {target body : List Char} {name : String} {subscripts : List Argument}
      {parts : List Part} (closing : List Char) :
      options.sets = true → target ∈ attributes.map Prod.snd →
      Placeholder.scanTarget options target =
        .ok (some ((name, subscripts), [])) →
      Part.split options body = .ok parts →
      MadeOf options attributes (.set name subscripts parts) (body ++ closing)

/-- Where a tag was found: it closes something, or it has a head with
attributes. -/
inductive ReadFrom (options : Options) : Tag → List Char → Prop
  | endForeach (raw : List Char) : ReadFrom options .endForeach raw
  | endCondition (raw : List Char) :
      options.conditions = true → ReadFrom options .endCondition raw
  | opening {tag : Tag} {attributes : Attributes} {start body : List Char} :
      (∀ value ∈ attributes.map Prod.snd, value <:+: start) →
      tag.MadeOf options attributes body → ReadFrom options tag (start ++ body)

section

variable {options : Options}

theorem gives_complete {tag : Scanner (Tag × Attributes)} {holds : Tag → Prop}
    (gives : tag.Gives fun found => holds found.1) :
    (complete tag).Gives holds :=
  gives.bind fun _ has => (gives_ensure _).bind fun _ _ => gives_pure has

theorem gives_foreachOf (attributes : Attributes) :
    (foreachOf options attributes).Gives fun found =>
      found.1.MadeOf options attributes [] :=
  (attributes.gives_require _).bind fun _ member =>
    (gives_within _ _).bind fun _ scanned =>
      (gives_ensure _).bind fun _ _ => gives_pure (.foreach _ member scanned)

theorem gives_blockOf (attributes : Attributes) :
    (blockOf attributes).Gives fun found =>
      found.1.MadeOf options attributes [] :=
  (attributes.gives_require _).bind fun _ _ => (gives_ensure _).bind fun _ _ =>
    gives_pure (.block _ _)

theorem gives_conditionOf (attributes : Attributes) :
    (conditionOf options attributes).Gives fun found =>
      ∃ value ∈ attributes.map Prod.snd,
        Part.split options value = .ok found.1 :=
  (attributes.gives_require _).bind fun _ member =>
    (gives_ensure _).bind fun _ _ =>
      (gives_lift _).bind fun _ splits => gives_pure ⟨_, member, splits⟩

/-- Reads the value of a parameter: a placeholder that is all of it, or its
text. -/
def parameterValue (options : Options) (value : List Char) : Scanner Part :=
  fun text =>
    match within value (Placeholder.scanValue options) text with
    | .ok none => .ok (some (.text (String.ofList value), text))
    | .ok (some (placeholder, text)) => .ok (some (.value placeholder, text))
    | .error error => .error error

theorem gives_parameterOf (pair : List Char) :
    (parameterOf options pair).Gives (Parameter.ReadFrom options pair) := by
  have found :
      (parameterValue options (Parameter.split pair).2).Gives fun part =>
        ∀ name, Parameter.ReadFrom options pair (name, part) := by
    intro text part rest found
    rw [parameterValue] at found
    split at found
    · cases found
      exact ⟨[], rfl, rfl, .text⟩
    next scanned =>
      cases found
      obtain ⟨raw, same, nothing, scanned⟩ := gives_within _ _ _ _ _ scanned
      exact ⟨raw, same, nothing, fun name => .value name scanned⟩
    · cases found
  exact (gives_ensure _).bind fun _ _ =>
    found.bind fun _ has => gives_pure (has _)

theorem gives_parametersOf (pairs : List (List Char)) :
    (parametersOf options pairs).Gives
      (List.Forall₂ (Parameter.ReadFrom options) pairs) := by
  induction pairs with
  | nil => exact gives_pure .nil
  | cons pair pairs induction =>
      exact (gives_parameterOf pair).bind fun _ first =>
        induction.bind fun _ others => gives_pure (.cons first others)

theorem gives_destinationOf (template : List Char) :
    (destinationOf options template).Gives
      (Destination.ReadFrom options template) := by
  have path :
      (pathOf options template).Gives (Destination.ReadFrom options template) :=
    (gives_some _).bind fun _ splits =>
      (gives_parametersOf _).bind fun _ parameters =>
        gives_pure (.path splits parameters)
  intro text destination rest found
  rw [destinationOf] at found
  split at found
  · cases found
  next scanned =>
    cases found
    obtain ⟨raw, same, nothing, scanned⟩ := gives_within _ _ _ _ _ scanned
    exact ⟨raw, same, nothing, .dynamic scanned⟩
  · exact path text destination rest found

theorem gives_inclusionOf (includes : options.inclusion = true)
    (kind : InclusionKind) (attributes : Attributes) :
    (inclusionOf options kind attributes).Gives fun found =>
      found.1.MadeOf options attributes [] :=
  (attributes.gives_require _).bind fun _ member =>
    (gives_some _).bind fun _ _ =>
      (gives_destinationOf _).bind fun _ origin =>
        gives_pure (.inclusion kind _ includes member origin)

theorem covers_setOf (sets : options.sets = true) (attributes : Attributes) :
    (setOf options attributes).Covers (MadeOf options attributes) := by
  refine (attributes.gives_require _).covers fun found member => ?_
  obtain ⟨target, others⟩ := found
  refine (gives_ensure _).covers fun _ _ => ?_
  refine (gives_within _ _).covers fun found scanned => ?_
  obtain ⟨name, subscripts⟩ := found
  let closing := "</".toList ++ options.tagNamespace ++ "set>".toList
  have body : (upTo closing).Covers fun body raw => raw = body ++ closing := by
    intro text value rest found
    have same := eq_of_splitAround? (upTo_eq_some_iff.mp found)
    exact ⟨_, same.trans (List.append_assoc _ _ _).symm, rfl⟩
  refine body.bind fun body raw same => ?_
  obtain rfl := same
  refine (gives_ensure _).covers fun _ _ => ?_
  refine (gives_lift _).covers fun _ splits => covers_pure ?_
  rw [List.append_nil]
  exact .set closing sets member scanned splits

theorem covers_ofHead (head : Head) :
    (ofHead options head).Covers (MadeOf options head.attributes) := by
  have still {tag : Scanner Tag}
      (gives : tag.Gives fun tag => tag.MadeOf options head.attributes []) :
      tag.Covers (MadeOf options head.attributes) :=
    Covers.mono gives fun _ _ ⟨nothing, madeOf⟩ => nothing ▸ madeOf
  have elseIfs :
      (ofHead.elseIfOf options head).Covers (MadeOf options head.attributes) :=
    (gives_ensure _).covers fun _ conditions => still <| gives_complete <|
      (gives_conditionOf _).bind fun _ ⟨_, member, splits⟩ =>
        gives_pure (.elseIf conditions member splits)
  unfold ofHead
  split
  · exact still (gives_complete (gives_foreachOf _))
  · exact still (gives_complete (gives_pure .foreachElse))
  · exact still (gives_complete (gives_blockOf _))
  · exact (gives_ensure _).covers fun _ conditions => still <| gives_complete <|
      (gives_conditionOf _).bind fun _ ⟨_, member, splits⟩ =>
        gives_pure (.condition conditions member splits)
  · exact elseIfs
  · exact elseIfs
  · exact (gives_ensure _).covers fun _ conditions =>
      still (gives_complete (gives_pure (.otherwise conditions)))
  · exact (gives_ensure _).covers fun _ includes =>
      still (gives_complete (gives_inclusionOf includes _ _))
  · exact (gives_ensure _).covers fun _ includes =>
      still (gives_complete (gives_inclusionOf includes _ _))
  · exact (gives_ensure _).covers fun _ sets => covers_setOf sets _
  · exact covers_nothing

/-- Whatever tag is found, it closes something, or its parts come from its
attributes and from the text that it assigns. -/
theorem covers_scan : (scan options).Covers (ReadFrom options) := by
  have closing : (scanClosing options).Covers (ReadFrom options) := by
    refine (covers_exactly _).bind fun _ angle _ => ?_
    refine (covers_exactly _).bind fun _ lead _ => ?_
    refine (covers_takes _).bind fun isForeach written _ => ?_
    cases isForeach with
    | true => exact covers_pure (.endForeach _)
    | false =>
        refine (gives_ensure _).covers fun _ conditions => ?_
        exact (covers_exactly _).bind fun _ _ _ =>
          covers_pure (.endCondition _ conditions)
  have opening : (scanOpening options).Covers (ReadFrom options) :=
    (Head.covers_scan _).bind fun head start stand =>
      (covers_ofHead head).mono fun _ _ madeOf => .opening stand madeOf
  intro text tag rest found
  rw [scan_eq] at found
  split at found
  · exact closing text tag rest found
  · exact opening text tag rest found

end

end Tag

end TemplateEngine.Markup
