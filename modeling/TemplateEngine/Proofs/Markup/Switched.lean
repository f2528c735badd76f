import TemplateEngine.Proofs.Markup.Features
import TemplateEngine.Proofs.Markup.Followed

/-!
# Switching a feature off

A source that is read with a feature, and in which nothing of the feature is
found, is read in the same way without it.  A placeholder with filters is then
no placeholder, so what uses filters is lost; a constant is still found, as a
variable.  What was a placeholder with filters becomes free text in the text of
a tag, and there further placeholders may be found in it, nested too deeply for
a tag.
-/

namespace TemplateEngine

/-- Without filters what uses them is lost; without any other feature nothing
is. -/
def Feature.Loses (feature : Feature) (used : Bool) : Prop :=
  feature = .filters ∧ used = true

/-- Whether two values are the same, unless the first one uses a feature. -/
def SameUnless {α : Type} (used : Bool) (value other : α) : Prop :=
  value = other ∨ used = true

theorem SameUnless.refl {α : Type} {used : Bool} (value : α) :
    SameUnless used value value :=
  .inl rfl

theorem SameUnless.map {α β : Type} {used usedThen : Bool} {value other : α}
    (alike : SameUnless used value other) (change : α → β)
    (more : used = true → usedThen = true) :
    SameUnless usedThen (change value) (change other) := by
  rcases alike with rfl | isUsed
  · exact .refl _
  · exact .inr (more isUsed)

theorem SameUnless.mono {α : Type} {used usedThen : Bool} {value other : α}
    (alike : SameUnless used value other)
    (more : used = true → usedThen = true) : SameUnless usedThen value other :=
  alike.map id more

/-- What is built from two values is the same if both of them are. -/
theorem SameUnless.both {α β γ : Type} {used usedOther : Bool} {value other : α}
    {second otherSecond : β} (alike : SameUnless used value other)
    (alikeSecond : SameUnless usedOther second otherSecond)
    (build : α → β → γ) :
    SameUnless (used || usedOther) (build value second)
      (build other otherSecond) := by
  rcases alike with rfl | isUsed
  · exact alikeSecond.map (build value) fun isUsed => by simp [isUsed]
  · exact .inr (by simp [isUsed])

theorem SameUnless.of_forall₂ {α : Type} {uses : α → Bool}
    {values others : List α}
    (alike :
      List.Forall₂ (fun value other => SameUnless (uses value) value other)
        values others) :
    SameUnless (values.any uses) values others := by
  induction alike with
  | nil => exact .refl _
  | cons first _ induction => exact first.both induction List.cons

namespace Markup

open Scanner

/-- Whether a second scanner finds without a feature what a first one finds with
it. -/
def Scanner.Without {α : Type} (feature : Feature) (uses : α → Bool)
    (scanner other : Scanner α) : Prop :=
  scanner.FollowedBy (fun value => feature.Loses (uses value))
    (fun value found => SameUnless (uses value) value found) other

/-- Whether a second scanner for placeholders finds without a feature what a
first one finds with it, values as values. -/
def Placeholder.Without (feature : Feature)
    (scanner other : Scanner Placeholder) : Prop :=
  scanner.FollowedBy
    (fun placeholder => feature.Loses (placeholder.uses feature))
    (fun placeholder found => placeholder.isValue = found.isValue ∧
      SameUnless (placeholder.uses feature) placeholder found) other

section

variable {feature : Feature}

theorem Scanner.Without.reducedBy {α : Type} {uses : α → Bool}
    {scanner other : Scanner α} {deep : List Char → String → Prop}
    (without : scanner.Without feature uses other) :
    scanner.ReducedBy (fun value => uses value = true) deep other :=
  FollowedBy.reducedBy without (fun _ lost => lost.2) fun _ _ alike => alike

theorem Scanner.without_refl {α : Type} {uses : α → Bool}
    (scanner : Scanner α) : scanner.Without feature uses scanner :=
  followedBy_refl (fun _ => .refl _) scanner

theorem Scanner.Without.manyAfter {α : Type} {uses : α → Bool}
    {scanner other : Scanner α} (without : scanner.Without feature uses other)
    (lead : Char) :
    (manyAfter lead scanner).Without feature (fun values => values.any uses)
      (manyAfter lead other) := by
  refine (FollowedBy.manyAfter without lead).mono ?_ fun _ _ alike =>
    .of_forall₂ alike
  rintro values ⟨value, member, isFilters, used⟩
  exact ⟨isFilters, List.any_eq_true.mpr ⟨value, member, used⟩⟩

/-! ## Placeholders -/

section

variable {nested nestedOff : Scanner Placeholder}
  (without : Placeholder.Without feature nested nestedOff)

include without

theorem Argument.without_scan (stop : Char → Bool) :
    (Argument.scan nested stop).Without feature (Argument.uses feature)
      (Argument.scan nestedOff stop) := by
  intro text
  cases text with
  | nil => exact .nothing
  | cons first text =>
      have inside :
          (Argument.scanAt nested stop first).Without feature
            (Argument.uses feature) (Argument.scanAt nestedOff stop first) := by
        rw [Argument.scanAt, Argument.scanAt]
        split
        · refine FollowedBy.bind without (fun placeholder found both => ?_) ?_
          · obtain ⟨same, alike⟩ := both
            rw [same]
            exact FollowedBy.after _ fun _ text =>
              .kept text (alike.map Argument.value id)
          · exact fun placeholder lost => finds_bind fun _ => finds_pure lost
        · exact without_refl _
      rw [Argument.scan_cons, Argument.scan_cons]
      exact inside _

theorem Placeholder.without_scanSubscripts :
    (Placeholder.scanSubscripts nested).Without feature
      (Argument.usesAny feature) (Placeholder.scanSubscripts nestedOff) := by
  rw [show Argument.usesAny feature = fun arguments =>
      arguments.any (Argument.uses feature) from
    funext Argument.usesAny_eq]
  refine Without.manyAfter ?_ '['
  refine FollowedBy.bind (Argument.without_scan without _)
    (fun subscript found alike => ?_) ?_
  · exact FollowedBy.after _ fun _ text => .kept text alike
  · exact fun subscript lost => finds_bind fun _ => finds_pure lost

theorem Placeholder.without_scanFilters :
    (Placeholder.scanFilters nested).Without feature
      (FilterCall.usesAny feature) (Placeholder.scanFilters nestedOff) := by
  rw [show FilterCall.usesAny feature = fun calls =>
      calls.any fun call => Argument.usesAny feature call.arguments from
    funext FilterCall.usesAny_eq]
  refine Without.manyAfter ?_ '|'
  refine FollowedBy.after _ fun name => ?_
  have arguments :=
    (Argument.without_scan without Argument.endsFilterArgument).manyAfter ':'
  refine FollowedBy.map arguments (fun found others alike => ?_)
    fun found lost => ?_
  · exact alike.map (FilterCall.mk name) fun used =>
      (Argument.usesAny_eq found).trans used
  · exact ⟨lost.1, (Argument.usesAny_eq found).trans lost.2⟩

end

/-- A row of items after a character is empty only if the text does not go on
with the character. -/
theorem Scanner.manyAfter_cases {α : Type} (lead : Char) (item : Scanner α)
    (text : List Char) :
    manyAfter lead item text = .ok (some ([], text)) ∨
      (∃ rest, text = lead :: rest) ∧
        ∀ values rest, manyAfter lead item text = .ok (some (values, rest)) →
          values ≠ [] := by
  cases text with
  | nil => exact .inl rfl
  | cons character text =>
      rw [manyAfter, List.length_cons, manyAfterWithin]
      split
      next same =>
        refine .inr ⟨⟨text, by rw [same]⟩, fun values rest found => ?_⟩
        obtain ⟨first, _, -, found⟩ := bind_eq_some_iff.mp found
        obtain ⟨others, _, -, found⟩ := bind_eq_some_iff.mp found
        cases found
        exact List.cons_ne_nil first others
      next => exact .inl rfl

/-- Placeholders are the same if their parts are, unless one of them uses the
feature. -/
theorem Placeholder.sameUnless_of_parts {raw first : String}
    {isValue flag flagOff : Bool} {rest : List String}
    {subscripts subscriptsOff : List Argument}
    {filters filtersOff : List FilterCall}
    (flags : flagOff = flag ∨ feature = .constants ∧ flag = true)
    (inSubscripts :
      SameUnless (Argument.usesAny feature subscripts) subscripts subscriptsOff)
    (inFilters :
      SameUnless (FilterCall.usesAny feature filters) filters filtersOff) :
    SameUnless
      (Placeholder.uses feature
        ⟨raw, isValue, flag, first, rest, subscripts, filters⟩)
      (Placeholder.mk raw isValue flag first rest subscripts filters)
      (Placeholder.mk raw isValue flagOff first rest subscriptsOff
        filtersOff) := by
  rw [Placeholder.uses]
  rcases flags with rfl | ⟨rfl, rfl⟩
  · exact
      (inSubscripts.both inFilters
        (Placeholder.mk raw isValue flagOff first rest)).mono fun used => by
      simp [used]
  · exact .inr (by simp)

namespace Placeholder

/-- Reads the filters of a placeholder if they are switched on. -/
def scanEnabledFilters (options : Options) (nested : Scanner Placeholder) :
    Scanner (List FilterCall) :=
  if options.filters then scanFilters nested else pure []

/-- Reads the brace that closes a placeholder with some parts. -/
def scanClosing (options : Options) (isValue : Bool) (first : String)
    (rest : List String) (subscripts : List Argument)
    (filters : List FilterCall) : Scanner Placeholder := do
  exactly ['\x7d']
  return {
    raw := ""
    isValue
    isConstant := options.constants && rest.isEmpty && namesConstant first
    first, rest, subscripts, filters }

section

variable (options : Options) {nested nestedOff : Scanner Placeholder}
  (isValue : Bool) (first : String) (rest : List String)
  {subscripts subscriptsOff : List Argument}
  (inSubscripts :
    SameUnless (Argument.usesAny feature subscripts) subscripts subscriptsOff)

include inSubscripts

theorem without_scanClosing {filters filtersOff : List FilterCall}
    (inFilters :
      SameUnless (FilterCall.usesAny feature filters) filters filtersOff) :
    Placeholder.Without feature
      (scanClosing options isValue first rest subscripts filters) (scanClosing
      (options.without feature) isValue first rest subscriptsOff
      filtersOff) := by
  refine FollowedBy.after _ fun _ text => .kept text ⟨rfl, ?_⟩
  refine sameUnless_of_parts ?_ inSubscripts inFilters
  rcases options.has_without_cases feature .constants with same | ⟨rfl, off⟩
  · exact .inl
      (congrArg (fun flag => flag && rest.isEmpty && namesConstant first) same)
  · cases isConstant :
      options.constants && rest.isEmpty && namesConstant first with
    | false =>
        left
        rw [show (options.without .constants).constants = false from off,
          Bool.false_and, Bool.false_and]
    | true => exact .inr ⟨rfl, rfl⟩

/-- Without filters the text goes on with a bar where a brace is read. -/
theorem without_scanFilters_scanClosing
    (without : Placeholder.Without feature nested nestedOff) :
    Placeholder.Without feature
      (scanEnabledFilters options nested >>=
        scanClosing options isValue first rest subscripts) (scanEnabledFilters
        (options.without feature) nestedOff >>=
      scanClosing (options.without feature) isValue first rest
        subscriptsOff) := by
  have closed {filters filtersOff : List FilterCall} (inFilters :
    SameUnless (FilterCall.usesAny feature filters) filters filtersOff) :=
    without_scanClosing options isValue first rest inSubscripts inFilters
  have used {filters : List FilterCall}
      (isUsed : FilterCall.usesAny feature filters = true) :
      (scanClosing options isValue first rest subscripts filters).Finds
        fun placeholder => placeholder.uses feature = true :=
    finds_bind fun _ => finds_pure (by simp [Placeholder.uses, isUsed])
  rcases options.has_without_cases feature .filters with same | ⟨rfl, off⟩
  · have same : (options.without feature).filters = options.filters := same
    rw [scanEnabledFilters, scanEnabledFilters, same]
    cases options.filters with
    | true =>
        exact FollowedBy.bind (without_scanFilters without)
          (fun _ _ inFilters => closed inFilters)
          fun filters lost text found left scanned =>
            ⟨lost.1, used lost.2 _ _ _ scanned⟩
    | false =>
        exact FollowedBy.after (pure []) fun filters => closed (.refl filters)
  · have off : (options.without .filters).filters = false := off
    rw [scanEnabledFilters, scanEnabledFilters, off, if_neg Bool.false_ne_true]
    cases options.filters with
    | false =>
        exact FollowedBy.after (pure []) fun filters => closed (.refl filters)
    | true =>
        intro text
        rcases manyAfter_cases '|' _ text with none | ⟨⟨more, rfl⟩, some⟩
        · rw [if_pos rfl, bind_apply,
            show scanFilters nested text = _ from none]
          exact closed (.refl []) text
        · refine follows_nothing fun placeholder left found => ⟨rfl, ?_⟩
          obtain ⟨filters, between, scanned, found⟩ := bind_eq_some_iff.mp found
          obtain ⟨_, _, _, found⟩ := bind_eq_some_iff.mp found
          cases found
          exact uses_iff.mpr (.inr (.inl ⟨rfl, some filters between scanned⟩))

end

section

variable (options : Options)

theorem scanAround_eq (nested : Scanner Placeholder) :
    scanAround options nested = (do
      let (placeholder, raw) ← Scanner.withText do
        exactly ['\x7b']
        let isValue ← takes ['$']
        let first ← Scanner.name
        let rest ← manyAfter '.' Scanner.name
        let subscripts ← scanSubscripts nested
        let filters ← scanEnabledFilters options nested
        scanClosing options isValue first rest subscripts filters
      return { placeholder with raw := String.ofList raw }) := by
  rw [scanAround]
  unfold scanEnabledFilters
  cases options.filters <;> rfl

/-- Without a feature nothing is found that is no placeholder with it, and only
placeholders that use it are lost or changed. -/
theorem without_scanAround {nested nestedOff : Scanner Placeholder}
    (without : Placeholder.Without feature nested nestedOff) :
    Placeholder.Without feature (scanAround options nested)
      (scanAround (options.without feature) nestedOff) := by
  rw [scanAround_eq, scanAround_eq]
  refine FollowedBy.bind
    (FollowedBy.withText (?_ : Placeholder.Without feature _ _))
    (fun found changed both rest => .kept rest ⟨both.1.1, ?_⟩)
    fun found lost => finds_pure ⟨lost.1, (uses_raw _ _).trans lost.2⟩
  · refine FollowedBy.after _ fun _ => FollowedBy.after _ fun isValue => ?_
    refine FollowedBy.after _ fun first => FollowedBy.after _ fun rest => ?_
    refine FollowedBy.bind (without_scanSubscripts without)
      (fun _ _ inSubscripts =>
        without_scanFilters_scanClosing options isValue first rest inSubscripts
          without) ?_
    refine fun subscripts lost =>
      finds_bind fun filters => finds_bind fun _ => finds_pure ?_
    exact ⟨lost.1, by simp [Placeholder.uses, lost.2]⟩
  · obtain ⟨⟨-, alike⟩, text⟩ := both
    rw [text]
    rcases alike with unchanged | used
    · rw [unchanged]
      exact .refl _
    · exact .inr ((uses_raw _ _).trans used)

theorem without_scan (levels : Nat) :
    Placeholder.Without feature (scan options levels)
      (scan (options.without feature) levels) := by
  induction levels with
  | zero => exact fun text => .failed _ _
  | succ levels induction => exact without_scanAround options induction

/-- Whether a placeholder is a value does not depend on features. -/
theorem without_scanIf (levels : Nat) (wanted : Bool → Bool) :
    (do
      let placeholder ← scan options levels
      ensure (wanted placeholder.isValue)
      return placeholder :
        Scanner Placeholder).Without feature (uses feature) (do
      let placeholder ← scan (options.without feature) levels
      ensure (wanted placeholder.isValue)
      return placeholder) := by
  refine FollowedBy.bind (without_scan options _)
    (fun placeholder found both => ?_) ?_
  · obtain ⟨same, alike⟩ := both
    rw [same]
    exact FollowedBy.after _ fun _ text => .kept text alike
  · exact fun placeholder lost => finds_bind fun _ => finds_pure lost

theorem without_scanPrint :
    (scanPrint options).Without feature (uses feature)
      (scanPrint (options.without feature)) :=
  without_scanIf options (maxDepth + 1) not

theorem without_scanValue :
    (scanValue options).Without feature (uses feature)
      (scanValue (options.without feature)) :=
  without_scanIf options maxDepth id

theorem without_scanTarget :
    (scanTarget options).Without feature
      (fun found => Argument.usesAny feature found.2)
      (scanTarget (options.without feature)) := by
  refine FollowedBy.after _ fun name => ?_
  exact FollowedBy.map (without_scanSubscripts (without_scan options _))
    (fun _ _ alike => alike.map (Prod.mk name) id) fun _ lost => lost

end

end Placeholder

end

/-! ## Free text -/

section

variable {nested : Scanner Placeholder} (fails : nested.FailsByDepth)

include fails

theorem Argument.failsByDepth_scan (stop : Char → Bool) :
    (Argument.scan nested stop).FailsByDepth := by
  intro text error failed
  cases text with
  | nil => cases failed
  | cons first text =>
      have inside : (Argument.scanAt nested stop first).FailsByDepth := by
        rw [Argument.scanAt]
        split
        · exact fails.bind fun _ =>
            (failsByDepth_ensure _).bind fun _ => failsByDepth_pure _
        · split
          · exact failsByDepth_quoted.bind fun _ => failsByDepth_pure _
          · exact (failsByDepth_bare stop).bind fun _ => failsByDepth_pure _
      rw [Argument.scan_cons] at failed
      exact inside _ error failed

theorem Placeholder.failsByDepth_scanSubscripts :
    (Placeholder.scanSubscripts nested).FailsByDepth :=
  FailsByDepth.manyAfter ((Argument.failsByDepth_scan fails _).bind fun _ =>
    (failsByDepth_exactly _).bind fun _ => failsByDepth_pure _) '['

theorem Placeholder.failsByDepth_scanFilters :
    (Placeholder.scanFilters nested).FailsByDepth :=
  FailsByDepth.manyAfter (failsByDepth_name.bind fun _ =>
    ((Argument.failsByDepth_scan fails _).manyAfter ':').bind fun _ =>
      failsByDepth_pure _) '|'

theorem Placeholder.failsByDepth_scanAround (options : Options) :
    (Placeholder.scanAround options nested).FailsByDepth := by
  rw [Placeholder.scanAround_eq]
  refine (FailsByDepth.withText ?_).bind fun _ => failsByDepth_pure _
  refine (failsByDepth_exactly _).bind fun _ =>
    (failsByDepth_takes _).bind fun isValue => ?_
  refine failsByDepth_name.bind fun first =>
    (failsByDepth_name.manyAfter '.').bind fun rest => ?_
  refine (failsByDepth_scanSubscripts fails).bind fun subscripts =>
    FailsByDepth.bind ?_ fun _ =>
      (failsByDepth_exactly _).bind fun _ => failsByDepth_pure _
  rw [scanEnabledFilters]
  split
  · exact failsByDepth_scanFilters fails
  · exact failsByDepth_pure []

end

/-- Placeholders are found or not, unless they are nested too deeply. -/
theorem Placeholder.failsByDepth_scan (options : Options) (levels : Nat) :
    (Placeholder.scan options levels).FailsByDepth := by
  induction levels with
  | zero =>
      intro text error failed
      cases failed
      rfl
  | succ levels induction => exact failsByDepth_scanAround induction options

theorem Part.tooDeep_of_split {options : Options} {text : List Char}
    {error : SyntaxError} (failed : Part.split options text = .error error) :
    error.cause = .tooDeep := by
  have value : (Placeholder.scanValue options).FailsByDepth :=
    (Placeholder.failsByDepth_scan options _).bind fun _ =>
      (failsByDepth_ensure _).bind fun _ => failsByDepth_pure _
  rw [Part.split_eq] at failed
  rcases pieces : Scanner.split (Placeholder.scanValue options) text with
    other | found
  · rw [pieces] at failed
    cases failed
    exact value.of_split pieces
  · rw [pieces] at failed
    cases failed

section

variable {options : Options} {feature : Feature}

/-- Free text is split as before if its values do not use the feature.  If they
do, it is split in some way or, without filters, its values may be nested too
deeply. -/
theorem Part.split_without {text : List Char} {parts : List Part}
    (splits : Part.split options text = .ok parts) :
    Part.split (options.without feature) text = .ok parts ∨
      (parts.flatMap Part.placeholders).any (Placeholder.uses feature) = true ∧
        ((∃ others, Part.split (options.without feature) text = .ok others) ∨
          feature = .filters ∧
            ∃ near, Part.split (options.without feature) text =
              .error ⟨.tooDeep, near⟩) := by
  obtain ⟨pieces, found, rfl⟩ := Part.exists_pieces_of_split splits
  have without := @Placeholder.without_scanValue feature options
  by_cases used :
    ((pieces.map ofPiece).flatMap Part.placeholders).any
      (Placeholder.uses feature)
  · refine .inr ⟨used, ?_⟩
    by_cases isFilters : feature = .filters
    · rcases other : Part.split (options.without feature) text with
        ⟨cause, near⟩ | others
      · obtain rfl : cause = .tooDeep := Part.tooDeep_of_split other
        exact .inr ⟨isFilters, near, rfl⟩
      · exact .inl ⟨others, rfl⟩
    · obtain ⟨others, again⟩ :=
        without.exists_split (fun _ lost => isFilters lost.1) found
      exact .inl ⟨others.map ofPiece, by rw [Part.split_eq, again]; rfl⟩
  · left
    have reduced : (Placeholder.scanValue options).ReducedBy
        (fun placeholder => placeholder.uses feature = true) (fun _ _ => False)
        (Placeholder.scanValue (options.without feature)) := without.reducedBy
    have steady :
        Steady true (Placeholder.scanValue options)
          (Placeholder.scanValue options) :=
      (Placeholder.steady_scan options _).bind
        (fun placeholder => (steady_ensure _).map fun _ => placeholder)
        (.inl rfl)
    have unused (placeholder : Placeholder)
        (member : .construct placeholder ∈ pieces) :
        ¬ placeholder.uses feature = true := by
      intro isUsed
      refine used (List.any_eq_true.mpr ⟨placeholder, ?_, isUsed⟩)
      exact List.mem_flatMap.mpr ⟨.value placeholder,
        List.mem_map_of_mem member, List.mem_singleton_self placeholder⟩
    rcases reduced.split steady.suffix found unused with
      again | ⟨_, _, _, _, ⟨⟩⟩
    rw [Part.split_eq, again]
    rfl

end

end Markup
end TemplateEngine
