import TemplateEngine.Proofs.Markup.Found
import TemplateEngine.Proofs.Markup.Origins

/-!
# Features that are switched off

Filters and constants are features of placeholders; inclusions, conditions and
assignments are tags.  With a feature switched off no token of a source uses it,
neither by itself nor in a placeholder at any depth.
-/

namespace TemplateEngine

/-- What can be switched off in the language. -/
inductive Feature
  | filters
  | inclusion
  | conditions
  | constants
  | sets
  deriving DecidableEq

namespace Options

/-- Whether a feature is switched on. -/
def has (options : Options) : Feature → Bool
  | .filters => options.filters
  | .inclusion => options.inclusion
  | .conditions => options.conditions
  | .constants => options.constants
  | .sets => options.sets

/-- The same options with a feature switched off. -/
def without (options : Options) : Feature → Options
  | .filters => { options with filters := false }
  | .inclusion => { options with inclusion := false }
  | .conditions => { options with conditions := false }
  | .constants => { options with constants := false }
  | .sets => { options with sets := false }

variable (options : Options) (feature : Feature)

@[simp] theorem has_without (other : Feature) :
    (options.without feature).has other =
      (decide (other ≠ feature) && options.has other) := by
  cases feature <;> cases other <;> simp [has, without]

/-- Switching a feature off leaves the others as they are. -/
theorem has_without_cases (other : Feature) :
    (options.without feature).has other = options.has other ∨
      other = feature ∧ (options.without feature).has other = false := by
  rw [has_without]
  by_cases same : other = feature
  · exact .inr ⟨same, by simp [same]⟩
  · exact .inl (by simp [same])

@[simp] theorem tagNamespace_without :
    (options.without feature).tagNamespace = options.tagNamespace := by
  cases feature <;> rfl

@[simp] theorem compactWhitespace_without :
    (options.without feature).compactWhitespace =
      options.compactWhitespace := by
  cases feature <;> rfl

end Options

namespace Markup

open Scanner

/-! ## What uses a feature -/

section

variable (feature : Feature)

mutual

/-- Whether a feature is used in a placeholder, at any depth. -/
def Placeholder.uses : Placeholder → Bool
  | ⟨_, _, isConstant, _, _, subscripts, filters⟩ =>
    feature == .constants && isConstant ||
      feature == .filters && !filters.isEmpty ||
      (Argument.usesAny subscripts || FilterCall.usesAny filters)

def Argument.uses : Argument → Bool
  | .bare _ => false
  | .quoted _ => false
  | .value placeholder => placeholder.uses

def Argument.usesAny : List Argument → Bool
  | [] => false
  | argument :: others => argument.uses || Argument.usesAny others

/-- Whether a feature is used in the arguments of filters. -/
def FilterCall.usesAny : List FilterCall → Bool
  | [] => false
  | ⟨_, arguments⟩ :: calls =>
    Argument.usesAny arguments || FilterCall.usesAny calls

end

/-- The feature that a tag belongs to. -/
def Tag.feature? : Tag → Option Feature
  | .condition _ | .elseIf _ | .otherwise | .endCondition => some .conditions
  | .inclusion _ _ _ => some .inclusion
  | .set _ _ _ => some .sets
  | .foreach _ _ | .foreachElse | .endForeach | .block _ _ => none

/-- Whether a tag belongs to a feature, or uses it in a placeholder. -/
def Tag.uses (tag : Tag) : Bool :=
  tag.feature? == some feature ||
    tag.placeholders.any (Placeholder.uses feature)

/-- Whether a token uses a feature. -/
def Token.uses : Token → Bool
  | .text _ => false
  | .print placeholder => placeholder.uses feature
  | .tag found _ => found.uses feature

variable {feature}

theorem Argument.usesAny_eq (arguments : List Argument) :
    Argument.usesAny feature arguments =
      arguments.any (Argument.uses feature) := by
  induction arguments with
  | nil => rfl
  | cons argument others induction =>
      rw [Argument.usesAny, induction, List.any_cons]

theorem FilterCall.usesAny_eq (calls : List FilterCall) :
    FilterCall.usesAny feature calls =
      calls.any fun call => Argument.usesAny feature call.arguments := by
  induction calls with
  | nil => rfl
  | cons call calls induction =>
      obtain ⟨name, arguments⟩ := call
      rw [FilterCall.usesAny, induction, List.any_cons]

theorem Argument.usesAny_iff_placeholders {arguments : List Argument} :
    Argument.usesAny feature arguments = true ↔
      ∃ placeholder ∈ arguments.flatMap Argument.placeholders,
        placeholder.uses feature = true := by
  have alone (argument : Argument) :
      argument.uses feature = true ↔
        ∃ placeholder ∈ argument.placeholders,
          placeholder.uses feature = true := by
    cases argument <;> simp [Argument.uses, Argument.placeholders]
  simp only [Argument.usesAny_eq, List.any_eq_true, alone, List.mem_flatMap]
  grind

theorem Placeholder.uses_raw (placeholder : Placeholder) (raw : String) :
    Placeholder.uses feature { placeholder with raw } =
      placeholder.uses feature := by
  cases placeholder
  rw [uses, uses]

/-- A placeholder uses a feature by itself, or one directly inside of it
does. -/
theorem Placeholder.uses_iff {placeholder : Placeholder} :
    placeholder.uses feature = true ↔
      (feature = .constants ∧ placeholder.isConstant = true) ∨
      (feature = .filters ∧ placeholder.filters ≠ []) ∨
      ∃ inner ∈ placeholder.inner, inner.uses feature = true := by
  obtain ⟨raw, isValue, isConstant, first, rest, subscripts, filters⟩ :=
    placeholder
  have inSubscripts :
      Argument.usesAny feature subscripts = true ↔
        ∃ inner ∈ subscripts.flatMap Argument.placeholders,
          inner.uses feature = true :=
    Argument.usesAny_iff_placeholders
  have inFilters :
      FilterCall.usesAny feature filters = true ↔
        ∃ inner ∈ filters.flatMap fun call => call.arguments.flatMap
            Argument.placeholders,
          inner.uses feature = true := by
    simp only [FilterCall.usesAny_eq, List.any_eq_true,
      Argument.usesAny_iff_placeholders, List.mem_flatMap]
    grind
  simp only [Placeholder.uses, Placeholder.inner, Bool.or_eq_true,
    Bool.and_eq_true, beq_iff_eq, Bool.not_eq_true', List.isEmpty_eq_false_iff,
    inSubscripts, inFilters, List.mem_append]
  grind

end

/-! ## What is found without a feature -/

/-- Whatever tag is found, the feature that it belongs to is switched on. -/
theorem Tag.ReadFrom.has_feature {options : Options} {tag : Tag}
    {raw : List Char} (origin : tag.ReadFrom options raw) {feature : Feature}
    (belongs : tag.feature? = some feature) : options.has feature = true := by
  cases origin with
  | endForeach => cases belongs
  | endCondition _ on =>
      cases belongs
      exact on
  | opening _ madeOf =>
      cases madeOf with
      | foreach _ _ _ | foreachElse | block _ _ => cases belongs
      | condition on _ _ | elseIf on _ _ | otherwise on | inclusion _ _ on _ _
      | set _ on _ _ _ =>
          cases belongs
          exact on

section

variable {options : Options} {feature : Feature}
  (off : options.has feature = false)

include off

theorem Placeholder.finds_scan_without (levels : Nat) :
    (Placeholder.scan options levels).Finds fun placeholder =>
      placeholder.uses feature = false := by
  induction levels with
  | zero =>
      intro text placeholder rest found
      cases found
  | succ levels induction =>
      intro text placeholder rest found
      obtain ⟨constants, filters, inside⟩ :=
        Placeholder.finds_around induction options text placeholder rest found
      refine Bool.eq_false_iff.mpr fun uses => ?_
      rcases Placeholder.uses_iff.mp uses with
        ⟨rfl, isConstant⟩ | ⟨rfl, some⟩ | ⟨inner, member, used⟩
      · exact Bool.false_ne_true (off.symm.trans (constants isConstant))
      · exact Bool.false_ne_true (off.symm.trans (filters some))
      · exact Bool.false_ne_true ((inside inner member).symm.trans used)

/-- With a feature switched off no tag belongs to it or uses it. -/
theorem Tag.finds_scan_without :
    (Tag.scan options).Finds fun tag => tag.uses feature = false := by
  intro text tag rest found
  obtain ⟨_, -, origin⟩ := Tag.covers_scan text tag rest found
  have foreign : (tag.feature? == some feature) = false := by
    refine beq_eq_false_iff_ne.mpr fun belongs => ?_
    exact Bool.false_ne_true (off.symm.trans (origin.has_feature belongs))
  have inValues : (Placeholder.scanValue options).Finds fun placeholder =>
      placeholder.uses feature = false :=
    (Placeholder.finds_scan_without off _).bind fun _ has =>
      finds_bind fun _ => finds_pure has
  have inside : tag.Each fun placeholder => placeholder.uses feature = false :=
    Tag.finds_scan inValues (Placeholder.finds_scan_without off _) text tag rest
      found
  rw [Tag.uses, foreign, Bool.false_or, List.any_eq_false]
  exact fun placeholder member =>
    Bool.eq_false_iff.mp (inside placeholder member)

/-- With a feature switched off no token of a source uses it. -/
theorem Token.uses_eq_false_of_tokenize {source : List Char}
    {tokens : List Token} (tokenized : tokenize options source = .ok tokens) :
    ∀ token ∈ tokens, token.uses feature = false := by
  obtain ⟨pieces, splits, rfl⟩ := exists_pieces_of_tokenize tokenized
  have cut := Token.cutFrom_of_cutBy (Token.cutBy_of_split splits)
  clear tokenized splits
  generalize pieces.map Token.ofPiece = tokens at cut ⊢
  induction cut with
  | nil => exact List.forall_mem_nil _
  | cons _ isPiece _ induction =>
      refine List.forall_mem_cons.mpr ⟨?_, induction⟩
      cases isPiece with
      | verbatim _ => rfl
      | escape => rfl
      | print found =>
          exact Placeholder.finds_scan_without off _ _ _ _
            (Placeholder.scan_of_scanPrint found)
      | tag found => exact Tag.finds_scan_without off _ _ _ found

end

end Markup
end TemplateEngine
