import TemplateEngine.Proofs.Markup.Unaffected
import TemplateEngine.Proofs.Template.Directives

/-!
# Feature switches

A program uses a feature just if one of the tokens of its source does.  So with
a feature switched off no program uses it, and a program that does not use the
feature is compiled from its source in either case.  Only the filters in the
text of what would be a condition, but for a further attribute, are still looked
at, and may then be nested too deeply.
-/

namespace TemplateEngine

open Markup (Token Tag Placeholder)

/-! ## What uses a feature -/

section

variable (feature : Feature)

def Reference.uses : Reference → Bool
  | .const _ => feature == .constants
  | _ => false

mutual

/-- Whether a feature is used in an expression, at any depth. -/
def Expr.uses : Expr → Bool
  | .access reference subscripts =>
    reference.uses feature || Argument.usesAny subscripts
  | .filter _ input arguments =>
    feature == .filters || (input.uses || Argument.usesAny arguments)

def Argument.uses : Argument → Bool
  | .int _ => false
  | .text _ => false
  | .expr inner => inner.uses

def Argument.usesAny : List Argument → Bool
  | [] => false
  | argument :: others => argument.uses || Argument.usesAny others

end

/-- The feature that an instruction belongs to. -/
def Instruction.feature? : Instruction → Option Feature
  | .branch _ _ | .elseBranch _ _ _ | .otherwise _ | .endBranch =>
    some .conditions
  | .inclusion _ _ _ => some .inclusion
  | .set _ _ _ => some .sets
  | .text _ | .print _ | .openBlock _ _ _ _ | .elseBlock _ _ _
  | .closeBlock _ _ => none

/-- Whether an instruction belongs to a feature, or uses it in an expression. -/
def Instruction.uses (instruction : Instruction) : Bool :=
  instruction.feature? == some feature ||
    instruction.exprs.any (Expr.uses feature)

/-- Whether a feature is used anywhere in a program. -/
def Program.uses (program : Program) : Bool :=
  program.instructions.any (Instruction.uses feature)

end

/-! ## Placeholders and directives -/

section

variable {feature : Feature}

theorem Scope.uses_reference (scope : Scope) (first : String)
    (rest : List String) :
    (scope.reference first rest).uses feature = false := by
  unfold reference
  split
  · rfl
  · split <;> rfl

theorem Argument.uses_ofBare (text : String) :
    (Argument.ofBare text).uses feature = false := by
  rcases Argument.ofBare_eq text with
    bare | ⟨number, -, bare⟩ <;> rw [bare] <;> rfl

namespace Markup

variable (scope : Scope)

mutual

/-- An expression uses a feature just if its placeholder does. -/
theorem Placeholder.uses_resolve (placeholder : Placeholder) :
    (placeholder.resolve Catalog.deferred scope).uses feature =
      placeholder.uses feature := by
  match placeholder with
  | ⟨raw, isValue, isConstant, first, rest, subscripts, filters⟩ =>
      rw [Placeholder.resolve, FilterCall.uses_applyAll filters, Expr.uses,
        Argument.usesAny_resolveAll subscripts, Placeholder.uses]
      have named : (if isConstant then Reference.const (constantName first)
          else scope.reference first rest).uses feature =
            (feature == .constants && isConstant) := by
        cases isConstant with
        | false => simpa using scope.uses_reference first rest
        | true => simp [Reference.uses]
      rw [named]
      grind

theorem Argument.uses_resolve (argument : Argument) :
    (Argument.resolve Catalog.deferred scope argument).uses feature =
      argument.uses feature := by
  match argument with
  | .bare text => exact Argument.uses_ofBare text
  | .quoted text => rfl
  | .value placeholder => exact Placeholder.uses_resolve placeholder

theorem Argument.usesAny_resolveAll (arguments : List Argument) :
    TemplateEngine.Argument.usesAny feature
        (Argument.resolveAll Catalog.deferred scope arguments) =
      Argument.usesAny feature arguments := by
  match arguments with
  | [] => rfl
  | argument :: others =>
      rw [Argument.resolveAll, TemplateEngine.Argument.usesAny,
        Argument.usesAny, Argument.uses_resolve argument,
        Argument.usesAny_resolveAll others]

theorem FilterCall.uses_applyAll (calls : List FilterCall) (input : Expr) :
    (FilterCall.applyAll Catalog.deferred scope input calls).uses feature =
      (input.uses feature || feature == .filters && !calls.isEmpty ||
        FilterCall.usesAny feature calls) := by
  match calls with
  | [] => simp [FilterCall.applyAll, FilterCall.usesAny]
  | ⟨name, arguments⟩ :: calls =>
      rw [FilterCall.applyAll, FilterCall.uses_applyAll calls,
        if_pos (show Catalog.deferred name = true from rfl), Expr.uses,
        Argument.usesAny_resolveAll arguments, FilterCall.usesAny]
      cases feature == .filters <;> simp [Bool.or_assoc]

end

end Markup

/-- A directive uses a feature just if its token does. -/
theorem Instruction.Realizes.uses_eq {instruction : Instruction} {token : Token}
    (realizes : instruction.Realizes Catalog.deferred token) :
    instruction.uses feature = token.uses feature := by
  obtain ⟨scope, same⟩ := realizes.exprs_eq
  have inside : instruction.exprs.any (Expr.uses feature) =
      token.placeholders.any (Placeholder.uses feature) := by
    rw [same, List.any_map]
    congr 1
    funext placeholder
    exact placeholder.uses_resolve scope
  rw [uses, inside]
  cases realizes with
  | print scope placeholder => simp [feature?, Token.placeholders, Token.uses]
  | openBlock scope opening raw id skip => cases opening <;> rfl
  | _ => rfl

/-- Whether there is a directive of a kind can be told from the tokens. -/
theorem Instruction.RealizeAll.any_eq {known : Catalog}
    {holds : Instruction → Bool} {other : Token → Bool}
    {code : List Instruction} {tokens : List Token}
    (realizes : RealizeAll known code tokens)
    (ofText :
      ∀ content, holds (.text content) = false ∧ other (.text content) = false)
    (same : ∀ instruction token,
      instruction.Realizes known token → holds instruction = other token) :
    code.any holds = tokens.any other := by
  have inCode : code.any holds = (code.filter isDirective).any holds := by
    rw [List.any_filter]
    congr 1
    funext instruction
    cases instruction <;> simp [isDirective, isText, ofText]
  have inTokens :
      tokens.any other = (tokens.filter Token.isDirective).any other := by
    rw [List.any_filter]
    congr 1
    funext token
    cases token <;> simp [Token.isDirective, ofText]
  rw [inCode, inTokens]
  rw [RealizeAll] at realizes
  generalize code.filter isDirective = directives,
    tokens.filter Token.isDirective = others at realizes ⊢
  induction realizes with
  | nil => rfl
  | cons first _ induction =>
      rw [List.any_cons, List.any_cons, same _ _ first, induction]

/-- A program uses a feature just if a token of its source does. -/
theorem Program.uses_of_compile {options : Options} {source : String}
    {compiled : Compiled}
    (compiles : compile options Catalog.deferred source = .ok compiled) :
    ∃ tokens,
      Markup.tokenize options
            (Markup.normalize options.tagNamespace source.toList) =
          .ok tokens ∧
        compiled.program.uses feature = tokens.any (Token.uses feature) := by
  obtain ⟨tokens, tokenized, -, realizes⟩ :=
    Program.realizeAll_of_compile compiles
  exact ⟨tokens, tokenized,
    realizes.any_eq (fun _ => ⟨rfl, rfl⟩)
      fun _ _ realizes => realizes.uses_eq⟩

/-! ## Compiled templates -/

/-- With a feature switched off no program uses it, and a program that does not
use it is the one that is compiled with it switched off.  The one exception is
an attribute that a condition does not expect, on a tag whose text holds
filters: the text is then looked at before the attribute, and without filters it
may hold values that are nested too deeply. -/
theorem compile_without (options : Options) (feature : Feature)
    (source : String) :
    (∀ compiled,
        compile (options.without feature) Catalog.deferred source =
            .ok compiled →
          compiled.program.uses feature = false) ∧
      ∀ compiled, compile options Catalog.deferred source = .ok compiled →
        compiled.program.uses feature = false →
        compile (options.without feature) Catalog.deferred source =
            .ok compiled ∨
          feature = .filters ∧
            ∃ near,
              compile (options.without feature) Catalog.deferred source =
                  .error ⟨.tooDeep, near⟩ ∧
                ∃ place,
                  place <:+
                      Markup.normalize options.tagNamespace source.toList ∧
                    Tag.Crowded (options.without feature) place near := by
  constructor
  · intro compiled compiles
    obtain ⟨tokens, tokenized, same⟩ := Program.uses_of_compile compiles
    have off : (options.without feature).has feature = false := by simp
    rw [same, List.any_eq_false]
    intro token member
    simp [Token.uses_eq_false_of_tokenize off tokenized token member]
  · intro compiled compiles unused
    obtain ⟨tokens, tokenized, same⟩ :=
      @Program.uses_of_compile feature _ _ _ compiles
    rw [same, List.any_eq_false] at unused
    rcases Markup.tokenize_without tokenized fun token member =>
      Bool.eq_false_iff.mpr (unused token member) with again |
        ⟨isFilters, near, failed, crowded⟩
    · left
      rw [compile, tokenized] at compiles
      rw [compile, Options.tagNamespace_without, again,
        Options.compactWhitespace_without]
      exact compiles
    · refine .inr ⟨isFilters, near, ?_, crowded⟩
      rw [compile, Options.tagNamespace_without, failed]

/-- A value with further values inside of each other, to a number of levels. -/
def nestedValue : Nat → List Char
  | 0 => "\x7b$A\x7d".toList
  | levels + 1 => "\x7b$A[".toList ++ nestedValue levels ++ "]\x7d".toList

/-- What would be a condition without its second attribute.  Its text is a value
with a filter, which has 65 nested values in a quoted argument. -/
def crowdedCondition : List Char :=
  "<if cond=\"\x7b$X|f:'".toList ++ nestedValue 64 ++ "'\x7d\" x=\"\">".toList

/-- A tag that is no condition stays what it is without conditions, but without
filters its text may be nested too deeply. -/
theorem compile_without_text :
    (∃ compiled,
        compile {} Catalog.deferred "<if on=\"1\">\x7bA|upper\x7d" =
            .ok compiled ∧
          compiled.program.uses .conditions = false ∧
          compile (Options.without {} .conditions) Catalog.deferred
              "<if on=\"1\">\x7bA|upper\x7d" =
            .ok compiled) ∧
      ∃ compiled,
        compile {} Catalog.deferred (String.ofList crowdedCondition) =
            .ok compiled ∧
          compiled.program.uses .filters = false ∧
          ∃ near,
            compile (Options.without {} .filters) Catalog.deferred
                (String.ofList crowdedCondition) =
              .error ⟨.tooDeep, near⟩ := by
  have found {source : String} {unwanted : Feature}
      (checked : (compile {} Catalog.deferred source).toOption.any
        (fun compiled => !compiled.program.uses unwanted) = true) :
      ∃ compiled, compile {} Catalog.deferred source = .ok compiled ∧
        compiled.program.uses unwanted = false := by
    cases compiles : compile {} Catalog.deferred source with
    | error error => simp [compiles, Except.toOption] at checked
    | ok compiled =>
        exact ⟨compiled, rfl,
          by simpa [compiles, Except.toOption] using checked⟩
  constructor
  · obtain ⟨compiled, compiles, unused⟩ :=
      @found "<if on=\"1\">\x7bA|upper\x7d" .conditions (by decide +kernel)
    refine ⟨compiled, compiles, unused, ?_⟩
    exact
      ((compile_without {} .conditions _).2 compiled compiles
        unused).resolve_right fun ⟨isFilters, _⟩ => nomatch isFilters
  · obtain ⟨compiled, compiles, unused⟩ :=
      @found (String.ofList crowdedCondition) .filters (by
      rw [compile, String.toList_ofList]
      decide +kernel)
    have fails : (compile (Options.without {} .filters) Catalog.deferred
        (String.ofList crowdedCondition)).isOk = false := by
      rw [compile, String.toList_ofList]
      decide +kernel
    refine ⟨compiled, compiles, unused, ?_⟩
    rcases (compile_without {} .filters _).2 compiled compiles unused with
      again | ⟨-, near, failed, -⟩
    · rw [again] at fails
      cases fails
    · exact ⟨near, failed⟩

end

end TemplateEngine
