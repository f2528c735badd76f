import Mathlib
import TemplateEngine.Proofs.Markup.Ordered
import TemplateEngine.Proofs.Template.Directives
import TemplateEngine.Proofs.Template.Restricted

/-!
# Reported filters

Compiling with a catalog leaves out the filters that it does not know and
reports each call of one once: the placeholders of the source come in their
order, and in each of them first the calls in its subscripts, then those in the
arguments of all its filters, then its own from left to right.  A call in an
argument is reported even if the filter around it is left out.
-/

namespace TemplateEngine

namespace Markup

/-- A call of a filter, with the text of the placeholder that makes it. -/
structure Call where
  name : String
  raw : String

/-- The warning that a call is left out. -/
def Call.warning (call : Call) : Warning :=
  ⟨call.name, excerpt call.raw.toList⟩

mutual

/-- The calls in a placeholder: first those in its subscripts, then those in the
arguments of its filters, then its own. -/
def Placeholder.calls : Placeholder → List Call
  | ⟨raw, _, _, _, _, subscripts, filters⟩ =>
    Argument.callsAll subscripts ++ FilterCall.inner filters ++
      filters.map fun filter => ⟨filter.name, raw⟩

def Argument.calls : Argument → List Call
  | .bare _ => []
  | .quoted _ => []
  | .value placeholder => placeholder.calls

def Argument.callsAll : List Argument → List Call
  | [] => []
  | argument :: others => argument.calls ++ Argument.callsAll others

/-- The calls in the arguments of filters. -/
def FilterCall.inner : List FilterCall → List Call
  | [] => []
  | ⟨_, arguments⟩ :: filters =>
    Argument.callsAll arguments ++ FilterCall.inner filters

end

/-- The calls of a template, in the order of its placeholders. -/
def Token.callsAll (tokens : List Token) : List Call :=
  (tokens.flatMap Token.placeholders).flatMap Placeholder.calls

/-- The warnings about those calls whose filter a catalog does not know. -/
def Call.warnings (known : Catalog) (calls : List Call) : List Warning :=
  (calls.filter fun call => !known call.name).map Call.warning

end Markup

/-- The filters around an access, the innermost first. -/
def Expr.ownCalls : Expr → List String
  | .access _ _ => []
  | .filter name input _ => input.ownCalls ++ [name]

mutual

/-- The filters in the subscripts of an expression, then those in the arguments
of its filters. -/
def Expr.innerCalls : Expr → List String
  | .access _ subscripts => Argument.callsAll subscripts
  | .filter _ input arguments => input.innerCalls ++ Argument.callsAll arguments

def Argument.calls : Argument → List String
  | .int _ => []
  | .text _ => []
  | .expr inner => inner.innerCalls ++ inner.ownCalls

def Argument.callsAll : List Argument → List String
  | [] => []
  | argument :: others => argument.calls ++ Argument.callsAll others

end

/-- The filters that an expression calls, its own last. -/
def Expr.calls (expr : Expr) : List String :=
  expr.innerCalls ++ expr.ownCalls

/-! ## Warnings are calls -/

namespace Markup

section

variable (known : Catalog)

theorem Call.warnings_append (first second : List Call) :
    warnings known (first ++ second) =
      warnings known first ++ warnings known second := by
  rw [warnings, List.filter_append, List.map_append]
  rfl

theorem Call.warnings_flatMap {α : Type} (calls : α → List Call)
    (items : List α) :
    warnings known (items.flatMap calls) =
      items.flatMap fun item => warnings known (calls item) := by
  rw [warnings, List.filter_flatMap, List.map_flatMap]
  rfl

/-- The warnings about filters themselves. -/
theorem Call.warnings_own (raw : String) (filters : List FilterCall) :
    warnings known (filters.map fun filter => ⟨filter.name, raw⟩) =
      (filters.filter fun filter => !known filter.name).map fun filter =>
        ⟨filter.name, excerpt raw.toList⟩ := by
  rw [warnings, List.filter_map, List.map_map]
  rfl

mutual

/-- A placeholder is warned about once for each unknown call in it. -/
theorem Placeholder.warnings_eq (placeholder : Placeholder) :
    placeholder.warnings known = Call.warnings known placeholder.calls := by
  match placeholder with
  | ⟨raw, isValue, isConstant, first, rest, subscripts, filters⟩ =>
      rw [Placeholder.warnings, Placeholder.calls, Call.warnings_append,
        Call.warnings_append, Argument.allWarnings_eq subscripts,
        FilterCall.allWarnings_eq filters, Call.warnings_own]

theorem Argument.warnings_eq (argument : Argument) :
    argument.warnings known = Call.warnings known argument.calls := by
  match argument with
  | .bare _ | .quoted _ => rfl
  | .value placeholder => exact Placeholder.warnings_eq placeholder

theorem Argument.allWarnings_eq (arguments : List Argument) :
    Argument.allWarnings known arguments =
      Call.warnings known (Argument.callsAll arguments) := by
  match arguments with
  | [] => rfl
  | argument :: others =>
      rw [Argument.allWarnings, Argument.callsAll, Call.warnings_append,
        Argument.warnings_eq argument, Argument.allWarnings_eq others]

theorem FilterCall.allWarnings_eq (filters : List FilterCall) :
    FilterCall.allWarnings known filters =
      Call.warnings known (FilterCall.inner filters) := by
  match filters with
  | [] => rfl
  | ⟨name, arguments⟩ :: filters =>
      rw [FilterCall.allWarnings, FilterCall.inner, Call.warnings_append,
        Argument.allWarnings_eq arguments, FilterCall.allWarnings_eq filters]

end

theorem Part.warnings_eq (part : Part) :
    part.warnings known =
      part.placeholders.flatMap (Placeholder.warnings known) := by
  cases part with
  | text content => rfl
  | value placeholder => simp [Part.warnings, Part.placeholders]

theorem Argument.allWarnings_eq_flatMap (arguments : List Argument) :
    Argument.allWarnings known arguments =
      (arguments.flatMap Argument.placeholders).flatMap
        (Placeholder.warnings known) := by
  induction arguments with
  | nil => rfl
  | cons argument others induction =>
      rw [Argument.allWarnings, induction, List.flatMap_cons,
        List.flatMap_append]
      cases argument <;> simp [Argument.warnings, Argument.placeholders]

/-- The warnings about a token are those about its placeholders, in their
order. -/
theorem Token.warnings_eq (token : Token) :
    token.warnings known =
      token.placeholders.flatMap (Placeholder.warnings known) := by
  have ofParts (parts : List Part) :
      parts.flatMap (Part.warnings known) =
        (parts.flatMap Part.placeholders).flatMap
          (Placeholder.warnings known) := by
    rw [List.flatMap_assoc]
    exact congrArg (parts.flatMap ·) (funext fun part => part.warnings_eq known)
  cases token with
  | text content => rfl
  | print placeholder => simp [Token.warnings, Token.placeholders]
  | tag found raw =>
      cases found with
      | foreach collection rowAlias =>
          simp [Token.warnings, Tag.warnings, Token.placeholders,
            Tag.placeholders]
      | condition parts => exact ofParts parts
      | elseIf parts => exact ofParts parts
      | inclusion kind destination once =>
          cases destination with
          | path name query =>
              simp [Token.warnings, Tag.warnings, Token.placeholders,
                Tag.placeholders, Destination.warnings,
                Destination.placeholders, List.flatMap_assoc, Part.warnings_eq]
          | dynamic placeholder =>
              simp [Token.warnings, Tag.warnings, Token.placeholders,
                Tag.placeholders, Destination.warnings,
                Destination.placeholders]
      | set name subscripts body =>
          simp [Token.warnings, Tag.warnings, Token.placeholders,
            Tag.placeholders, Argument.allWarnings_eq_flatMap, ofParts]
      | _ => rfl

theorem Token.warnings_eq_callsAll (tokens : List Token) :
    tokens.flatMap (Token.warnings known) =
      Call.warnings known (Token.callsAll tokens) := by
  rw [Token.callsAll, Call.warnings_flatMap, List.flatMap_assoc]
  refine congrArg (tokens.flatMap ·) (funext fun token => ?_)
  rw [Token.warnings_eq]
  exact congrArg (token.placeholders.flatMap ·)
    (funext fun placeholder => placeholder.warnings_eq known)

end

/-! ## Calls in expressions -/

section

variable (scope : Scope)

theorem FilterCall.ownCalls_applyAll (filters : List FilterCall)
    (input : Expr) :
    (FilterCall.applyAll Catalog.deferred scope input filters).ownCalls =
      input.ownCalls ++ filters.map FilterCall.name := by
  induction filters generalizing input with
  | nil => exact (List.append_nil _).symm
  | cons filter filters induction =>
      obtain ⟨name, arguments⟩ := filter
      rw [FilterCall.applyAll,
        if_pos (show Catalog.deferred name = true from rfl), induction,
        Expr.ownCalls, List.append_assoc]
      rfl

mutual

/-- With all filters an expression calls those of its placeholder. -/
theorem Placeholder.calls_resolve (placeholder : Placeholder) :
    (placeholder.resolve Catalog.deferred scope).calls =
      placeholder.calls.map Call.name := by
  match placeholder with
  | ⟨raw, isValue, isConstant, first, rest, subscripts, filters⟩ =>
      rw [Placeholder.resolve, Expr.calls, FilterCall.ownCalls_applyAll,
        FilterCall.innerCalls_applyAll filters, Expr.innerCalls,
        Argument.callsAll_resolveAll subscripts, Expr.ownCalls,
        Placeholder.calls, List.map_append, List.map_append, List.map_map]
      rfl

theorem Argument.calls_resolve (argument : Argument) :
    (argument.resolve Catalog.deferred scope).calls =
      argument.calls.map Call.name := by
  match argument with
  | .bare text =>
      rw [Argument.resolve]
      rcases TemplateEngine.Argument.ofBare_eq text with
        same | ⟨number, -, same⟩ <;> rw [same] <;> rfl
  | .quoted text => rfl
  | .value placeholder => exact Placeholder.calls_resolve placeholder

theorem Argument.callsAll_resolveAll (arguments : List Argument) :
    TemplateEngine.Argument.callsAll
        (Argument.resolveAll Catalog.deferred scope arguments) =
      (Argument.callsAll arguments).map Call.name := by
  match arguments with
  | [] => rfl
  | argument :: others =>
      rw [Argument.resolveAll, TemplateEngine.Argument.callsAll,
        Argument.calls_resolve argument, Argument.callsAll_resolveAll others,
        Argument.callsAll, List.map_append]

theorem FilterCall.innerCalls_applyAll (filters : List FilterCall)
    (input : Expr) :
    (FilterCall.applyAll Catalog.deferred scope input filters).innerCalls =
      input.innerCalls ++ (FilterCall.inner filters).map Call.name := by
  match filters with
  | [] => exact (List.append_nil _).symm
  | ⟨name, arguments⟩ :: filters =>
      rw [FilterCall.applyAll,
        if_pos (show Catalog.deferred name = true from rfl),
        FilterCall.innerCalls_applyAll filters, Expr.innerCalls,
        Argument.callsAll_resolveAll arguments, FilterCall.inner,
        List.map_append, List.append_assoc]

end

end

end Markup

open Markup (Token Placeholder Call)

/-- With all filters the expressions of a program call those of its source, in
the same order. -/
theorem Program.calls_of_realizeAll {program : Program} {tokens : List Token}
    (realizes :
      Instruction.RealizeAll Catalog.deferred program.instructions tokens) :
    program.exprs.flatMap Expr.calls =
      (Token.callsAll tokens).map Call.name := by
  rw [Program.exprs, List.flatMap_assoc, Token.callsAll, List.map_flatMap,
    List.flatMap_assoc]
  refine realizes.flatMap_eq (fun _ => ⟨rfl, rfl⟩)
    fun instruction token realized => ?_
  obtain ⟨scope, same⟩ := realized.exprs_eq
  rw [same, List.flatMap_map]
  exact congrArg (token.placeholders.flatMap ·)
    (funext fun placeholder => placeholder.calls_resolve scope)

/-- The known filters of an expression stay in their order. -/
theorem Expr.ownCalls_restrict (known : Catalog) (expr : Expr) :
    (expr.restrict known).ownCalls = expr.ownCalls.filter known := by
  induction expr using Expr.ownCalls.induct with
  | case1 reference subscripts => rfl
  | case2 name input arguments inner =>
      rw [Expr.restrict, Expr.ownCalls, List.filter_append, ← inner]
      cases knows : known name <;> simp [Expr.ownCalls, knows]

/-- A template compiles with a catalog exactly if it compiles with all filters.
Its program is then the one with all filters, of which those are left out that
the catalog does not know, and each call of these in the source, as in the
program with all filters, is reported once. -/
theorem compile_restricts_and_warns (options : Options) (known : Catalog)
    (source : String) : 
    let text := Markup.normalize options.tagNamespace source.toList
    (∃ error, compile options Catalog.deferred source = .error error ∧
      compile options known source = .error error) ∨
    ∃ ahead here tokens, compile options Catalog.deferred source = .ok ahead ∧
      compile options known source = .ok here ∧
      here.program = ahead.program.restrict known ∧
      (∀ expr ∈ ahead.program.exprs,
        (expr.restrict known).ownCalls = expr.ownCalls.filter known) ∧
      Markup.tokenize options text = .ok tokens ∧
      Placeholder.StandIn (tokens.flatMap Token.placeholders) text ∧
      here.warnings = Call.warnings known (Token.callsAll tokens) ∧
      ahead.program.exprs.flatMap Expr.calls =
        (Token.callsAll tokens).map Call.name := by
  intro text
  rcases compile_eq_or_restrict known options source with
    failed | ⟨ahead, here, compiledAhead, compiledHere, same⟩
  · exact .inl failed
  · obtain ⟨tokens, tokenized, -, realizes⟩ :=
      Program.realizeAll_of_compile compiledAhead
    obtain ⟨others, again, warned, -⟩ :=
      Program.realizeAll_of_compile compiledHere
    obtain rfl : tokens = others := Except.ok.inj (tokenized.symm.trans again)
    refine .inr ⟨ahead, here, tokens, compiledAhead, compiledHere, same, ?_,
      tokenized, ?_, ?_, ?_⟩
    · exact fun expr _ => expr.ownCalls_restrict known
    · exact Token.standIn_of_tokenize tokenized
    · rw [warned, Token.warnings_eq_callsAll]
    · exact Program.calls_of_realizeAll realizes

/-- A call in an argument is reported before the call that it is an argument
of. -/
example :
    (compile {} (fun _ => false) "\x7bA[\x7b$S|s\x7d]|f:\x7b$B|g\x7d\x7d").map
        Compiled.warnings =
      .ok [⟨"s", "\x7b$S|s\x7d"⟩, ⟨"g", "\x7b$B|g\x7d"⟩,
        ⟨"f", "\x7bA[\x7b$S|s\x7d]|f:\x7b$B|g\x7d\x7d"⟩] := by
  cbv

end TemplateEngine
