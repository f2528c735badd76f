import TemplateEngine.Filter.Builtin
import TemplateEngine.Proofs.Markup.Found
import TemplateEngine.Proofs.Program.Levels
import TemplateEngine.Proofs.Template.Scoped
import TemplateEngine.Proofs.Template.Single

/-!
# Levels of compiled expressions

Every expression of a compiled template is a resolved placeholder of its source,
and so has at most 65 levels where inputs of filters count as none.  Chains of
filters are not limited, and each filter makes what is in front of it the input
of a further expression: with inputs counted there are up to 65 levels for every
filter in a row, and no number of levels is enough for all templates.
-/

namespace TemplateEngine

open Markup (Token Part Placeholder Destination)

/-! ## Resolved placeholders -/

namespace Markup

variable (known : Catalog) (scope : Scope)

mutual

/-- An expression has no more levels than its placeholder, as unknown filters
are left out. -/
theorem Placeholder.levels_resolve_le (placeholder : Placeholder) :
    (placeholder.resolve known scope).levels 0 ≤ placeholder.levels := by
  match placeholder with
  | ⟨raw, isValue, isConstant, first, rest, subscripts, filters⟩ =>
      have inSubscripts := Argument.levelsAll_resolveAll_le subscripts
      rw [Placeholder.resolve, Placeholder.levels]
      refine Nat.le_trans (FilterCall.levels_applyAll_le filters _) ?_
      rw [Expr.levels]
      omega

theorem Argument.levels_resolve_le (argument : Argument) :
    (argument.resolve known scope).levels 0 ≤ argument.levels := by
  match argument with
  | .bare text =>
      rw [Argument.resolve]
      rcases TemplateEngine.Argument.ofBare_eq text with
        same | ⟨number, -, same⟩
      · rw [same]
        exact Nat.zero_le _
      · rw [same]
        exact Nat.zero_le _
  | .quoted text => exact Nat.zero_le _
  | .value placeholder => exact placeholder.levels_resolve_le

theorem Argument.levelsAll_resolveAll_le (arguments : List Argument) :
    TemplateEngine.Argument.levelsAll 0
        (Argument.resolveAll known scope arguments) ≤
      Argument.levelsAll arguments := by
  match arguments with
  | [] => exact Nat.zero_le _
  | argument :: others =>
      have first := argument.levels_resolve_le
      have later := Argument.levelsAll_resolveAll_le others
      rw [Argument.resolveAll, TemplateEngine.Argument.levelsAll,
        Argument.levelsAll]
      omega

theorem FilterCall.levels_applyAll_le (calls : List FilterCall) (input : Expr) :
    (FilterCall.applyAll known scope input calls).levels 0 ≤
      max (input.levels 0) (1 + FilterCall.levelsAll calls) := by
  match calls with
  | [] => exact Nat.le_max_left _ _
  | ⟨name, arguments⟩ :: calls =>
      have inArguments := Argument.levelsAll_resolveAll_le arguments
      rw [FilterCall.applyAll, FilterCall.levelsAll]
      refine Nat.le_trans (FilterCall.levels_applyAll_le calls _) ?_
      split
      · rw [Expr.levels]
        omega
      · omega

end

theorem Part.exprs_resolveAll (parts : List Part) :
    (parts.map (Part.resolve known scope)).flatMap Piece.exprs =
      (parts.flatMap Part.placeholders).map
        (Placeholder.resolve known scope) := by
  induction parts with
  | nil => rfl
  | cons part parts induction =>
      rw [List.map_cons, List.flatMap_cons, List.flatMap_cons, List.map_append,
        induction]
      cases part with
      | text content => rfl
      | value placeholder => rfl

theorem Argument.exprs_resolveAll (arguments : List Argument) :
    (Argument.resolveAll known scope arguments).flatMap
        TemplateEngine.Argument.exprs =
      (arguments.flatMap Argument.placeholders).map
        (Placeholder.resolve known scope) := by
  induction arguments with
  | nil => rfl
  | cons argument arguments induction =>
      rw [Argument.resolveAll, List.flatMap_cons, List.flatMap_cons,
        List.map_append, induction]
      cases argument with
      | bare text =>
          rw [Argument.resolve]
          rcases TemplateEngine.Argument.ofBare_eq text with
            same | ⟨number, -, same⟩
          · rw [same]
            rfl
          · rw [same]
            rfl
      | quoted text => rfl
      | value placeholder => rfl

theorem Destination.exprs_resolve (destination : Destination) :
    (destination.resolve known scope).exprs =
      destination.placeholders.map (Placeholder.resolve known scope) := by
  cases destination with
  | dynamic placeholder => rfl
  | path name query =>
      rw [Destination.resolve, Target.exprs, Destination.placeholders,
        List.flatMap_map, List.map_flatMap]
      congr 1
      funext parameter
      obtain ⟨field, value⟩ := parameter
      cases value with
      | text content => rfl
      | value placeholder => rfl

end Markup

theorem Opening.exprs_source (known : Catalog) (scope : Scope)
    (opening : Opening) :
    (opening.source known scope).exprs =
      opening.tag.placeholders.map (Placeholder.resolve known scope) := by
  rcases opening with ⟨collection, rowAlias⟩ | ⟨name, _ | parent⟩
  · rfl
  · rfl
  · rw [Opening.source]
    cases scope.lookup parent with
    | none => rfl
    | some id => rfl

/-! ## Where expressions come from -/

/-- Whether each expression of an instruction is a resolved placeholder of some
tokens. -/
def Instruction.From (known : Catalog) (tokens : List Token)
    (instruction : Instruction) : Prop :=
  ∀ expr ∈ instruction.exprs, ∃ placeholder ∈ tokens.flatMap Token.placeholders,
    ∃ scope, expr = placeholder.resolve known scope

section

variable {known : Catalog}

theorem Instruction.from_of_nil {tokens : List Token}
    {instruction : Instruction} (empty : instruction.exprs = []) :
    instruction.From known tokens := by
  rw [From, empty]
  exact List.forall_mem_nil _

theorem Instruction.from_of_token {token : Token} {tokens : List Token}
    {scope : Scope} {instruction : Instruction} (member : token ∈ tokens)
    (same : instruction.exprs =
      token.placeholders.map (Placeholder.resolve known scope)) :
    instruction.From known tokens := by
  rw [From, same]
  exact List.forall_mem_map.mpr fun placeholder inside =>
    ⟨placeholder, List.mem_flatMap.mpr ⟨token, member, inside⟩, scope, rfl⟩

theorem Instruction.From.of_subset {tokens more : List Token}
    {instruction : Instruction} (origin : instruction.From known tokens)
    (inside : tokens ⊆ more) : instruction.From known more := by
  intro expr member
  obtain ⟨placeholder, among, resolved⟩ := origin expr member
  obtain ⟨token, member, among⟩ := List.mem_flatMap.mp among
  exact ⟨placeholder, List.mem_flatMap.mpr ⟨token, inside member, among⟩,
    resolved⟩

theorem Instruction.from_retarget {tokens : List Token}
    (instruction : Instruction) (move : Nat → Nat)
    (origin : instruction.From known tokens) :
    (instruction.retarget move).From known tokens := by
  cases instruction <;> exact origin

/-- What holds of some instructions with fewer tokens holds of them with
more. -/
theorem Instruction.forall_from_of_subset {tokens more : List Token}
    {code : List Instruction}
    (origins : ∀ instruction ∈ code, instruction.From known tokens)
    (inside : tokens ⊆ more) :
    ∀ instruction ∈ code, instruction.From known more :=
  fun instruction member => (origins instruction member).of_subset inside

end

section

variable (known : Catalog)

open Instruction (from_of_nil from_of_token forall_from_of_subset)

mutual

/-- The expressions of a phrase are placeholders of its tokens. -/
theorem Phrase.from_flatten (scope : Scope) (next : Nat) (phrase : Phrase)
    (start : Nat) :
    ∀ instruction ∈ (phrase.node known scope next).flatten start,
      instruction.From known phrase.tokens := by
  match phrase with
  | .text content => exact List.forall_mem_singleton.mpr (from_of_nil rfl)
  | .print placeholder =>
      exact List.forall_mem_singleton.mpr (from_of_token List.mem_cons_self rfl)
  | .set name subscripts body raw =>
      have resolved :
          (Instruction.set name
              (Markup.Argument.resolveAll known scope subscripts)
              (body.map (Part.resolve known scope))).exprs =
            (Token.tag (.set name subscripts body) raw).placeholders.map
              (Placeholder.resolve known scope) := by
        rw [Instruction.exprs, Markup.Argument.exprs_resolveAll,
          Markup.Part.exprs_resolveAll, ← List.map_append]
        rfl
      exact List.forall_mem_singleton.mpr
        (from_of_token List.mem_cons_self resolved)
  | .inclusion kind destination once raw =>
      exact List.forall_mem_singleton.mpr (from_of_token List.mem_cons_self
        (destination.exprs_resolve known scope))
  | .each opening raw body close =>
      rw [Phrase.node, Node.flatten_each]
      simp only [List.forall_mem_cons, List.forall_mem_append]
      exact ⟨from_of_token List.mem_cons_self
          (opening.exprs_source known scope),
        forall_from_of_subset (Phrase.from_flattenAll _ _ body _)
          (by simp [Phrase.tokens]), from_of_nil rfl, List.forall_mem_nil _⟩
  | .eachElse opening raw body between empty close =>
      rw [Phrase.node, Node.flatten_each_empty]
      simp only [List.forall_mem_cons, List.forall_mem_append]
      exact ⟨from_of_token List.mem_cons_self
          (opening.exprs_source known scope),
        forall_from_of_subset (Phrase.from_flattenAll _ _ body _)
          (by simp [Phrase.tokens]), from_of_nil rfl,
        forall_from_of_subset (Phrase.from_flattenAll _ _ empty _)
          (fun token member => by simp [Phrase.tokens, member]),
        from_of_nil rfl, List.forall_mem_nil _⟩
  | .choose parts raw body rest =>
      rw [Phrase.node, Node.flatten_choose]
      simp only [List.forall_mem_cons, List.forall_mem_append]
      exact ⟨from_of_token List.mem_cons_self
          (Markup.Part.exprs_resolveAll known scope parts),
        forall_from_of_subset (Phrase.from_flattenAll _ _ body _)
          (by simp [Phrase.tokens]),
        forall_from_of_subset (Branches.from_flatten _ _ rest _ _)
          (by simp [Phrase.tokens])⟩

theorem Phrase.from_flattenAll (scope : Scope) (next : Nat)
    (phrases : List Phrase) (start : Nat) :
    ∀ instruction ∈ Node.flattenAll start
        (Phrase.nodes known scope next phrases),
      instruction.From known (Phrase.tokensAll phrases) := by
  match phrases with
  | [] => exact List.forall_mem_nil _
  | phrase :: phrases =>
      exact List.forall_mem_append.mpr
        ⟨forall_from_of_subset (Phrase.from_flatten _ _ phrase _)
            (List.subset_append_left _ _),
          forall_from_of_subset (Phrase.from_flattenAll _ _ phrases _)
            (List.subset_append_right _ _)⟩

theorem Branches.from_flatten (scope : Scope) (next : Nat) (branches : Branches)
    (start exit : Nat) :
    ∀ instruction ∈ (branches.alternative known scope next).flatten start exit,
      instruction.From known branches.tokens := by
  match branches with
  | .done _ => exact List.forall_mem_singleton.mpr (from_of_nil rfl)
  | .otherwise raw body close =>
      rw [Branches.alternative, Alternative.flatten_otherwise]
      simp only [List.forall_mem_cons, List.forall_mem_append]
      exact ⟨from_of_nil rfl,
        forall_from_of_subset (Phrase.from_flattenAll _ _ body _)
          (by simp [Branches.tokens]),
        from_of_nil rfl, List.forall_mem_nil _⟩
  | .elseIf parts raw body rest =>
      rw [Branches.alternative, Alternative.flatten_elseIf]
      simp only [List.forall_mem_cons, List.forall_mem_append]
      exact ⟨from_of_token List.mem_cons_self
          (Markup.Part.exprs_resolveAll known scope parts),
        forall_from_of_subset (Phrase.from_flattenAll _ _ body _)
          (by simp [Branches.tokens]),
        forall_from_of_subset (Branches.from_flatten _ _ rest _ _)
          (by simp [Branches.tokens])⟩

end

end

/-- The expressions of a compiled template are placeholders of the tokens of its
source. -/
theorem Program.from_of_compile {options : Options} {known : Catalog}
    {source : String} {compiled : Compiled}
    (compiles : compile options known source = .ok compiled) :
    ∃ tokens,
      Markup.tokenize options
            (Markup.normalize options.tagNamespace source.toList) =
          .ok tokens ∧
        ∀ instruction ∈ compiled.program.instructions,
          instruction.From known tokens := by
  obtain ⟨phrases, tokenized, -, rfl⟩ := compile_eq_ok.mp compiles
  refine ⟨Phrase.tokensAll phrases, tokenized, ?_⟩
  exact Compaction.forall_mem_compact (fun _ => Instruction.from_of_nil rfl)
    Instruction.from_retarget options.compactWhitespace
    (Phrase.from_flattenAll known [] 1 phrases 0)

/-! ## Filters in a row -/

section

variable {name : String} (isName : Text.isName name.toList = true)
  (length : Nat)

/-- The placeholder of a variable with a filter a number of times in a row. -/
def Markup.Placeholder.chained (name : String) (length : Nat) :
    Placeholder where
  raw :=
    String.ofList (['\x7b'] ++
      ("x".toList ++
        ((List.replicate length ('|' :: name.toList)).flatten ++ ['\x7d'])))
  isValue := false
  isConstant := false
  first := "x"
  rest := []
  subscripts := []
  filters := List.replicate length ⟨name, []⟩

theorem Markup.FilterCall.levels_applyAll_chained {known : Catalog}
    (knows : known name = true) (scope : Scope) (input : Expr) :
    (FilterCall.applyAll known scope input
        (List.replicate length ⟨name, []⟩)).levels 1 =
      input.levels 1 + length := by
  induction length generalizing input with
  | zero => rfl
  | succ length induction =>
      rw [List.replicate_succ, FilterCall.applyAll, if_pos knows, induction,
        Expr.levels]
      simp only [Argument.resolveAll, TemplateEngine.Argument.levelsAll]
      omega

include isName

theorem Markup.Placeholder.spelled_chained :
    (Placeholder.chained name length).Spelled (maxDepth + 1) := by
  have bars :
      Markup.Scanner.Many '|'
        (Markup.FilterCall.Spelled (Placeholder.Spelled maxDepth))
        (List.replicate length ⟨name, []⟩)
        (List.replicate length ('|' :: name.toList)).flatten := by
    induction length with
    | zero => exact .nil
    | succ length induction =>
        exact .cons ⟨isName, [], .nil, (List.append_nil _).symm⟩ induction
  exact @Markup.Placeholder.SpelledAround.intro _ "x" [] [] _ [] [] _ false rfl
    .nil .nil bars

theorem Markup.Placeholder.isNormal_chained :
    Markup.IsNormal (Placeholder.chained name length).raw.toList := by
  have absent {character : Char} (other : Text.isNamePart character = false)
      (apart : character ∉ ['\x7b', 'x', '|', '\x7d']) :
      character ∉ (Placeholder.chained name length).raw.toList := by
    have notInName := Text.not_mem_of_isName isName other
    simp only [List.mem_cons, List.not_mem_nil, or_false, not_or] at apart
    simp [chained, List.mem_flatten, List.mem_replicate, apart, notInName]
  exact .of_not_mem (absent rfl (by decide)) (absent rfl (by decide))

end

/-! ## Compiled templates -/

/-- With a filter that is known there are templates that compile to as many
levels as one likes. -/
theorem Program.exists_levels_eq {known : Catalog} {name : String}
    (isName : Text.isName name.toList = true) (knows : known name = true)
    (length : Nat) :
    ∃ compiled expr,
      compile {} known (Placeholder.chained name length).raw = .ok compiled ∧
        compiled.program.exprs = [expr] ∧ expr.levels 1 = length + 1 := by
  refine ⟨_, _, compile_print (Placeholder.spelled_chained isName length) rfl
    (Placeholder.isNormal_chained isName length) known, rfl, ?_⟩
  have inner : (Expr.access (.var "x") []).levels 1 = 1 := rfl
  rw [Nat.add_comm, ← inner,
    ← Markup.FilterCall.levels_applyAll_chained length knows []]
  rfl

/-- Every expression of a compiled template has at most 65 levels where inputs
of filters count as none.  Where they count, there are at most 65 times one more
than its longest chain of filters, and so no more than 65 without filters. -/
theorem Program.levels_of_compile {options : Options} {known : Catalog}
    {source : String} {compiled : Compiled}
    (compiles : compile options known source = .ok compiled) {expr : Expr}
    (member : expr ∈ compiled.program.exprs) :
    expr.levels 0 ≤ maxDepth + 1 ∧
      expr.levels 1 ≤ (maxDepth + 1) * (expr.longestChain + 1) ∧
      (expr.longestChain = 0 → expr.levels 1 ≤ maxDepth + 1) := by
  obtain ⟨tokens, tokenized, origins⟩ := Program.from_of_compile compiles
  obtain ⟨instruction, placed, inside⟩ := List.mem_flatMap.mp member
  obtain ⟨placeholder, among, scope, rfl⟩ :=
    origins instruction placed expr inside
  have bounded : (placeholder.resolve known scope).levels 0 ≤ maxDepth + 1 :=
    Nat.le_trans (placeholder.levels_resolve_le known scope)
      (Token.levels_le_of_tokenize tokenized placeholder among)
  have counted :=
    Nat.le_trans (Expr.levels_one_le _) (Nat.mul_le_mul_right _ bounded)
  refine ⟨bounded, counted, fun noFilters => ?_⟩
  rw [noFilters] at counted
  exact counted

/-- A hundred filters in a row make 101 levels. -/
theorem Program.levels_of_compile_filters :
    ∃ compiled expr,
      compile {} Filters.builtin.has (Placeholder.chained "upper" 100).raw =
          .ok compiled ∧
        compiled.program.exprs = [expr] ∧ expr.levels 0 ≤ 65 ∧
        expr.levels 1 = 101 := by
  have isName : Text.isName "upper".toList = true := by decide
  have knows : Filters.builtin.has "upper" = true := by decide
  obtain ⟨compiled, expr, compiles, same, levels⟩ :=
    Program.exists_levels_eq isName knows 100
  obtain ⟨shallow, -, -⟩ :=
    Program.levels_of_compile compiles (same ▸ List.mem_singleton_self expr)
  exact ⟨compiled, expr, compiles, same, shallow, levels⟩

end TemplateEngine
