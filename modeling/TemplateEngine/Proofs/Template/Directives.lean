import Mathlib.Data.List.Forall2
import TemplateEngine.Proofs.Template.Levels

/-!
# Directives in the order of the source

The placeholders and tags of a source become one instruction each, in their
order.  Laying out a tree puts texts between these instructions, and compaction
drops and joins texts and moves positions, but neither of them leaves out,
repeats or reorders a directive.
-/

namespace TemplateEngine

open Markup (Token Tag Part Placeholder Destination)

namespace Markup

/-- Whether a token is not literal text. -/
def Token.isDirective : Token → Bool
  | .text _ => false
  | _ => true

end Markup

/-- Whether an instruction is what a token stands for within some scope.
Numbers of iterations and the positions that the instruction goes on to may be
any. -/
inductive Instruction.Realizes (known : Catalog) : Instruction → Token → Prop
  | print (scope : Scope) (placeholder : Placeholder) :
      Realizes known (.print (placeholder.resolve known scope))
        (.print placeholder)
  | set (scope : Scope) (name : String) (subscripts : List Markup.Argument)
      (body : List Part) (raw : String) :
      Realizes known
        (.set name (Markup.Argument.resolveAll known scope subscripts)
          (body.map (Part.resolve known scope)))
        (.tag (.set name subscripts body) raw)
  | inclusion (scope : Scope) (kind : InclusionKind) (destination : Destination)
      (once : Bool) (raw : String) :
      Realizes known (.inclusion (destination.resolve known scope) once kind)
        (.tag (.inclusion kind destination once) raw)
  | branch (scope : Scope) (parts : List Part) (raw : String) (next : Nat) :
      Realizes known (.branch ⟨parts.map (Part.resolve known scope)⟩ next)
        (.tag (.condition parts) raw)
  | elseBranch (scope : Scope) (parts : List Part) (raw : String)
      (next exit : Nat) :
      Realizes known
        (.elseBranch ⟨parts.map (Part.resolve known scope)⟩ next exit)
        (.tag (.elseIf parts) raw)
  | otherwise (raw : String) (exit : Nat) :
      Realizes known (.otherwise exit) (.tag .otherwise raw)
  | endBranch (raw : String) :
      Realizes known .endBranch (.tag .endCondition raw)
  | openBlock (scope : Scope) (opening : Opening) (raw : String)
      (id skip : Nat) :
      Realizes known
        (.openBlock id opening.rowAlias (opening.source known scope) skip)
        (.tag opening.tag raw)
  | elseBlock (raw : String) (id body exit : Nat) :
      Realizes known (.elseBlock id body exit) (.tag .foreachElse raw)
  | closeBlock (raw : String) (id body : Nat) :
      Realizes known (.closeBlock id body) (.tag .endForeach raw)

/-- Whether the directives of some code are those of some tokens, one for
one. -/
def Instruction.RealizeAll (known : Catalog) (code : List Instruction)
    (tokens : List Token) : Prop :=
  List.Forall₂ (Realizes known) (code.filter isDirective)
    (tokens.filter Token.isDirective)

namespace Instruction

@[simp] theorem isDirective_retarget (instruction : Instruction)
    (move : Nat → Nat) :
    (instruction.retarget move).isDirective = instruction.isDirective := by
  cases instruction <;> rfl

theorem retarget_retarget (instruction : Instruction)
    (first second : Nat → Nat) :
    (instruction.retarget first).retarget second =
      instruction.retarget (second ∘ first) := by
  cases instruction <;> rfl

section

variable {known : Catalog} {instruction : Instruction} {token : Token}

theorem Realizes.isDirective (realizes : instruction.Realizes known token) :
    instruction.isDirective = true ∧ token.isDirective = true := by
  cases realizes <;> exact ⟨rfl, rfl⟩

theorem Realizes.retarget (realizes : instruction.Realizes known token)
    (move : Nat → Nat) : (instruction.retarget move).Realizes known token := by
  cases realizes <;> constructor

/-- The expressions of a directive are the placeholders of its token. -/
theorem Realizes.exprs_eq (realizes : instruction.Realizes known token) :
    ∃ scope, instruction.exprs =
      token.placeholders.map (Placeholder.resolve known scope) := by
  cases realizes with
  | print scope placeholder => exact ⟨scope, rfl⟩
  | set scope name subscripts body raw =>
      refine ⟨scope, ?_⟩
      rw [exprs, Markup.Argument.exprs_resolveAll, Markup.Part.exprs_resolveAll,
        ← List.map_append]
      rfl
  | inclusion scope kind destination once raw =>
      exact ⟨scope, destination.exprs_resolve known scope⟩
  | branch scope parts raw next =>
      exact ⟨scope, Markup.Part.exprs_resolveAll known scope parts⟩
  | elseBranch scope parts raw next exit =>
      exact ⟨scope, Markup.Part.exprs_resolveAll known scope parts⟩
  | openBlock scope opening raw id skip =>
      exact ⟨scope, opening.exprs_source known scope⟩
  | otherwise _ _ | endBranch _ | elseBlock _ _ _ _ | closeBlock _ _ _ =>
      exact ⟨[], rfl⟩

end

/-! ## Code that realizes tokens -/

section

variable {known : Catalog}

theorem realizeAll_nil : RealizeAll known [] [] :=
  .nil

theorem realizeAll_text (content other : String) :
    RealizeAll known [.text content] [.text other] :=
  .nil

theorem RealizeAll.append {first second : List Instruction}
    {tokens others : List Token} (realizes : RealizeAll known first tokens)
    (later : RealizeAll known second others) :
    RealizeAll known (first ++ second) (tokens ++ others) := by
  rw [RealizeAll, List.filter_append, List.filter_append]
  exact List.rel_append realizes later

theorem Realizes.cons {instruction : Instruction} {token : Token}
    {code : List Instruction} {tokens : List Token}
    (realizes : instruction.Realizes known token)
    (later : RealizeAll known code tokens) :
    RealizeAll known (instruction :: code) (token :: tokens) := by
  rw [RealizeAll, List.filter_cons_of_pos realizes.isDirective.1,
    List.filter_cons_of_pos realizes.isDirective.2]
  exact .cons realizes later

theorem Realizes.alone {instruction : Instruction} {token : Token}
    (realizes : instruction.Realizes known token) :
    RealizeAll known [instruction] [token] :=
  realizes.cons realizeAll_nil

/-- Items for which nothing is listed may be left out. -/
theorem flatMap_filter {α β : Type} {listed : α → List β} {stays : α → Bool}
    (nothing : ∀ item, stays item = false → listed item = []) (items : List α) :
    (items.filter stays).flatMap listed = items.flatMap listed := by
  induction items with
  | nil => rfl
  | cons item items induction =>
      cases stay : stays item with
      | true =>
          rw [List.filter_cons_of_pos stay, List.flatMap_cons,
            List.flatMap_cons, induction]
      | false =>
          rw [List.filter_cons_of_neg (by simp [stay]), List.flatMap_cons,
            nothing item stay, induction]
          rfl

/-- What is listed for each directive is listed in the order of the tokens. -/
theorem RealizeAll.flatMap_eq {α : Type} {listed : Instruction → List α}
    {other : Token → List α} {code : List Instruction} {tokens : List Token}
    (realizes : RealizeAll known code tokens)
    (ofText :
      ∀ content, listed (.text content) = [] ∧ other (.text content) = [])
    (same : ∀ instruction token,
      instruction.Realizes known token → listed instruction = other token) :
    code.flatMap listed = tokens.flatMap other := by
  have inCode : ∀ instruction,
      isDirective instruction = false → listed instruction = [] := by
    intro instruction isText
    cases instruction with
    | text content => exact (ofText content).1
    | _ => cases isText
  have inTokens :
      ∀ token, Token.isDirective token = false → other token = [] := by
    intro token isText
    cases token with
    | text content => exact (ofText content).2
    | _ => cases isText
  rw [← flatMap_filter inCode, ← flatMap_filter inTokens]
  rw [RealizeAll] at realizes
  generalize code.filter isDirective = directives,
    tokens.filter Token.isDirective = others at realizes ⊢
  induction realizes with
  | nil => rfl
  | cons first _ induction =>
      rw [List.flatMap_cons, List.flatMap_cons, same _ _ first, induction]

end

end Instruction

open Instruction (Realizes RealizeAll)

/-! ## Laying out -/

section

variable (known : Catalog)

mutual

/-- The directives of a phrase that is laid out are those of its tokens. -/
theorem Phrase.realizeAll_flatten (scope : Scope) (next : Nat) (phrase : Phrase)
    (start : Nat) :
    RealizeAll known ((phrase.node known scope next).flatten start)
      phrase.tokens := by
  match phrase with
  | .text content => exact Instruction.realizeAll_text content content
  | .print placeholder => exact (Realizes.print scope placeholder).alone
  | .set name subscripts body raw =>
      exact (Realizes.set scope name subscripts body raw).alone
  | .inclusion kind destination once raw =>
      exact (Realizes.inclusion scope kind destination once raw).alone
  | .each opening raw body close =>
      rw [Phrase.node, Node.flatten_each, Phrase.tokens]
      exact (Realizes.openBlock scope opening raw next _).cons
        ((Phrase.realizeAll_flattenAll _ _ body _).append
          (Realizes.closeBlock close next _).alone)
  | .eachElse opening raw body between empty close =>
      rw [Phrase.node, Node.flatten_each_empty, Phrase.tokens]
      exact (Realizes.openBlock scope opening raw next _).cons
        ((Phrase.realizeAll_flattenAll _ _ body _).append
          ((Realizes.elseBlock between next _ _).cons
            ((Phrase.realizeAll_flattenAll _ _ empty _).append
              (Realizes.closeBlock close next _).alone)))
  | .choose parts raw body rest =>
      rw [Phrase.node, Node.flatten_choose, Phrase.tokens]
      exact (Realizes.branch scope parts raw _).cons
        ((Phrase.realizeAll_flattenAll _ _ body _).append
          (Branches.realizeAll_flatten _ _ rest _ _))

theorem Phrase.realizeAll_flattenAll (scope : Scope) (next : Nat)
    (phrases : List Phrase) (start : Nat) :
    RealizeAll known
      (Node.flattenAll start (Phrase.nodes known scope next phrases))
      (Phrase.tokensAll phrases) := by
  match phrases with
  | [] => exact Instruction.realizeAll_nil
  | phrase :: phrases =>
      exact (Phrase.realizeAll_flatten _ _ phrase _).append
        (Phrase.realizeAll_flattenAll _ _ phrases _)

theorem Branches.realizeAll_flatten (scope : Scope) (next : Nat)
    (branches : Branches) (start exit : Nat) :
    RealizeAll known
      ((branches.alternative known scope next).flatten start exit)
      branches.tokens := by
  match branches with
  | .done close => exact (Realizes.endBranch close).alone
  | .otherwise raw body close =>
      rw [Branches.alternative, Alternative.flatten_otherwise, Branches.tokens]
      exact (Realizes.otherwise raw exit).cons
        ((Phrase.realizeAll_flattenAll _ _ body _).append
          (Realizes.endBranch close).alone)
  | .elseIf parts raw body rest =>
      rw [Branches.alternative, Alternative.flatten_elseIf, Branches.tokens]
      exact (Realizes.elseBranch scope parts raw _ exit).cons
        ((Phrase.realizeAll_flattenAll _ _ body _).append
          (Branches.realizeAll_flatten _ _ rest _ _))

end

end

/-! ## Compaction -/

namespace Compaction

theorem filter_map_retarget (move : Nat → Nat) (code : List Instruction) :
    (code.map (Instruction.retarget move)).filter Instruction.isDirective =
      (code.filter Instruction.isDirective).map
        (Instruction.retarget move) := by
  rw [List.filter_map]
  congr 1
  apply List.filter_congr
  intro instruction _
  exact instruction.isDirective_retarget move

theorem filter_joinTexts (code : List Instruction) :
    (joinTexts code).filter Instruction.isDirective =
      code.filter Instruction.isDirective := by
  induction code with
  | nil => rfl
  | cons instruction rest induction =>
      cases instruction with
      | text content =>
          rw [List.filter_cons_of_neg Bool.false_ne_true, ← induction,
            joinTexts]
          split
          next next others joined =>
            rw [joined]
            rfl
          next => rfl
      | _ =>
          rw [joinTexts_cons_directive rfl, List.filter_cons_of_pos rfl,
            List.filter_cons_of_pos rfl, induction]

theorem filter_keepBy (move : Nat → Nat) (rule : TextRule) (before : Neighbour)
    (code : List Instruction) :
    (keepBy move (marksBy rule before code) code).filter
        Instruction.isDirective =
      (code.filter Instruction.isDirective).map
        (Instruction.retarget move) := by
  induction code generalizing before with
  | nil => rfl
  | cons instruction rest induction =>
      rw [marksBy, keepBy_cons]
      cases instruction with
      | text content =>
          rw [List.filter_cons_of_neg Bool.false_ne_true, ← induction]
          split <;> rfl
      | _ => exact congrArg _ (induction _)

/-- Compaction does not change the directives of a program, except for where
they go on to. -/
theorem exists_filter_compact (squeeze : Bool) (code : List Instruction) :
    ∃ move, (compact squeeze code).filter Instruction.isDirective =
      (code.filter Instruction.isDirective).map
        (Instruction.retarget move) := by
  have marked :
      prints squeeze false code = marksBy (printing squeeze) .edge code :=
    prints_eq_marksBy squeeze .edge code
  have pruned : (prune squeeze code).filter Instruction.isDirective =
      (code.filter Instruction.isDirective).map
        (Instruction.retarget (moved (prints squeeze false code))) := by
    rw [prune, keep_eq_keepBy, marked, filter_keepBy]
  refine ⟨moved (heads false (prune squeeze code)) ∘
      moved (prints squeeze false code), ?_⟩
  rw [compact, merge, filter_map_retarget, filter_joinTexts, pruned,
    List.map_map]
  exact List.map_congr_left fun instruction _ =>
    instruction.retarget_retarget _ _

theorem realizeAll_compact {known : Catalog} {code : List Instruction}
    {tokens : List Token} (realizes : RealizeAll known code tokens)
    (squeeze : Bool) : RealizeAll known (compact squeeze code) tokens := by
  obtain ⟨move, same⟩ := exists_filter_compact squeeze code
  rw [RealizeAll, same, List.forall₂_map_left_iff]
  exact List.Forall₂.imp (fun _ _ realizes => realizes.retarget move) realizes

end Compaction

/-! ## Compiled templates -/

/-- The directives of a compiled template are those of the tokens of its source,
in their order. -/
theorem Program.realizeAll_of_compile {options : Options} {known : Catalog}
    {source : String} {compiled : Compiled}
    (compiles : compile options known source = .ok compiled) :
    ∃ tokens,
      Markup.tokenize options
            (Markup.normalize options.tagNamespace source.toList) =
          .ok tokens ∧
        compiled.warnings = tokens.flatMap (Token.warnings known) ∧
        RealizeAll known compiled.program.instructions tokens := by
  obtain ⟨phrases, tokenized, -, rfl⟩ := compile_eq_ok.mp compiles
  exact ⟨Phrase.tokensAll phrases, tokenized, rfl,
    Compaction.realizeAll_compact
      (Phrase.realizeAll_flattenAll known [] 1 phrases 0) _⟩

end TemplateEngine
