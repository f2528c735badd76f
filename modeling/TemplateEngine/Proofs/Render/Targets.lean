import Mathlib
import TemplateEngine.Proofs.Render.Requests
import TemplateEngine.Proofs.Template.Single

/-!
# Literal and computed targets agree

The query string of a literal path is split when the template is compiled, and
that of a computed target when it is rendered.  Both are split into the same
parameters, which are decoded in the same way, so that a literal path can be
moved to a variable.
-/

namespace TemplateEngine

open Markup (Token Placeholder Part Destination IsNamespace Head)
open Markup.Scanner (Reads)

/-- The name of a template and its parameters that a text stands for. -/
def Target.ofText (text : List Char) : String × List (String × Value) :=
  match Text.splitFirst? '?' text with
  | some (name, query) => (String.ofList name, Query.parse query)
  | none => (String.ofList text, [])

theorem Query.parameter_eq (pair : List Char) :
    Query.parameter pair =
      (Query.decode (Markup.Parameter.split pair).1,
        .text (Query.decode (Markup.Parameter.split pair).2)) := by
  rw [Query.parameter, Markup.Parameter.split]
  cases Text.splitFirst? '=' pair with
  | none => rfl
  | some parts => rfl

section

variable (known : Catalog) (scope : Scope) (view : View)

/-- Parameters of literal text are those of the query string they are read
from. -/
theorem Piece.parameters_plain (pairs : List (List Char)) :
    Piece.parameters view
        ((pairs.map Markup.Parameter.plain).map fun (name, value) =>
          (name, value.resolve known scope)) =
      .ok (pairs.map Query.parameter) := by
  induction pairs with
  | nil => rfl
  | cons pair pairs induction =>
      have first : (match Markup.Parameter.plain pair with
          | (name, value) => (name, value.resolve known scope)) =
            (String.ofList (Markup.Parameter.split pair).1,
              Piece.text (String.ofList (Markup.Parameter.split pair).2)) := rfl
      rw [List.map_cons, List.map_cons, first, Piece.parameters, induction,
        List.map_cons, Query.parameter_eq, String.toList_ofList,
        String.toList_ofList]
      rfl

/-- A literal path without placeholders names what its text stands for. -/
theorem Target.resolve_plain {template : List Char} {destination : Destination}
    (plain : Destination.plain? template = some destination) :
    (destination.resolve known scope).resolve view =
      .ok (Target.ofText template) := by
  rw [Destination.plain?] at plain
  split at plain
  · cases plain
  next name query splits =>
    split at plain
    · cases plain
      obtain ⟨noMark, ⟨rfl, rfl⟩ | rfl⟩ := Markup.Tag.splitPath?_eq_some splits
      · rw [Target.ofText, Text.splitFirst?_of_not_mem noMark]
        rfl
      · rw [Target.ofText, Text.splitFirst?_append_cons query noMark,
          Destination.resolve, Target.resolve, Piece.parameters_plain]
        rfl
    · cases plain

/-- A computed target names what the text stands for that it evaluates to. -/
theorem Target.resolve_dynamic {expr : Expr} {text : List Char}
    (evaluated : expr.eval view = .ok (.text (String.ofList text))) :
    (Target.dynamic expr).resolve view = .ok (Target.ofText text) := by
  have printed : (Value.text (String.ofList text)).print = text :=
    String.toList_ofList
  rw [Target.resolve, evaluated]
  dsimp only
  rw [printed, Target.ofText]
  cases Text.splitFirst? '?' text with
  | none => rfl
  | some parts => rfl

theorem Placeholder.eval_ofVariable {name : String} {value : Value}
    (bound :
      (Table.get? view.vars name).map (Binding.get view.heap) = some value) :
    ((Placeholder.ofVariable name).resolve known scope).eval view =
      .ok value := by
  have resolved :
      (Placeholder.ofVariable name).resolve known scope =
        .access (.var name) [] := rfl
  rw [resolved, Expr.eval, View.reference, bound]
  simp only [Option.getD_some, Argument.select]

end

/-! ## Rendering -/

namespace Environment

/-- Without filters for all variables, templates see the variables as they
are. -/
theorem filterVars_nil (filters : Filters) (vars : Table Binding) :
    filterVars filters [] vars = .ok vars := by
  induction vars with
  | nil => rfl
  | cons entry vars induction =>
      obtain ⟨name, value | cell⟩ := entry
      · rw [filterVars, filterTexts, induction]
        rfl
      · rw [filterVars, induction]
        rfl

/-- A program that is one inclusion renders the template that the inclusion
names. -/
theorem execute_inclusion {environment : Environment} {context : Context}
    {vars : Table Binding}
    (visible : environment.visibleVars context = .ok vars) (steps : Nat)
    (target : Target) (once : Bool) (kind : InclusionKind) (world : World) : 
    let scene : Scene := ⟨environment, context.constants, context.blocks⟩
    environment.execute (steps + 1) ⟨[.inclusion target once kind]⟩ context
        world =
      scene.include (scene.nested (steps + 1) maxInclusions) { vars }
        { world with included := [] } target once kind := by
  intro scene
  rw [execute_of_visibleVars _ _ _ visible, Scene.runner_eq,
    Scene.run_succ _ _ _ _
      (show _ = some (.inclusion target once kind) from rfl),
    Scene.step_inclusion, Outcome.andThen_assoc]
  rcases scene.include _ _ _ target once kind with _ | ⟨_ | text, after⟩
  · rfl
  · rfl
  · simp only [Outcome.andThen_ok]
    rw [Scene.run_of_ended _ _ _ _ rfl]
    simp [Machine.advance, Machine.goto, Machine.write]

/-- Without steps, a program that is one inclusion is cut off. -/
theorem execute_zero_inclusion {environment : Environment} {context : Context}
    {vars : Table Binding}
    (visible : environment.visibleVars context = .ok vars) (target : Target)
    (once : Bool) (kind : InclusionKind) (world : World) :
    environment.execute 0 ⟨[.inclusion target once kind]⟩ context world =
      none := by
  rw [execute_of_visibleVars _ _ _ visible, Scene.runner_eq,
    Scene.run_zero _ _ _ (show _ = some (.inclusion target once kind) from rfl),
    Outcome.andThen_none]

/-- Programs that are one inclusion are rendered alike if the variables make
their targets name the same. -/
theorem execute_inclusion_congr {environment : Environment}
    (noAuto : environment.autoFilters = []) {context : Context} {world : World}
    {first second : Target}
    (same :
      ∀ view : View, view.vars = context.vars → view.heap = world.heap →
        first.resolve view = second.resolve view) (steps : Nat) (once : Bool)
    (kind : InclusionKind) :
    environment.execute steps ⟨[.inclusion first once kind]⟩ context world =
      environment.execute steps ⟨[.inclusion second once kind]⟩ context
        world := by
  have visible : environment.visibleVars context = .ok context.vars := by
    rw [visibleVars, noAuto, filterVars_nil]
  cases steps with
  | zero => rw [execute_zero_inclusion visible, execute_zero_inclusion visible]
  | succ steps =>
      rw [execute_inclusion visible, execute_inclusion visible, Scene.include,
        Scene.include, same _ rfl rfl]

section

variable {environment : Environment}
  (isNamespace : IsNamespace environment.options.tagNamespace)
  (includes : environment.options.inclusion = true) {template : List Char}
  (unquoted : '"' ∉ template) (noBrace : '\x7b' ∉ template)
  (noTag : '<' ∉ template) (noComment : ¬ ['/', '*'] <:+: template)
  {path : String} {query : List (String × Part)}
  (accepted : Markup.Tag.destinationOf environment.options template [] =
    .ok (some (.path path query, []))) {name : String}
  (isName : Text.isName name.toList = true)
  (isVariable :
    (environment.options.constants && Placeholder.namesConstant name) = false)

include isNamespace includes unquoted noBrace noTag noComment accepted isName
  isVariable

/-- An inclusion of a literal path without braces, and the inclusion of a
variable that holds the text of this path, are read as inclusions wherever they
stand, name the same template with the same parameters, and are rendered alike:
as an instruction of any program, and, without filters for all variables, as
whole templates. -/
theorem renderSource_inclusion (kind : InclusionKind) (once : Option Bool) :
    let named : Option Value → Prop :=
      fun value => value = some (.text (String.ofList template))
    let tagNamespace := environment.options.tagNamespace
    let computed := Destination.dynamic (.ofVariable name)
    let literalSource :=
      (Head.inclusion kind template once).written tagNamespace
    let computedSource :=
      (Head.inclusion kind (Placeholder.ofVariable name).raw.toList
        once).written tagNamespace
    (∀ rest,
      Reads (Token.scan environment.options) literalSource
          (.tag (.inclusion kind (.path path query) (once.getD false))
            (String.ofList literalSource)) rest ∧
        Reads (Token.scan environment.options) computedSource
          (.tag (.inclusion kind computed (once.getD false))
            (String.ofList computedSource)) rest) ∧
    (∀ known scope (view : View),
      named ((Table.get? view.vars name).map (Binding.get view.heap)) →
        ((Destination.path path query).resolve known scope).resolve view =
            .ok (Target.ofText template) ∧
          (computed.resolve known scope).resolve view =
            .ok (Target.ofText template)) ∧
    (∀ known scope (scene : Scene) runner machine world,
      named ((Table.get? machine.vars name).map (Binding.get world.heap)) →
        scene.step runner
            (.inclusion ((Destination.path path query).resolve known scope)
              (once.getD false) kind) machine world =
          scene.step runner
            (.inclusion (computed.resolve known scope) (once.getD false) kind)
            machine world) ∧
    (environment.autoFilters = [] →
      ∀ steps context world,
        named ((Table.get? context.vars name).map (Binding.get world.heap)) →
          environment.renderSource steps (String.ofList literalSource) context
              world =
            environment.renderSource steps (String.ofList computedSource)
              context world) := by
  intro named tagNamespace computed literalSource computedSource
  have plain := Destination.plain?_of_accepted _ noBrace accepted
  have readsLiteral := Destination.reads_plain environment.options noBrace plain
  have readsComputed :=
    @Destination.reads_ofVariable environment.options name isName isVariable
  have absent {character : Char} (other : Text.isNamePart character = false)
      (apart : character ∉ ['\x7b', '$', '\x7d']) :
      character ∉ (Placeholder.ofVariable name).raw.toList :=
    Placeholder.not_mem_ofVariable isName other apart
  have computedUnquoted := @absent '"' rfl (by decide)
  have computedNoTag := @absent '<' rfl (by decide)
  have computedNoComment :
      ¬ ['/', '*'] <:+: (Placeholder.ofVariable name).raw.toList :=
    fun inside => @absent '/' rfl (by decide) (inside.subset List.mem_cons_self)
  have resolved known scope (view : View)
      (bound :
        named ((Table.get? view.vars name).map (Binding.get view.heap))) :
      ((Destination.path path query).resolve known scope).resolve view =
          .ok (Target.ofText template) ∧
        (computed.resolve known scope).resolve view =
          .ok (Target.ofText template) :=
    ⟨Target.resolve_plain known scope view plain,
      Target.resolve_dynamic view
        (Placeholder.eval_ofVariable known scope view bound)⟩
  refine ⟨fun rest => ⟨?_, ?_⟩, resolved, ?_, ?_⟩
  · exact Head.reads_inclusion isNamespace includes unquoted readsLiteral kind
      once rest
  · exact Head.reads_inclusion isNamespace includes computedUnquoted
      readsComputed kind once rest
  · intro known scope scene runner machine world bound
    obtain ⟨ofLiteral, ofComputed⟩ :=
      resolved known scope (machine.view scene world) bound
    rw [Scene.step_inclusion, Scene.step_inclusion, Scene.include,
      Scene.include, ofLiteral, ofComputed]
  · intro noAuto steps context world bound
    rw [renderSource, renderSource, compile, compile,
      compile_inclusion isNamespace includes unquoted noTag noComment
        readsLiteral,
      compile_inclusion isNamespace includes computedUnquoted computedNoTag
        computedNoComment readsComputed]
    apply execute_inclusion_congr noAuto
    intro view sameVars sameHeap
    obtain ⟨ofLiteral, ofComputed⟩ := resolved environment.filters.has [] view
      (by rw [sameVars, sameHeap]; exact bound)
    rw [ofLiteral, ofComputed]

end

/-- A path with an encoded query string, and a variable that holds it. -/
theorem renderSource_inclusion_query :
    let environment : Environment :=
      { preloaded := [("page", ⟨[.print (.access (.var "title") [])]⟩)] }
    let context : Context :=
      { vars := [("V", .owned (.text "page?title=a+b&x"))] }
    let world : World := ⟨{}, ⟨.memory [], .memory [], 0, 0⟩, []⟩
    let after : World := { world with included := [⟨false, ["page"]⟩] }
    Markup.Tag.destinationOf environment.options "page?title=a+b&x".toList [] =
      .ok (some (.path "page" [("title", .text "a+b"), ("x", .text "")], [])) ∧
    Target.ofText "page?title=a+b&x".toList =
      ("page", [("title", .text "a b"), ("x", .text "")]) ∧
    environment.renderSource 1
        "<require tpl=\"page?title=a+b&x\" once=\"true\" />" context world =
      some (.ok "a b", after) ∧
    environment.renderSource 1 "<require tpl=\"\x7b$V\x7d\" once=\"true\" />"
        context world =
      some (.ok "a b", after) := by
  have executed :
      execute
          { preloaded := [("page", ⟨[.print (.access (.var "title") [])]⟩)] } 1
          ⟨[.inclusion (.path "page" [("title", .text "a+b"), ("x", .text "")])
              true .required]⟩
          { vars := [("V", .owned (.text "page?title=a+b&x"))] }
          ⟨{}, ⟨.memory [], .memory [], 0, 0⟩, []⟩ =
        some (.ok "a b",
          ⟨{}, ⟨.memory [], .memory [], 0, 0⟩, [⟨false, ["page"]⟩]⟩) := by cbv
  have noBrace : '\x7b' ∉ "page?title=a+b&x".toList := by decide
  have noComment : ¬ ['/', '*'] <:+: "page?title=a+b&x".toList := by
    simp [List.infix_cons_iff]
  have plain : Destination.plain? "page?title=a+b&x".toList =
      some (.path "page" [("title", .text "a+b"), ("x", .text "")]) := by rfl
  have decoded : Target.ofText "page?title=a+b&x".toList =
      ("page", [("title", .text "a b"), ("x", .text "")]) := by cbv
  have compiled :
      TemplateEngine.compile {} Filters.builtin.has
          "<require tpl=\"page?title=a+b&x\" once=\"true\" />" =
        .ok
          ⟨⟨[.inclusion (.path "page" [("title", .text "a+b"), ("x", .text "")])
                true .required]⟩, []⟩ := by cbv
  intro environment context world after
  have accepted :
      Markup.Tag.destinationOf environment.options "page?title=a+b&x".toList
          [] =
        .ok (some (.path "page" [("title", .text "a+b"), ("x", .text "")],
          [])) := by
    rw [Markup.Tag.destinationOf_of_not_mem _ noBrace, plain]
    rfl
  have literal : environment.renderSource 1
      "<require tpl=\"page?title=a+b&x\" once=\"true\" />" context world =
        some (.ok "a b", after) := by
    rw [renderSource, Environment.compile, compiled]
    exact executed
  obtain ⟨-, -, -, alike⟩ :=
    @renderSource_inclusion environment (.inl rfl) rfl "page?title=a+b&x".toList
      (by decide) noBrace (by decide) noComment _ _ accepted "V" (by decide)
      (by decide) .required (some true)
  exact ⟨accepted, decoded, literal,
    (alike rfl 1 context world rfl).symm.trans literal⟩

end Environment

end TemplateEngine
