import TemplateEngine.Proofs.Render.Requests
import TemplateEngine.Proofs.Template.Single

/-!
# Printing fields of blocks

A placeholder with dots is scanned, parsed and printed by parts that were
written apart from the block tree.  They agree with it on which field of which
block is meant, except that placeholders spell the field `value` also `val`, in
rows of blocks as well.  A variable of a row that is named `val` has no
placeholder.
-/

namespace TemplateEngine

open Markup (Placeholder IsNormal)
open Markup.Scanner (Many)

/-! ## Names joined by dots -/

section

variable {name : String} {names : List String}

/-- The text of names, each after a dot. -/
def dotted (names : List String) : List Char :=
  names.flatMap fun name => '.' :: name.toList

theorem joinNames_cons (name : String) (names : List String) :
    joinNames (name :: names) = name.toList ++ dotted names := by
  induction names generalizing name with
  | nil => simp [joinNames, dotted]
  | cons next names induction =>
      have later := induction next
      simp only [joinNames, dotted, List.map_cons, List.flatMap_cons] at later ⊢
      rw [List.intercalate_cons_cons, later, List.append_assoc]
      rfl

theorem many_dotted
    (areNames : ∀ name ∈ names, Text.isName name.toList = true) :
    Many '.' Markup.Name.Spelled names (dotted names) := by
  induction names with
  | nil => exact .nil
  | cons name names induction =>
      rw [List.forall_mem_cons] at areNames
      exact .cons ⟨rfl, areNames.1⟩ (induction areNames.2)

theorem segments_joinNames (some : names ≠ [])
    (areNames : ∀ name ∈ names, Text.isName name.toList = true) :
    Blocks.segments (String.ofList (joinNames names)) = names := by
  have noDots : ∀ part ∈ names.map String.toList, '.' ∉ part := by
    intro part member
    obtain ⟨name, isName, rfl⟩ := List.mem_map.mp member
    exact Text.not_mem_of_isName (areNames name isName) rfl
  have filled : names.map String.toList ≠ [] := by simpa using some
  rw [Blocks.segments, String.toList_ofList, joinNames,
    List.splitOn_intercalate '.' noDots filled]
  simp

end

/-! ## The placeholder of a field -/

section

variable {first field : String} {names : List String}

/-- The placeholder of a field of the block at names joined by dots. -/
def Markup.Placeholder.ofField (first : String) (names : List String)
    (field : String) : Placeholder where
  raw :=
    String.ofList
      (['\x7b'] ++ (first.toList ++ (dotted (names ++ [field]) ++ ['\x7d'])))
  isValue := false
  isConstant := false
  first
  rest := names ++ [field]
  subscripts := []
  filters := []

theorem Markup.Placeholder.raw_ofField (first : String) (names : List String)
    (field : String) :
    (ofField first names field).raw =
      "\x7b" ++ String.ofList (joinNames (first :: names)) ++ "." ++ field ++
        "\x7d" := by
  rw [← String.toList_inj]
  simp [ofField, joinNames_cons, dotted]

variable (isName : Text.isName first.toList = true)
  (areNames : ∀ name ∈ names, Text.isName name.toList = true)
  (isField : Text.isName field.toList = true)

include isName areNames isField

theorem Markup.Placeholder.spelled_ofField :
    (ofField first names field).Spelled (maxDepth + 1) := by
  have further : ∀ name ∈ names ++ [field], Text.isName name.toList = true := by
    simpa [or_imp, forall_and] using ⟨areNames, isField⟩
  have spelled : Placeholder.Spelled (maxDepth + 1) _ :=
    .intro false isName (many_dotted further) .nil .nil
  have several : (names ++ [field]).isEmpty = false := by cases names <;> rfl
  simpa [ofField, several] using spelled

/-- The placeholder holds no character with which comments or tags start. -/
theorem Markup.Placeholder.isNormal_ofField :
    IsNormal (ofField first names field).raw.toList := by
  have absent {character : Char} (other : Text.isNamePart character = false)
      (apart : character ∉ ['\x7b', '.', '\x7d']) :
      character ∉ (ofField first names field).raw.toList := by
    intro inside
    rw [ofField, String.toList_ofList] at inside
    simp only [dotted, List.flatMap_append, List.flatMap_singleton,
      List.mem_append, List.mem_flatMap, List.mem_cons, List.not_mem_nil,
      or_false] at inside
    rcases inside with
      rfl | inside | (⟨name, member, rfl | inside⟩ | rfl | inside) | rfl
    · exact apart (by simp)
    · exact Text.not_mem_of_isName isName other inside
    · exact apart (by simp)
    · exact Text.not_mem_of_isName (areNames name member) other inside
    · exact apart (by simp)
    · exact Text.not_mem_of_isName isField other inside
    · exact apart (by simp)
  exact .of_not_mem
    (absent (show Text.isNamePart '/' = false from rfl) (by decide))
    (absent (show Text.isNamePart '<' = false from rfl) (by decide))

/-- The template that is a placeholder of a field prints this field. -/
theorem compile_ofField (known : Catalog) :
    compile {} known (Placeholder.ofField first names field).raw =
      .ok ⟨⟨[.print (.access (.block (first :: names) (fieldName field)) [])]⟩,
        []⟩ := by
  have resolved :
      Placeholder.resolve known [] (Placeholder.ofField first names field) =
        .access (.block (first :: names) (fieldName field)) [] := by
    simp [Placeholder.ofField, Placeholder.resolve, Markup.Argument.resolveAll,
      Markup.FilterCall.applyAll, Scope.reference]
  rw [compile_print (Placeholder.spelled_ofField isName areNames isField) rfl
    (Placeholder.isNormal_ofField isName areNames isField), resolved]
  rfl

end

/-! ## Printing -/

theorem Expr.eval_access_nil (view : View) (reference : Reference) :
    (Expr.access reference []).eval view = view.reference reference := by
  rw [Expr.eval]
  cases view.reference reference with
  | error error => rfl
  | ok value => simp only [Argument.select]

/-- A program that prints one expression takes one step. -/
theorem Environment.execute_print (environment : Environment) (steps : Nat)
    (expr : Expr) (context : Context) (world : World) :
    environment.execute (steps + 1) ⟨[.print expr]⟩ context world =
      match environment.visibleVars context with
      | .error error => some (.error error, world)
      | .ok vars =>
        some
          ((expr.eval (Machine.view ⟨environment, context.constants,
              context.blocks⟩ { vars } { world with included := [] })).map
              Value.toText, { world with included := [] }) := by
  cases visible : environment.visibleVars context with
  | error error => rw [execute, visible]
  | ok vars =>
      rw [execute_of_visibleVars _ _ _ visible, Scene.runner_eq,
        Scene.run_succ _ _ _ _ (show _ = some (.print expr) from rfl),
        Scene.step]
      dsimp only
      cases expr.eval _ with
      | error error => rfl
      | ok value =>
          simp only [Except.map, Outcome.andThen]
          rw [Scene.run_of_ended _ _ _ _ rfl]
          simp [Machine.advance, Machine.goto, Machine.write]

/-- The fields that a row has besides its variables. -/
def Row.derivedFields : List String :=
  ["FIRST", "is_first", "LAST", "is_last", "CURRENT", "current", "SIZE_OF",
    "size"]

theorem Row.get?_of_not_derived {field : String} (apart : field ∉ derivedFields)
    (heap : Heap) (row : Row) :
    row.get? heap field =
      (Table.get? row.vars field).map (Binding.get heap) := by
  simp only [derivedFields, List.mem_cons, List.not_mem_nil, or_false, not_or]
    at apart
  simp [get?, apart]

theorem Blocks.resolve_of_current {heap : Heap} {blocks : Blocks}
    {names : List String} {field : String} {row : Row} {binding : Binding}
    (nonempty : names ≠ [])
    (areNames : ∀ name ∈ names, Text.isName name.toList = true)
    (current : (block? names blocks).bind Block.current? = some row)
    (bound : Table.get? row.vars field = some binding)
    (apart : field ∉ Row.derivedFields) :
    blocks.resolve heap (String.ofList (joinNames names)) field =
      .ok (binding.get heap) := by
  rw [resolve, segments_joinNames nonempty areNames, current]
  dsimp only
  rw [Row.get?_of_not_derived apart, bound]
  rfl

/-- With default options, the placeholder of a field prints what the block tree
resolves the field to, and fails as that fails, except that `val` stands for the
field `value`.  So a variable of the last row of a block is printed if its name
is none of the derived fields and not `val`. -/
theorem Environment.renderSource_field {environment : Environment}
    (byDefault : environment.options = {}) {names : List String}
    {field : String} (nonempty : names ≠ [])
    (areNames : ∀ name ∈ names, Text.isName name.toList = true)
    (isField : Text.isName field.toList = true) (steps : Nat)
    (context : Context) (world : World) : 
    let path := String.ofList (joinNames names)
    let rendered := environment.renderSource (steps + 1)
      ("\x7b" ++ path ++ "." ++ field ++ "\x7d") context world
    (∀ error, environment.visibleVars context = .error error →
      rendered = some (.error error, world)) ∧
    ∀ vars, environment.visibleVars context = .ok vars →
      (rendered = some
        (match context.blocks.resolve world.heap path (fieldName field) with
          | .ok value => .ok value.toText
          | .error error =>
            .error (.block error), { world with included := [] })) ∧
      ∀ row binding,
        (Blocks.block? names context.blocks).bind Block.current? = some row →
          Table.get? row.vars field = some binding → field ∉ Row.derivedFields →
          field ≠ "val" →
          rendered =
            some (.ok (binding.get world.heap).toText,
              { world with included := [] }) := by
  intro path rendered
  have printed :
      rendered =
        environment.execute (steps + 1)
          ⟨[.print (.access (.block names (fieldName field)) [])]⟩ context
          world := by
    obtain ⟨first, names, rfl⟩ := List.exists_cons_of_ne_nil nonempty
    rw [List.forall_mem_cons] at areNames
    have compiled :=
      compile_ofField areNames.1 areNames.2 isField environment.filters.has
    rw [Placeholder.raw_ofField] at compiled
    simp only [rendered, path, renderSource, compile, byDefault, compiled]
  rw [execute_print] at printed
  refine ⟨fun error visible => ?_, fun vars visible => ?_⟩
  · rw [printed, visible]
  · have resolved : rendered = some
        (match context.blocks.resolve world.heap path (fieldName field) with
          | .ok value => .ok value.toText
          | .error error =>
            .error (.block error), { world with included := [] }) := by
      rw [printed, visible]
      dsimp only
      rw [Expr.eval_access_nil, View.reference]
      simp only [Machine.view]
      cases context.blocks.resolve world.heap path (fieldName field) with
      | error error => rfl
      | ok value => rfl
    refine ⟨resolved, fun row binding current bound apart notVal => ?_⟩
    have own : fieldName field = field := if_neg notVal
    rw [resolved, own,
      Blocks.resolve_of_current nonempty areNames current bound apart]

/-- A variable `val` of a row of a block has no placeholder. -/
theorem Environment.renderSource_field_val :
    let blocks : Blocks :=
      [("a",
        ⟨[⟨[("val", .owned (.text "x"))], true, true, 1, .counted 0, []⟩], 0⟩)]
    let world : World := ⟨⟨[], [1]⟩, ⟨.memory [], .memory [], 0, 0⟩, []⟩
    Blocks.openBlock [] {} "a" [("val", .owned (.text "x"))] =
      .ok (blocks, world.heap, ⟨[("a", 0)]⟩) ∧
    blocks.resolve world.heap "a" "val" = .ok (.text "x") ∧
    Environment.renderSource {} 1 "\x7ba.val\x7d" { blocks } world =
      some (.error (.block (.undefined "a" "value")), world) := by
  intro blocks world
  have rendered :=
    (@renderSource_field {} rfl ["a"] "val" (by simp) (by decide) (by decide) 0
      { blocks } world).2 [] rfl
  exact ⟨rfl, rfl, rendered.1⟩

end TemplateEngine
