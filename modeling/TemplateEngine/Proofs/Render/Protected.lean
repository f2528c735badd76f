import TemplateEngine.Proofs.Render.Depth
import TemplateEngine.Proofs.Value.Protected

/-!
# Rendering with protected variables

With the filter `protect` for all variables, a template sees every variable that
a context owns with its texts protected.  Whatever a template selects from such
a variable, itself or in iterations over parts of it, is protected as long as
the template does not assign to the variable; and so it is in included
templates, unless a parameter takes the place of the variable.
-/

namespace TemplateEngine

/-! ## The variables that templates see -/

/-- A binding that protects a value of its own and leaves a cell as it is. -/
def Binding.protect : Binding → Binding
  | owned value => owned value.protect
  | shared cell => shared cell

/-- Variables with the texts of their own values protected. -/
def Table.protect (vars : Table Binding) : Table Binding :=
  vars.map fun (name, binding) => (name, binding.protect)

namespace Environment

theorem filterTexts_protect (value : Value) :
    filterTexts Filters.builtin ["protect"] value = .ok value.protect := by
  have changes (content : String) :
      Filters.invoke Filters.builtin "protect" (.text content) [] =
        .ok (.text (Value.protectedText content)) := rfl
  rw [filterTexts, Value.mapTexts_eq_ok changes]
  rfl

theorem filterVars_protect (vars : Table Binding) :
    filterVars Filters.builtin ["protect"] vars = .ok (Table.protect vars) := by
  induction vars with
  | nil => rfl
  | cons entry vars induction =>
      obtain ⟨name, value | cell⟩ := entry
      · rw [filterVars, filterTexts_protect, induction]
        rfl
      · rw [filterVars, induction]
        rfl

end Environment

/-! ## Expressions that draw on a variable -/

/-- Whether all iterations with a number are over the same expression. -/
def Program.IteratesOver (program : Program) (id : Nat) (collection : Expr) :
    Prop :=
  ∀ rowAlias source skip,
    .openBlock id rowAlias source skip ∈ program.instructions →
      source = .collection collection

/-- Whether an expression is a variable with any subscripts, or the item of an
iteration over such an expression, with any subscripts. -/
inductive Program.DrawsOn (program : Program) (name : String) : Expr → Prop
  | var (subscripts : List Argument) :
      DrawsOn program name (.access (.var name) subscripts)
  | item {id : Nat} {rowAlias : String} {collection : Expr}
      (subscripts : List Argument) :
      program.IteratesOver id collection → DrawsOn program name collection →
      DrawsOn program name (.access (.frame id rowAlias [] "value") subscripts)

/-- In a compiled template the iterations with one number are one, so that the
item of every iteration over what draws on a variable draws on it. -/
theorem Program.drawsOn_item_of_compile {options : Options} {known : Catalog}
    {source : String} {compiled : Compiled}
    (compiles : compile options known source = .ok compiled) {name : String}
    {id skip : Nat} {rowAlias : String} {collection : Expr}
    (opened : .openBlock id rowAlias (.collection collection) skip ∈
      compiled.program.instructions)
    (draws : compiled.program.DrawsOn name collection) (spelled : String)
    (subscripts : List Argument) :
    compiled.program.DrawsOn name
      (.access (.frame id spelled [] "value") subscripts) := by
  refine .item subscripts (fun otherAlias other otherSkip also => ?_) draws
  have distinct :=
    List.pairwise_filterMap.mp (Program.nodup_opens_of_compile compiles)
  by_cases same : Instruction.openBlock id otherAlias other otherSkip =
      .openBlock id rowAlias (.collection collection) skip
  · cases same
    rfl
  · have symmetric : Std.Symm fun one another : Instruction =>
        ∀ id, one.opens? = some id →
          ∀ otherId, another.opens? = some otherId → id ≠ otherId :=
      ⟨fun _ _ apart _ opens _ otherOpens equal =>
        apart _ otherOpens _ opens equal.symm⟩
    exact absurd rfl (distinct.forall also opened same id rfl id rfl)

/-- Whether a variable is protected at a state of a run, and so is every item of
the open iterations that draw on it. -/
structure Machine.Protects (program : Program) (name : String)
    (machine : Machine) : Prop where
  bound :
    ∃ value : Value, Table.get? machine.vars name = some (.owned value.protect)
  items :
    ∀ frame ∈ machine.frames, ∀ collection,
      program.IteratesOver frame.id collection →
        program.DrawsOn name collection →
        ∀ row ∈ frame.row :: frame.following, row.HasProtected

/-- What subscripts select from a protected value is protected. -/
theorem Argument.exists_protect_of_select {view : View}
    {subscripts : List Argument} {value selected : Value}
    (evaluated : Argument.select view value.protect subscripts = .ok selected) :
    ∃ part : Value, selected = part.protect := by
  induction subscripts generalizing value with
  | nil =>
      rw [Argument.select] at evaluated
      cases evaluated
      exact ⟨value, rfl⟩
  | cons subscript others induction =>
      rw [Argument.select] at evaluated
      split at evaluated
      · cases evaluated
      next key _ =>
        rw [Value.protect, Value.subscript_withTexts] at evaluated
        exact induction evaluated

section

variable {program : Program} {name : String} {machine : Machine}
  (protects : machine.Protects program name) {scene : Scene} {world : World}

include protects

theorem Machine.Protects.hasProtected_of_row? {id : Nat} {collection : Expr}
    (iterates : program.IteratesOver id collection)
    (draws : program.DrawsOn name collection) {row : Row}
    (active : (machine.view scene world).row? id = some row) :
    row.HasProtected := by
  obtain ⟨frame, found, rfl⟩ := Option.map_eq_some_iff.mp active
  have same : frame.id = id := by simpa using List.find?_some found
  subst same
  exact protects.items frame (List.mem_of_find?_eq_some found) collection
    iterates draws frame.row List.mem_cons_self

/-- What draws on a protected variable is protected. -/
theorem Machine.Protects.exists_protect {expr : Expr}
    (draws : program.DrawsOn name expr) {selected : Value}
    (evaluated : expr.eval (machine.view scene world) = .ok selected) :
    ∃ part : Value, selected = part.protect := by
  cases draws with
  | var subscripts =>
      obtain ⟨value, bound⟩ := protects.bound
      have found :
          (machine.view scene world).reference (.var name) =
            .ok value.protect := by
        rw [View.reference, Machine.view, bound]
        rfl
      rw [Expr.eval, found] at evaluated
      exact Argument.exists_protect_of_select evaluated
  | @item id rowAlias collection subscripts iterates draws =>
      cases active : (machine.view scene world).row? id with
      | none =>
          rw [Expr.eval, View.reference, active] at evaluated
          cases evaluated
      | some row =>
          obtain ⟨item, holds⟩ :=
            protects.hasProtected_of_row? iterates draws active
          have found :
              (machine.view scene world).reference
                  (.frame id rowAlias [] "value") =
                .ok item.protect := by
            rw [View.reference, active, Option.bind_some, View.descend?,
              Option.bind_some, holds]
          rw [Expr.eval, found] at evaluated
          exact Argument.exists_protect_of_select evaluated

/-- The rows of an iteration over what draws on a protected variable are
protected. -/
theorem Machine.Protects.hasProtected_of_rows {collection : Expr}
    (draws : program.DrawsOn name collection) {rows : List Row}
    (taken : (Source.collection collection).rows (machine.view scene world) =
      .ok rows) :
    ∀ row ∈ rows, row.HasProtected := by
  rw [Source.rows] at taken
  cases evaluated : collection.eval (machine.view scene world) with
  | error error =>
      rw [evaluated] at taken
      cases taken
  | ok value =>
      rw [evaluated] at taken
      cases taken
      obtain ⟨part, rfl⟩ := protects.exists_protect draws evaluated
      exact fun row => Row.hasProtected_of_mem_ofCollection

end

/-! ## Runs that leave a variable alone -/

/-- The variable that an instruction assigns to. -/
def Instruction.assigned? : Instruction → Option String
  | set name _ _ => some name
  | _ => none

theorem Machine.vars_nextRow (machine : Machine) (id : Nat) :
    (machine.nextRow id).1.vars = machine.vars := by
  rw [Machine.nextRow]
  split
  · rfl
  · split
    · split <;> rfl
    · rfl

theorem Machine.vars_openRows (machine : Machine) (id skip : Nat)
    (rows : List Row) :
    (machine.openRows id skip rows).vars = machine.vars := by
  cases rows <;> rfl

theorem Machine.get?_vars_of_assign {scene : Scene} {machine next : Machine}
    {world after : World} {assigned name : String} {subscripts : List Argument}
    {value : List Piece}
    (step :
      machine.assign scene world assigned subscripts value = .ok (next, after))
    (other : name ≠ assigned) :
    Table.get? next.vars name = Table.get? machine.vars name := by
  rw [Machine.assign] at step
  dsimp only at step
  split at step
  · cases step
  · split at step
    · cases step
    · cases step
      exact Table.get?_insert_other _ _ other

theorem Outcome.exists_of_mapped {α : Type} {result : Except Error α}
    {change : α → Machine} {next : Machine} {world after : World}
    (step : (some (result.map change, world) : Outcome Machine) =
      some (.ok next, after)) :
    ∃ value, next = change value := by
  cases result with
  | error error => cases step
  | ok value =>
      cases step
      exact ⟨value, rfl⟩

/-- A step changes at most the variable that is assigned to. -/
theorem Scene.get?_vars_of_step {scene : Scene} {runner : Option Runner}
    {instruction : Instruction} {machine next : Machine} {world after : World}
    {name : String}
    (step :
      scene.step runner instruction machine world = some (.ok next, after))
    (other : instruction.assigned? ≠ some name) :
    Table.get? next.vars name = Table.get? machine.vars name := by
  cases instruction with
  | text content =>
      cases step
      rfl
  | endBranch =>
      cases step
      rfl
  | print expr =>
      rw [Scene.step] at step
      obtain ⟨value, rfl⟩ := Outcome.exists_of_mapped step
      rfl
  | set assigned subscripts value =>
      rw [Scene.step] at step
      split at step
      · cases step
      next found =>
        cases step
        rw [← Machine.get?_vars_of_assign found fun same =>
            other (congrArg some same.symm)]
        rfl
  | inclusion target once kind =>
      rw [Scene.step] at step
      split at step
      · cases step
      · cases step
      · cases step
        rfl
  | branch condition exit =>
      rcases Machine.eq_of_tested step with rfl | rfl <;> rfl
  | elseBranch condition exit leave =>
      rw [Scene.step] at step
      split at step
      · rcases Machine.eq_of_tested step with rfl | rfl <;> rfl
      · cases step
        rfl
  | otherwise exit =>
      cases step
      split <;> rfl
  | openBlock id rowAlias source skip =>
      rw [Scene.step] at step
      obtain ⟨rows, rfl⟩ := Outcome.exists_of_mapped step
      rw [Machine.vars_openRows]
  | elseBlock id body exit =>
      cases step
      exact congrArg (Table.get? · name) (machine.vars_nextRow id)
  | closeBlock id body =>
      have same := machine.vars_nextRow id
      rw [Scene.step] at step
      rcases moved : machine.nextRow id with ⟨inner, again⟩
      rw [moved] at same step
      cases again with
      | true =>
          cases step
          exact congrArg (Table.get? · name) same
      | false =>
          cases step
          exact congrArg (Table.get? · name) same

/-- A step that does not assign to a protected variable leaves it protected, and
all that is drawn from it. -/
theorem Machine.Protects.step {program : Program} {name : String}
    {machine : Machine} (protects : machine.Protects program name)
    {scene : Scene} {runner : Option Runner} {instruction : Instruction}
    {next : Machine} {world after : World}
    (found : program.instructions[machine.position]? = some instruction)
    (other : instruction.assigned? ≠ some name)
    (step :
      scene.step runner instruction machine world = some (.ok next, after)) :
    next.Protects program name := by
  refine ⟨Scene.get?_vars_of_step step other ▸ protects.bound, ?_⟩
  have travels := Scene.travels_of_step step
  generalize next.position = target at travels
  generalize next.frames = frames at travels
  have items := protects.items
  cases travels with
  | advance _ _ => exact items
  | jump _ => exact items
  | skip _ => exact items
  | @enter id skip rowAlias source row following taken =>
      intro frame member collection iterates draws
      rcases List.mem_cons.mp member with rfl | outer
      · cases iterates rowAlias source skip (List.mem_of_getElem? found)
        exact protects.hasProtected_of_rows draws taken
      · exact items frame outer collection iterates draws
  | @again _ id body exit latest row following outer turn top =>
      rw [top] at items
      intro frame member collection iterates draws
      rcases List.mem_cons.mp member with rfl | inner
      · have rows :=
          items ⟨id, latest, row :: following⟩ List.mem_cons_self collection
            iterates draws
        exact fun row member => rows row (List.mem_cons_of_mem _ member)
      · exact items frame (List.mem_cons_of_mem _ inner) collection iterates
          draws
  | finish turn top =>
      rw [top] at items
      exact fun frame member => items frame (List.mem_cons_of_mem _ member)
  | apart _ _ => exact items

/-- The states that a run goes through before it assigns to a variable. -/
inductive Scene.Spares (scene : Scene) (runner : Option Runner) (name : String)
    (run : Run) : Machine → World → Prop
  | start : Spares scene runner name run { vars := run.vars } run.world
  | step {machine next : Machine} {world after : World}
      {instruction : Instruction} :
      Spares scene runner name run machine world →
      run.program.instructions[machine.position]? = some instruction →
      instruction.assigned? ≠ some name →
      scene.step runner instruction machine world = some (.ok next, after) →
      Spares scene runner name run next after

/-- The runs of a rendering that start with a variable as the first run does: no
run around them has assigned to it before the inclusion, and no parameter of an
inclusion takes its place. -/
inductive Scene.Passes (scene : Scene) (steps : Nat) (name : String)
    (first : Run) : (levels : Nat) → Run → Prop
  | first : Passes scene steps name first maxInclusions first
  | inclusion {levels : Nat} {outer : Run} {machine : Machine} {world : World}
      {target : Target} {once : Bool} {kind : InclusionKind} {template : String}
      {parameters : List (String × Value)} {program : Program} {store : Store} :
      Passes scene steps name first (levels + 1) outer →
      scene.Spares (scene.nested steps (levels + 1)) name outer machine world →
      outer.program.instructions[machine.position]? =
        some (.inclusion target once kind) →
      target.resolve (machine.view scene world) = .ok (template, parameters) →
      ¬world.skips once template →
      scene.environment.program world.store template = (.ok program, store) →
      name ∉ parameters.map Prod.fst →
      Passes scene steps name first levels ⟨program,
        Table.insertAll machine.vars
          (parameters.map fun (name, value) => (name, Binding.owned value)),
        { world.marked once template with store }⟩

theorem Table.get?_insertAll_other {α : Type} {name : String}
    {entries : List (String × α)} (absent : name ∉ entries.map Prod.fst)
    (table : Table α) :
    get? (insertAll table entries) name = get? table name := by
  induction entries generalizing table with
  | nil => rfl
  | cons entry entries induction =>
      obtain ⟨known, value⟩ := entry
      rw [List.map_cons, List.mem_cons, not_or] at absent
      exact (induction absent.2 _).trans
        (get?_insert_other table value absent.1)

theorem Scene.Spares.protects {scene : Scene} {runner : Option Runner}
    {name : String} {run : Run} {machine : Machine} {world : World}
    (spares : scene.Spares runner name run machine world)
    (bound :
      ∃ value : Value, Table.get? run.vars name = some (.owned value.protect)) :
    machine.Protects run.program name := by
  induction spares with
  | start => exact ⟨bound, fun _ member => by cases member⟩
  | step _ found other step induction => exact induction.step found other step

theorem Scene.Passes.bound {scene : Scene} {steps levels : Nat} {name : String}
    {first run : Run} (passes : scene.Passes steps name first levels run)
    (bound : ∃ value : Value,
      Table.get? first.vars name = some (.owned value.protect)) :
    ∃ value : Value,
      Table.get? run.vars name = some (.owned value.protect) := by
  induction passes with
  | first => exact bound
  | inclusion _ spares _ _ _ _ absent induction =>
      obtain ⟨value, same⟩ := (spares.protects induction).bound
      refine ⟨value, ?_⟩
      dsimp only
      rwa [Table.get?_insertAll_other]
      simpa using absent

/-! ## Protected output -/

/-- With the standard filters and the filter `protect` for all variables, a
template sees the variables of a context under their names, in their order and
as they are, but for the texts of those that the context owns: these are
protected, at any depth.  So what is selected from such a variable, or from the
items of iterations over such selections, has no character that opens or ends a
tag or an attribute, in the template and in all that are included with the
variable as it was. -/
theorem Environment.protects_owned {environment : Environment}
    (standard : environment.filters = Filters.builtin)
    (automatic : environment.autoFilters = ["protect"]) (context : Context) :
    environment.visibleVars context = .ok (Table.protect context.vars) ∧
      ∀ (name : String) (value : Value),
        Table.get? context.vars name = some (.owned value) →
          ∀ (steps : Nat) (program : Program) (world : World),
        let scene : Scene := ⟨environment, context.constants, context.blocks⟩
        let first : Run :=
          ⟨program, Table.protect context.vars, { world with included := [] }⟩
        ∀ levels run, scene.Passes steps name first levels run →
          ∀ machine after,
            scene.Spares (scene.nested steps levels) name run machine after →
              ∀ expr, run.program.DrawsOn name expr →
                ∀ selected,
                  expr.eval (machine.view scene after) = .ok selected →
                    IsProtected selected.toText.toList := by
  refine ⟨?_, ?_⟩
  · rw [visibleVars, standard, automatic, filterVars_protect]
  · intro name value owned steps program world scene first levels run passes
      machine after spares expr draws selected evaluated
    have bound : Table.get? first.vars name = some (.owned value.protect) := by
      have found := Table.get?_mapValues Binding.protect context.vars name
      rw [owned] at found
      exact found
    have protects := spares.protects (passes.bound ⟨value, bound⟩)
    obtain ⟨part, rfl⟩ := protects.exists_protect draws evaluated
    rw [Value.toText, String.toList_ofList]
    exact part.isProtected_print

theorem Environment.protects_owned_item :
    let environment : Environment := { autoFilters := ["protect"] }
    let context : Context :=
      { vars :=
          [("A",
              .owned (.map
                [("x", .list [.map [("<k>", .text "<b>"), ("n", .int 1)]])])),
            ("S", .shared 0)] }
    let source :=
      "<foreach ary=\"\x7b$A['x']\x7d\" as=\"i\">\x7bi.value['<k>']\x7d</foreach>"
    let program : Program :=
      ⟨[.openBlock 1 "i" (.collection (.access (.var "A") [.text "x"])) 3,
        .print (.access (.frame 1 "i" [] "value") [.text "<k>"]),
        .closeBlock 1 1]⟩
    let world : World := ⟨{}, ⟨.memory [], .memory [], 0, 0⟩, []⟩
    environment.compile source = .ok ⟨program, []⟩ ∧
      environment.visibleVars context =
        .ok
          [("A",
              .owned (.map
                [("x",
                  .list [.map [("<k>", .text "&lt;b&gt;"), ("n", .int 1)]])])),
            ("S", .shared 0)] ∧
      environment.execute 4 program context world =
        some (.ok "&lt;b&gt;", world) ∧
      IsProtected "&lt;b&gt;".toList := by
  intro environment context source program world
  have compiles :
      TemplateEngine.compile {} Filters.builtin.has source =
        .ok ⟨program, []⟩ := by cbv
  obtain ⟨visible, guards⟩ := @protects_owned environment rfl rfl context
  have isProtected :=
    guards "A" _ rfl 4 program world maxInclusions _ .first _ world
      (.step .start rfl (by simp [Instruction.assigned?]) rfl)
      (.access (.frame 1 "i" [] "value") [.text "<k>"])
      (Program.drawsOn_item_of_compile compiles List.mem_cons_self (.var _) _ _)
      (.text "&lt;b&gt;") rfl
  refine ⟨?_, visible.trans rfl, by rfl, isProtected⟩
  rw [Environment.compile, compiles]

end TemplateEngine
