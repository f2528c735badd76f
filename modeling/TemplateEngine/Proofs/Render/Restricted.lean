import TemplateEngine.Proofs.Render.Ending
import TemplateEngine.Proofs.Template.Restricted

/-!
# Programs compiled ahead of time

A program that is compiled ahead of time calls every filter of its source, and
an environment passes over those that it does not know.  It renders as the
program that the environment compiles itself, which does not call them.  Only
the text of a condition that cannot be evaluated tells the two apart.
-/

namespace TemplateEngine

/-! ## Expressions -/

section

variable {known : Catalog} {view : View}

mutual

theorem Expr.eval_restrict (same : view.filters.has = known) (expr : Expr) :
    (expr.restrict known).eval view = expr.eval view := by
  match expr with
  | .access reference subscripts =>
      rw [Expr.restrict, Expr.eval, Expr.eval]
      cases view.reference reference with
      | error error => rfl
      | ok value => exact Argument.select_restrictAll same subscripts value
  | .filter name input arguments =>
      rw [Expr.restrict, Expr.eval, same]
      cases has : known name with
      | false =>
          rw [if_neg Bool.false_ne_true, Expr.eval_restrict same input]
          cases input.eval view <;> rfl
      | true =>
          rw [if_pos rfl, Expr.eval, Expr.eval_restrict same input, same, has,
            Argument.evalAll_restrictAll same arguments]

theorem Argument.eval_restrict (same : view.filters.has = known)
    (argument : Argument) :
    (argument.restrict known).eval view = argument.eval view := by
  match argument with
  | .int _ | .text _ => rfl
  | .expr inner =>
      rw [Argument.restrict, Argument.eval, Argument.eval,
        Expr.eval_restrict same inner]

theorem Argument.select_restrictAll (same : view.filters.has = known)
    (subscripts : List Argument) (value : Value) :
    Argument.select view value (Argument.restrictAll known subscripts) =
      Argument.select view value subscripts := by
  match subscripts with
  | [] => rfl
  | subscript :: others =>
      rw [Argument.restrictAll, Argument.select, Argument.select,
        Argument.eval_restrict same subscript]
      cases subscript.eval view with
      | error error => rfl
      | ok key =>
          exact Argument.select_restrictAll same others (value.subscript key)

theorem Argument.evalAll_restrictAll (same : view.filters.has = known)
    (arguments : List Argument) :
    Argument.evalAll view (Argument.restrictAll known arguments) =
      Argument.evalAll view arguments := by
  match arguments with
  | [] => rfl
  | argument :: others =>
      rw [Argument.restrictAll, Argument.evalAll, Argument.evalAll,
        Argument.eval_restrict same argument,
        Argument.evalAll_restrictAll same others]

end

variable (same : view.filters.has = known)

include same

theorem Piece.eval_restrict (piece : Piece) :
    (piece.restrict known).eval view = piece.eval view := by
  cases piece with
  | text content => rfl
  | expr inner => exact Expr.eval_restrict same inner

theorem Piece.evalText_restrict (pieces : List Piece) :
    Piece.evalText view (pieces.map (Piece.restrict known)) =
      Piece.evalText view pieces := by
  induction pieces with
  | nil => rfl
  | cons piece pieces induction =>
      rw [List.map_cons, Piece.evalText, Piece.evalText,
        Piece.eval_restrict same, induction]

theorem Piece.assigned_restrict (pieces : List Piece) :
    Piece.assigned view (pieces.map (Piece.restrict known)) =
      Piece.assigned view pieces := by
  have text := Piece.evalText_restrict same pieces
  match pieces with
  | [] => rfl
  | [.expr inner] => exact Expr.eval_restrict same inner
  | [.text content] => rfl
  | .text content :: next :: pieces =>
      exact congrArg (Except.map fun text => Value.text (String.ofList text))
        text
  | .expr inner :: next :: pieces =>
      exact congrArg (Except.map fun text => Value.text (String.ofList text))
        text

theorem Piece.operands_restrict (pieces : List Piece) :
    Piece.operands view (pieces.map (Piece.restrict known)) =
      Piece.operands view pieces := by
  induction pieces with
  | nil => rfl
  | cons piece pieces induction =>
      cases piece with
      | text content =>
          rw [List.map_cons, Piece.restrict, Piece.operands, Piece.operands,
            induction]
      | expr inner =>
          rw [List.map_cons, Piece.restrict, Piece.operands, Piece.operands,
            induction, Expr.eval_restrict same]

theorem Piece.parameters_restrict (query : List (String × Piece)) :
    Piece.parameters view
        (query.map fun (field, value) => (field, value.restrict known)) =
      Piece.parameters view query := by
  induction query with
  | nil => rfl
  | cons parameter query induction =>
      obtain ⟨name, piece⟩ := parameter
      cases piece with
      | text content =>
          simp only [List.map_cons, Piece.restrict_text, Piece.parameters,
            induction]
      | expr inner =>
          simp only [List.map_cons, Piece.restrict_expr, Piece.parameters,
            induction, Expr.eval_restrict same]

theorem Target.resolve_restrict (target : Target) :
    (target.restrict known).resolve view = target.resolve view := by
  cases target with
  | path name query =>
      rw [Target.restrict, Target.resolve, Target.resolve,
        Piece.parameters_restrict same]
  | dynamic expr =>
      rw [Target.restrict, Target.resolve, Target.resolve,
        Expr.eval_restrict same]

theorem Source.rows_restrict (source : Source) :
    (source.restrict known).rows view = source.rows view := by
  cases source with
  | collection expr =>
      rw [Source.restrict, Source.rows, Source.rows, Expr.eval_restrict same]
  | nested _ _ | path _ => rfl

end

/-! ## Runs -/

/-- An error without the text of the condition that cannot be evaluated. -/
def Error.blur : Error → Error
  | .condition _ message => .condition "" message
  | error => error

/-- An outcome in which errors do not show the text of a condition. -/
def Outcome.blur {α : Type} (outcome : Outcome α) : Outcome α :=
  outcome.map fun (result, world) => (result.mapError Error.blur, world)

theorem Outcome.blur_andThen {α β : Type} (outcome : Outcome α)
    (next : α → World → Outcome β) :
    (outcome.andThen next).blur =
      outcome.blur.andThen fun value world => (next value world).blur := by
  rcases outcome with _ | ⟨_ | value, world⟩ <;> rfl

namespace Scene

variable (scene : Scene) (runner : Option Runner)

theorem test_restrict {known : Catalog} {view : View}
    (same : view.filters.has = known) (condition : Condition) :
    (scene.test view (condition.restrict known)).mapError Error.blur =
      (scene.test view condition).mapError Error.blur := by
  rw [test, test, Condition.restrict, Piece.operands_restrict same]
  cases Piece.operands view condition.pieces with
  | error error => rfl
  | ok operands =>
      dsimp only
      cases scene.environment.conditions operands <;> rfl

/-- Going on from a test shows the text of its condition only in an error. -/
theorem mapError_map_of_test {α : Type} {answer other : Except Error Bool}
    (same : answer.mapError Error.blur = other.mapError Error.blur)
    (next : Bool → α) :
    (answer.map next).mapError Error.blur =
      (other.map next).mapError Error.blur := by
  cases answer with
  | error error =>
      cases other with
      | error otherError => exact congrArg Except.error (Except.error.inj same)
      | ok otherAnswer => cases same
  | ok answer =>
      cases other with
      | error otherError => cases same
      | ok otherAnswer =>
          cases same
          rfl

theorem assign_restrict (machine : Machine) (world : World) (name : String)
    (subscripts : List Argument) (pieces : List Piece) :
    machine.assign scene world name
        (Argument.restrictAll scene.environment.filters.has subscripts)
        (pieces.map (Piece.restrict scene.environment.filters.has)) =
      machine.assign scene world name subscripts pieces := by
  have same :
      (machine.view scene world).filters.has = scene.environment.filters.has :=
    rfl
  simp only [Machine.assign, Piece.assigned_restrict same,
    Argument.evalAll_restrictAll same]

theorem include_restrict (machine : Machine) (world : World) (target : Target)
    (once : Bool) (kind : InclusionKind) :
    scene.include runner machine world
        (target.restrict scene.environment.filters.has) once kind =
      scene.include runner machine world target once kind := by
  have same :
      (machine.view scene world).filters.has = scene.environment.filters.has :=
    rfl
  rw [Scene.include, Target.resolve_restrict same, Scene.include]

theorem step_restrict (instruction : Instruction) (machine : Machine)
    (world : World) :
    (scene.step runner (instruction.restrict scene.environment.filters.has)
        machine world).blur =
      (scene.step runner instruction machine world).blur := by
  have same :
      (machine.view scene world).filters.has = scene.environment.filters.has :=
    rfl
  cases instruction with
  | print expr => rw [Instruction.restrict, step, Expr.eval_restrict same, step]
  | set name subscripts value =>
      rw [Instruction.restrict, step, assign_restrict, step]
  | branch condition next =>
      simp only [Instruction.restrict, step, Outcome.blur, Option.map_some]
      rw [mapError_map_of_test (scene.test_restrict same condition)]
  | elseBranch condition next exit =>
      simp only [Instruction.restrict, step]
      split
      · simp only [Outcome.blur, Option.map_some]
        rw [mapError_map_of_test (scene.test_restrict same condition)]
      · rfl
  | openBlock id rowAlias source skip =>
      rw [Instruction.restrict, step, Source.rows_restrict same, step]
  | inclusion target once kind =>
      rw [Instruction.restrict, step, include_restrict, step]
  | _ => rfl

theorem run_restrict (program : Program) (steps : Nat) (machine : Machine)
    (world : World) :
    (scene.run runner (program.restrict scene.environment.filters.has) steps
        machine world).blur =
      (scene.run runner program steps machine world).blur := by
  induction steps generalizing machine world with
  | zero =>
      have restricted :=
        program.getElem?_restrict scene.environment.filters.has machine.position
      cases found : program.instructions[machine.position]? with
      | none =>
          rw [found, Option.map_none] at restricted
          rw [run_of_ended _ _ _ _ found, run_of_ended _ _ _ _ restricted]
      | some instruction =>
          rw [found, Option.map_some] at restricted
          rw [run_zero scene runner world found,
            run_zero scene runner world restricted]
  | succ steps induction =>
      have restricted :=
        program.getElem?_restrict scene.environment.filters.has machine.position
      cases found : program.instructions[machine.position]? with
      | none =>
          rw [found, Option.map_none] at restricted
          rw [run_of_ended _ _ _ _ found, run_of_ended _ _ _ _ restricted]
      | some instruction =>
          rw [found, Option.map_some] at restricted
          rw [run_succ scene runner steps world found,
            run_succ scene runner steps world restricted, Outcome.blur_andThen,
            Outcome.blur_andThen, step_restrict]
          congr 1
          funext machine world
          exact induction machine world

end Scene

namespace Environment

theorem execute_restrict (environment : Environment) (program : Program)
    (context : Context) (world : World) (steps : Nat) :
    (environment.execute steps (program.restrict environment.filters.has)
        context world).blur =
      (environment.execute steps program context world).blur := by
  cases visible : environment.visibleVars context with
  | error error => rw [execute, execute, visible]
  | ok vars =>
      have ran :=
        Scene.run_restrict ⟨environment, context.constants, context.blocks⟩
          (Scene.nested ⟨environment, context.constants, context.blocks⟩ steps
            maxInclusions) program steps { vars } { world with included := [] }
      rw [execute_of_visibleVars _ _ _ visible,
        execute_of_visibleVars _ _ _ visible, Outcome.blur_andThen,
        Outcome.blur_andThen, Scene.runner_eq, Scene.runner_eq, ran]

end Environment

/-- A source that is compiled ahead of time renders as one that the environment
compiles, or neither of them compiles.  Whatever both include, they take the
same steps to the same text or, but for the text of a condition, the same error,
and leave the same world; and both end if all other programs were compiled. -/
theorem execute_ahead_of_time (environment : Environment) (source : String) :
    (∃ error,
        compile environment.options Catalog.deferred source = .error error ∧
          compile environment.options environment.filters.has source =
            .error error) ∨
      ∃ ahead here,
        compile environment.options Catalog.deferred source = .ok ahead ∧
          compile environment.options environment.filters.has source =
            .ok here ∧
          ∀ context world,
            (∀ steps,
                (environment.execute steps ahead.program context world).blur =
                  (environment.execute steps here.program context world).blur) ∧
              (environment.OnlyCompiled → world.store.cache.OnlyCompiled →
                ∃ enough result other after,
                  result.mapError Error.blur = other.mapError Error.blur ∧
                    ∀ steps, enough ≤ steps →
                      environment.execute steps ahead.program context world =
                          some (result, after) ∧
                        environment.execute steps here.program context world =
                          some (other, after)) := by
  rcases compile_eq_or_restrict environment.filters.has environment.options
    source with
    refused | ⟨ahead, here, compilesAhead, compilesHere, program⟩
  · exact .inl refused
  · refine .inr
      ⟨ahead, here, compilesAhead, compilesHere, fun context world => ?_⟩
    have agree :
        ∀ steps, (environment.execute steps ahead.program context world).blur =
          (environment.execute steps here.program context world).blur := by
      intro steps
      rw [program, Environment.execute_restrict]
    refine ⟨agree, fun others cached => ?_⟩
    obtain ⟨enoughAhead, result, after, -, endedAhead⟩ :=
      Environment.settles_execute others context cached
        ⟨_, _, _, ahead, compilesAhead, rfl⟩
    obtain ⟨enoughHere, other, afterHere, -, endedHere⟩ :=
      Environment.settles_execute others context cached
        ⟨_, _, _, here, compilesHere, rfl⟩
    have same := agree (max enoughAhead enoughHere)
    dsimp only at endedAhead endedHere
    rw [endedAhead _ (Nat.le_max_left ..), endedHere _ (Nat.le_max_right ..)]
      at same
    simp only [Outcome.blur, Option.map_some, Option.some.injEq, Prod.mk.injEq]
      at same
    obtain ⟨sameResult, rfl⟩ := same
    refine ⟨max enoughAhead enoughHere, result, other, after, sameResult,
      fun steps many => ?_⟩
    exact ⟨endedAhead steps (by omega), endedHere steps (by omega)⟩

/-- A filter that an environment does not know is passed over. -/
theorem execute_ahead_of_time_unknown :
    ∃ ahead here, compile {} Catalog.deferred "{X|unknown}" = .ok ahead ∧
      compile {} Filters.builtin.has "{X|unknown}" = .ok here ∧
      ∃ enough result other after,
        result.mapError Error.blur = other.mapError Error.blur ∧
          ∀ steps, enough ≤ steps →
            Environment.execute {} steps ahead.program {}
                  ⟨{}, ⟨.memory [], .memory [], 0, 0⟩, []⟩ =
                some (result, after) ∧
              Environment.execute {} steps here.program {}
                  ⟨{}, ⟨.memory [], .memory [], 0, 0⟩, []⟩ =
                some (other, after) := by
  have compiles :
      (compile {} Catalog.deferred "{X|unknown}").toBool = true := by
    decide +kernel
  rcases execute_ahead_of_time {} "{X|unknown}" with
    ⟨error, refused, -⟩ | agrees
  · rw [refused] at compiles
    cases compiles
  · obtain ⟨ahead, here, compilesAhead, compilesHere, agree⟩ := agrees
    refine ⟨ahead, here, compilesAhead, compilesHere, ?_⟩
    apply (agree {} ⟨{}, ⟨.memory [], .memory [], 0, 0⟩, []⟩).2
    · intro name program found
      cases found
    · intro id program found
      cases found

end TemplateEngine
