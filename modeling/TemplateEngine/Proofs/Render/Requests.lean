import TemplateEngine.Proofs.Render.Steps

/-!
# What rendering does to a store

A run changes the store only by asking for the programs of the templates that it
includes.  What asking for one program keeps is therefore kept by every
rendering.
-/

namespace TemplateEngine

/-- Whether an inclusion is left out because its template was included
before. -/
def World.skips (world : World) (once : Bool) (name : String) : Prop :=
  (once &&
      world.included.contains
        (PathKey.ofPath (world.store.loader.locate name))) =
    true

/-- The world in which a template is included, which then counts as included if
it may be only once. -/
def World.marked (world : World) (once : Bool) (name : String) : World :=
  if once then
    { world with
      included :=
        PathKey.ofPath (world.store.loader.locate name) :: world.included }
  else world

theorem World.store_marked (world : World) (once : Bool) (name : String) :
    (world.marked once name).store = world.store := by
  cases once with
  | false => rfl
  | true => rfl

namespace Scene

/-! ## The cases of an inclusion -/

section

variable {scene : Scene} {machine : Machine} {world : World} {target : Target}
  {once : Bool} {kind : InclusionKind} {name : String}
  {parameters : List (String × Value)}

theorem include_of_error {error : Error} {runner : Option Runner}
    (failed : target.resolve (machine.view scene world) = .error error) :
    scene.include runner machine world target once kind =
      some (.error error, world) := by
  rw [Scene.include, failed]

/-- At the last level there are no inclusions. -/
theorem include_none
    (resolved :
      target.resolve (machine.view scene world) = .ok (name, parameters)) :
    scene.include none machine world target once kind =
      some (.error .inclusionDepth, world) := by
  rw [Scene.include, resolved]

theorem include_of_skips (inner : Runner)
    (resolved :
      target.resolve (machine.view scene world) = .ok (name, parameters))
    (again : world.skips once name) :
    scene.include (some inner) machine world target once kind =
      some (.ok "", world) := by
  rw [Scene.include, resolved]
  exact if_pos again

theorem include_some (inner : Runner)
    (resolved :
      target.resolve (machine.view scene world) = .ok (name, parameters))
    (fresh : ¬world.skips once name) :
    scene.include (some inner) machine world target once kind =
      (scene.renderNested inner machine.vars name parameters
          (world.marked once name)).map
        fun (result, world) => (kind.recover result, world) := by
  rw [Scene.include, resolved]
  exact if_neg fresh

/-- A step of an inclusion leaves the world that the inclusion leaves. -/
theorem exists_include_of_step {runner : Option Runner} {after : World}
    {result : Except Error Machine}
    (step : scene.step runner (.inclusion target once kind) machine world =
      some (result, after)) :
    ∃ inner, scene.include runner machine world target once kind =
      some (inner, after) := by
  rw [Scene.step] at step
  rcases included : scene.include runner machine world target once kind with
    _ | ⟨error | text, last⟩
  · rw [included] at step
    cases step
  · rw [included] at step
    cases step
    exact ⟨_, rfl⟩
  · rw [included] at step
    cases step
    exact ⟨_, rfl⟩

end

end Scene

/-! ## Requests -/

/-- The stores that result from asking for programs, one after the other. -/
inductive Environment.Serves (environment : Environment) (first : Store) :
    Store → Prop
  | start : environment.Serves first first
  | request {store : Store} (name : String) :
      environment.Serves first store →
      environment.Serves first (environment.program store name).2

namespace Environment.Serves

variable {environment : Environment} {first middle last : Store}

theorem trans (early : environment.Serves first middle)
    (late : environment.Serves middle last) :
    environment.Serves first last := by
  induction late with
  | start => exact early
  | request name _ induction => exact induction.request name

/-- What asking for one program keeps, asking for many keeps. -/
theorem keeps {holds : Store → Prop}
    (kept :
      ∀ store name, holds store → holds (environment.program store name).2)
    (serves : environment.Serves first last) (holdsFirst : holds first) :
    holds last := by
  induction serves with
  | start => exact holdsFirst
  | request name _ induction => exact kept _ name induction

end Environment.Serves

open Environment (Serves)

/-- A runner that changes the store only by asking for programs. -/
def Runner.Requests (environment : Environment) (runner : Runner) : Prop :=
  ∀ program vars world result after,
    runner program vars world = some (result, after) →
      environment.Serves world.store after.store

namespace Scene

variable {scene : Scene} {runner : Option Runner}

theorem serves_of_renderNested {inner : Runner}
    (requests : inner.Requests scene.environment) {vars : Table Binding}
    {name : String} {parameters : List (String × Value)} {world after : World}
    {result : Except Error String}
    (rendered : scene.renderNested inner vars name parameters world =
      some (result, after)) :
    scene.environment.Serves world.store after.store := by
  have asked : scene.environment.Serves world.store
      (scene.environment.program world.store name).2 := .request name .start
  rcases found : scene.environment.program world.store name with
    ⟨error | program, store⟩
  · rw [found] at asked
    rw [renderNested, found] at rendered
    cases rendered
    exact asked
  · rw [found] at asked
    rw [renderNested_of_program scene inner vars parameters found] at rendered
    rcases ran : inner program _ { world with store } with
      _ | ⟨_ | machine, last⟩
    · rw [ran] at rendered
      cases rendered
    · rw [ran] at rendered
      cases rendered
      exact asked.trans (requests _ _ _ _ _ ran)
    · rw [ran] at rendered
      cases rendered
      exact asked.trans (requests _ _ _ _ _ ran)

theorem serves_of_include
    (requests : ∀ inner, runner = some inner → inner.Requests scene.environment)
    {machine : Machine} {world after : World} {target : Target} {once : Bool}
    {kind : InclusionKind} {result : Except Error String}
    (included : scene.include runner machine world target once kind =
      some (result, after)) :
    scene.environment.Serves world.store after.store := by
  rcases resolved : target.resolve (machine.view scene world) with
    error | ⟨name, parameters⟩
  · rw [include_of_error resolved] at included
    cases included
    exact .start
  · cases runner with
    | none =>
        rw [include_none resolved] at included
        cases included
        exact .start
    | some inner =>
        by_cases again : world.skips once name
        · rw [include_of_skips inner resolved again] at included
          cases included
          exact .start
        · rw [include_some inner resolved again, Option.map_eq_some_iff]
            at included
          obtain ⟨⟨text, last⟩, rendered, same⟩ := included
          cases same
          have serves := serves_of_renderNested (requests inner rfl) rendered
          rwa [World.store_marked] at serves

/-- An assignment leaves the store as it is. -/
theorem store_of_assign {machine next : Machine} {world after : World}
    {name : String} {subscripts : List Argument} {pieces : List Piece}
    (assigned :
      machine.assign scene world name subscripts pieces = .ok (next, after)) :
    after.store = world.store := by
  unfold Machine.assign at assigned
  dsimp only at assigned
  split at assigned
  · cases assigned
  · split at assigned
    · cases assigned
    · cases assigned
      rfl

theorem serves_of_step
    (requests : ∀ inner, runner = some inner → inner.Requests scene.environment)
    {instruction : Instruction} {machine : Machine} {world after : World}
    {result : Except Error Machine}
    (step :
      scene.step runner instruction machine world = some (result, after)) :
    scene.environment.Serves world.store after.store := by
  cases instruction with
  | set name subscripts value =>
      rw [Scene.step] at step
      rcases assigned : machine.assign scene world name subscripts value with
        _ | ⟨next, last⟩
      · rw [assigned] at step
        cases step
        exact .start
      · rw [assigned] at step
        cases step
        rw [store_of_assign assigned]
        exact .start
  | inclusion target once kind =>
      rw [Scene.step] at step
      rcases included : scene.include runner machine world target once kind with
        _ | ⟨_ | text, last⟩
      · rw [included] at step
        cases step
      · rw [included] at step
        cases step
        exact serves_of_include requests included
      · rw [included] at step
        cases step
        exact serves_of_include requests included
  | elseBranch condition next exit =>
      rw [Scene.step] at step
      dsimp only at step
      split at step
      · cases step
        exact .start
      · cases step
        exact .start
  | _ =>
      cases step
      exact .start

theorem serves_of_run
    (requests : ∀ inner, runner = some inner → inner.Requests scene.environment)
    {program : Program} {steps : Nat} {machine : Machine} {world after : World}
    {result : Except Error Machine}
    (ran :
      scene.run runner program steps machine world = some (result, after)) :
    scene.environment.Serves world.store after.store := by
  induction steps generalizing machine world with
  | zero =>
      cases found : program.instructions[machine.position]? with
      | none =>
          rw [run_of_ended _ _ _ _ found] at ran
          cases ran
          exact .start
      | some instruction =>
          rw [run_zero scene runner world found] at ran
          cases ran
  | succ steps induction =>
      cases found : program.instructions[machine.position]? with
      | none =>
          rw [run_of_ended _ _ _ _ found] at ran
          cases ran
          exact .start
      | some instruction =>
          rw [run_succ scene runner steps world found] at ran
          rcases stepped : scene.step runner instruction machine world with
            _ | ⟨_ | next, middle⟩
          · rw [stepped] at ran
            cases ran
          · rw [stepped] at ran
            cases ran
            exact serves_of_step requests stepped
          · rw [stepped] at ran
            exact (serves_of_step requests stepped).trans (induction ran)

theorem requests_runner (scene : Scene) (steps levels : Nat) :
    (scene.runner steps levels).Requests scene.environment := by
  induction levels with
  | zero =>
      intro program vars world result after ran
      apply serves_of_run _ ran
      intro inner none
      cases none
  | succ levels induction =>
      intro program vars world result after ran
      apply serves_of_run _ ran
      intro inner same
      cases same
      exact induction

end Scene

namespace Environment

variable {environment : Environment}

/-- A program is rendered by the runner for all levels of inclusions. -/
theorem execute_of_visibleVars {context : Context} {vars : Table Binding}
    (steps : Nat) (program : Program) (world : World)
    (visible : environment.visibleVars context = .ok vars) :
    environment.execute steps program context world =
      (Scene.runner ⟨environment, context.constants, context.blocks⟩ steps
        maxInclusions program vars { world with included := [] }).andThen
        fun machine world => some (.ok machine.output, world) := by
  rw [execute, visible]
  dsimp only
  rcases Scene.runner _ steps maxInclusions program vars _ with
    _ | ⟨_ | _, _⟩ <;> rfl

theorem serves_of_execute {steps : Nat} {program : Program} {context : Context}
    {world after : World} {result : Except Error String}
    (executed :
      environment.execute steps program context world = some (result, after)) :
    environment.Serves world.store after.store := by
  cases visible : environment.visibleVars context with
  | error error =>
      rw [execute, visible] at executed
      cases executed
      exact .start
  | ok vars =>
      rw [execute_of_visibleVars steps program world visible] at executed
      have requests :=
        Scene.requests_runner ⟨environment, context.constants, context.blocks⟩
          steps maxInclusions program vars { world with included := [] }
      rcases ran :
        Scene.runner ⟨environment, context.constants, context.blocks⟩ steps
          maxInclusions program vars { world with included := [] } with
        _ | ⟨_ | machine, last⟩
      · rw [ran] at executed
        cases executed
      · rw [ran] at executed
        cases executed
        exact requests _ _ ran
      · rw [ran] at executed
        cases executed
        exact requests _ _ ran

theorem serves_of_renderSource {steps : Nat} {source : String}
    {context : Context} {world after : World} {result : Except Error String}
    (rendered : environment.renderSource steps source context world =
      some (result, after)) :
    environment.Serves world.store after.store := by
  rw [renderSource] at rendered
  cases compiles : environment.compile source with
  | error error =>
      rw [compiles] at rendered
      cases rendered
      exact .start
  | ok compiled =>
      rw [compiles] at rendered
      exact serves_of_execute rendered

/-- Rendering a template asks for programs and changes the store in no other
way. -/
theorem serves_of_render {steps : Nat} {name : String} {context : Context}
    {world after : World} {result : Except Error String}
    (rendered :
      environment.render steps name context world = some (result, after)) :
    environment.Serves world.store after.store := by
  have asked :
      environment.Serves world.store (environment.program world.store name).2 :=
    .request name .start
  unfold render at rendered
  rcases found : environment.program world.store name with
    ⟨error | program, store⟩
  · rw [found] at asked rendered
    cases rendered
    exact asked
  · rw [found] at asked rendered
    exact asked.trans (serves_of_execute rendered)

end Environment
end TemplateEngine
