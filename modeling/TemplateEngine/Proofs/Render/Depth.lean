import Mathlib
import TemplateEngine.Proofs.Render.Ending
import TemplateEngine.Proofs.Render.Errors
import TemplateEngine.Proofs.Render.Scopes

/-!
# Nested inclusions

An inclusion starts a run within the run that it is in.  Runs are nested as deep
as there are levels, and an inclusion at the last level makes the whole
rendering fail.
-/

namespace TemplateEngine

/-- What a run of a program starts with. -/
structure Run where
  program : Program
  vars : Table Binding
  world : World

namespace Scene

/-- Whether a run comes to an inclusion whose template and parameters can be
told. -/
structure ComesTo (scene : Scene) (runner : Option Runner) (run : Run)
    (machine : Machine) (world : World) (target : Target) (once : Bool)
    (kind : InclusionKind) (name : String)
    (parameters : List (String × Value)) : Prop where
  visited :
    scene.Reaches runner run.program { vars := run.vars } run.world machine
      world
  instruction : run.program.instructions[machine.position]? =
    some (.inclusion target once kind)
  resolved : target.resolve (machine.view scene world) = .ok (name, parameters)

/-- Whether an inclusion of a run starts another run. -/
inductive Includes (scene : Scene) (runner : Option Runner) (outer : Run) :
    Run → Prop
  | inclusion {machine : Machine} {world : World} {target : Target}
      {once : Bool} {kind : InclusionKind} {name : String}
      {parameters : List (String × Value)} {program : Program} {store : Store} :
      scene.ComesTo runner outer machine world target once kind name
        parameters →
      ¬world.skips once name →
      scene.environment.program world.store name = (.ok program, store) →
      Includes scene runner outer ⟨program,
        Table.insertAll machine.vars
          (parameters.map fun (name, value) => (name, Binding.owned value)),
        { world.marked once name with store }⟩

/-- The runs that are nested in a first one, with their depth and the levels
that are left. -/
inductive Active (scene : Scene) (steps : Nat) (first : Run) :
    (depth levels : Nat) → Run → Prop
  | first : Active scene steps first 0 maxInclusions first
  | inclusion {depth levels : Nat} {outer inner : Run} :
      Active scene steps first depth (levels + 1) outer →
      scene.Includes (scene.nested steps (levels + 1)) outer inner →
      Active scene steps first (depth + 1) levels inner

theorem Active.depth_add_levels {scene : Scene} {steps depth levels : Nat}
    {first run : Run} (active : scene.Active steps first depth levels run) :
    depth + levels = maxInclusions := by
  induction active with
  | first => exact Nat.zero_add maxInclusions
  | inclusion _ _ induction => omega

/-! ## More steps -/

theorem Reaches.extends {scene : Scene} {more less : Option Runner}
    (longer : Runner.Extends more less) {program : Program}
    {first machine : Machine} {origin world : World}
    (reaches : scene.Reaches less program first origin machine world) :
    scene.Reaches more program first origin machine world := by
  induction reaches with
  | start => exact .start
  | step _ found stepped induction =>
      exact induction.step found (scene.step_extends longer _ _ _ _ stepped)

theorem Includes.extends {scene : Scene} {more less : Option Runner}
    (longer : Runner.Extends more less) {outer inner : Run}
    (includes : scene.Includes less outer inner) :
    scene.Includes more outer inner := by
  obtain ⟨comesTo, fresh, found⟩ := includes
  have longerComesTo :=
    { comesTo with visited := comesTo.visited.extends longer }
  exact .inclusion longerComesTo fresh found

/-- From a state that a run reaches, it goes on as from its start with more
steps. -/
theorem Reaches.exists_run_eq {scene : Scene} {runner : Option Runner}
    {program : Program} {first machine : Machine} {origin world : World}
    (reaches : scene.Reaches runner program first origin machine world) :
    ∃ needed, ∀ steps, scene.run runner program (needed + steps) first origin =
      scene.run runner program steps machine world := by
  induction reaches with
  | start => exact ⟨0, fun steps => by rw [Nat.zero_add]⟩
  | @step machine next world after instruction _ found stepped induction =>
      obtain ⟨needed, same⟩ := induction
      refine ⟨needed + 1, fun steps => ?_⟩
      calc
        scene.run runner program (needed + 1 + steps) first origin
        _ = scene.run runner program (steps + 1) machine world := by
          rw [← same (steps + 1)]
          congr 1
          omega
        _ = scene.run runner program steps next after := by
          rw [run_succ scene runner steps world found, stepped,
            Outcome.andThen_ok]

/-! ## Failing inclusions -/

/-- Whether a run fails with an error, given enough steps. -/
def FailsAt (scene : Scene) (levels : Nat) (run : Run) (error : Error) : Prop :=
  ∃ enough after, ∀ steps, enough ≤ steps →
    scene.runner steps levels run.program run.vars run.world =
      some (.error error, after)

section

variable {scene : Scene} {steps levels : Nat} {error : Error}

/-- A run fails with an instruction that it comes to. -/
theorem Reaches.failsAt {run : Run} {instruction : Instruction}
    {machine : Machine} {world after : World}
    (reaches :
      scene.Reaches (scene.nested steps levels) run.program { vars := run.vars }
        run.world machine world)
    (found : run.program.instructions[machine.position]? = some instruction)
    (failed : scene.step (scene.nested steps levels) instruction machine world =
      some (.error error, after)) :
    scene.FailsAt levels run error := by
  obtain ⟨needed, same⟩ := reaches.exists_run_eq
  have ran :
      scene.run (scene.nested steps levels) run.program (needed + 1)
          { vars := run.vars } run.world =
        some (.error error, after) := by
    rw [same, run_succ scene _ 0 world found, failed, Outcome.andThen_error]
  refine ⟨max steps (needed + 1), after, fun more many => ?_⟩
  have longer := scene.nested_extends (show steps ≤ more by omega) levels
  rw [runner_eq]
  exact scene.run_extends longer run.program
    (show needed + 1 ≤ more by omega) _ _ _ ran

/-- A run fails with an inclusion that it comes to. -/
theorem ComesTo.failsAt {run : Run} {machine : Machine} {world after : World}
    {target : Target} {once : Bool} {kind : InclusionKind} {name : String}
    {parameters : List (String × Value)}
    (comesTo :
      scene.ComesTo (scene.nested steps levels) run machine world target once
        kind name parameters)
    (failed :
      scene.include (scene.nested steps levels) machine world target once kind =
        some (.error error, after)) :
    scene.FailsAt levels run error := by
  apply comesTo.visited.failsAt comesTo.instruction
  rw [step, failed]

/-- No inclusion recovers from an error that comes out of a run. -/
theorem FailsAt.of_includes {outer inner : Run}
    (fails : scene.FailsAt levels inner error)
    (includes : scene.Includes (scene.nested steps (levels + 1)) outer inner) :
    scene.FailsAt (levels + 1) outer error := by
  obtain ⟨enough, after, failed⟩ := fails
  have longer :=
    scene.nested_extends (Nat.le_max_left steps enough) (levels + 1)
  have failedAt := failed _ (Nat.le_max_right steps enough)
  have surfaces := scene.surfacing_runner _ _ _ _ _ _ _ failedAt error rfl
  obtain @⟨_, _, _, _, kind, _, _, _, _, comesTo, fresh, found⟩ :=
    includes.extends longer
  apply comesTo.failsAt
  rw [nested, include_some _ comesTo.resolved fresh,
    renderNested_of_program _ _ _ _ ((World.store_marked ..).symm ▸ found),
    failedAt]
  exact congrArg (fun result => some (result, after))
    (kind.recover_of_surfaces surfaces)

theorem Active.failsAt {depth : Nat} {first run : Run}
    (active : scene.Active steps first depth levels run)
    (fails : scene.FailsAt levels run error) :
    scene.FailsAt maxInclusions first error := by
  induction active with
  | first => exact fails
  | inclusion _ includes induction =>
      exact induction (fails.of_includes includes)

/-- A run that includes itself is active at every depth. -/
theorem active_of_includes_self {run : Run}
    (includes : ∀ runner, scene.Includes (some runner) run run) {depth : Nat}
    (room : depth + levels = maxInclusions) :
    scene.Active steps run depth levels run := by
  induction depth generalizing levels with
  | zero =>
      rw [Nat.zero_add] at room
      rw [room]
      exact .first
  | succ depth induction => exact .inclusion (induction (by omega)) (includes _)

end

end Scene

/-- If all programs that come in were compiled, every rendering ends with a text
or an error.  Inclusions are nested no deeper than there are levels, and if an
inclusion whose template can be told comes up at that depth, the rendering fails
with it. -/
theorem Environment.render_ends {environment : Environment}
    (ahead : environment.OnlyCompiled) {world : World}
    (compiled : world.store.cache.OnlyCompiled) (name : String)
    (context : Context) :
    (∃ enough result after, ∀ steps, enough ≤ steps →
        environment.render steps name context world = some (result, after)) ∧
      ∀ vars, environment.visibleVars context = .ok vars →
        ∀ program steps depth levels run,
          Scene.Active ⟨environment, context.constants, context.blocks⟩ steps
              ⟨program, vars, { world with included := [] }⟩ depth levels run →
            depth ≤ maxInclusions ∧
              (depth = maxInclusions →
                ∀ machine inside target once kind found parameters,
                  Scene.ComesTo ⟨environment, context.constants, context.blocks⟩
                      (Scene.nested ⟨environment, context.constants,
                        context.blocks⟩ steps levels) run machine inside target
                      once kind found parameters →
                    ∃ enough after, ∀ steps, enough ≤ steps →
                      environment.execute steps program context world =
                        some (.error .inclusionDepth, after)) := by
  constructor
  · obtain ⟨enough, result, after, -, ended⟩ :=
      settles_render ahead context compiled name
    exact ⟨enough, result, after, ended⟩
  · intro vars visible program steps depth levels run active
    have total := active.depth_add_levels
    refine ⟨by omega, ?_⟩
    intro deepest machine inside target once kind found parameters comesTo
    obtain rfl : levels = 0 := by omega
    have failsInside := comesTo.failsAt (Scene.include_none comesTo.resolved)
    obtain ⟨enough, after, failed⟩ := active.failsAt failsInside
    refine ⟨enough, after, fun steps many => ?_⟩
    rw [execute_of_visibleVars steps program world visible, failed steps many]
    rfl

/-- A template that includes itself fails at the last level. -/
theorem Environment.render_ends_loop :
    let loop : Program := ⟨[.inclusion (.path "a" []) false .optional]⟩
    let environment : Environment := { preloaded := [("a", loop)] }
    let world : World := ⟨{}, ⟨.memory [], .memory [], 0, 0⟩, []⟩
    (∃ enough result after, ∀ steps, enough ≤ steps →
      environment.render steps "a" {} world = some (result, after)) ∧
    ∃ enough after, ∀ steps, enough ≤ steps →
      environment.execute steps loop {} world =
        some (.error .inclusionDepth, after) := by
  intro loop environment world
  have isCompiled : loop.IsCompiled :=
    ⟨{}, Catalog.deferred, "<include tpl=\"a\" />", ⟨loop, []⟩, by cbv, rfl⟩
  have ahead : environment.OnlyCompiled := by
    intro name program found
    obtain ⟨before, after, entries, -⟩ := List.lookup_eq_some_iff.mp found
    have member : (name, program) ∈ environment.preloaded := by
      rw [entries]
      exact List.mem_append_right before List.mem_cons_self
    cases List.mem_singleton.mp member
    exact isCompiled
  have compiled : world.store.cache.OnlyCompiled := by
    intro id program found
    cases found
  have comesTo :
      ∀ runner,
        Scene.ComesTo ⟨environment, [], []⟩ runner ⟨loop, [], world⟩
          { vars := [] } world (.path "a" []) false .optional "a" [] :=
    fun runner => ⟨.start, rfl, rfl⟩
  have includes :
      ∀ runner,
        Scene.Includes ⟨environment, [], []⟩ (some runner) ⟨loop, [], world⟩
          ⟨loop, [], world⟩ :=
    fun runner => .inclusion (comesTo (some runner)) (by simp [World.skips]) rfl
  obtain ⟨ends, nests⟩ := Environment.render_ends ahead compiled "a" {}
  refine ⟨ends, ?_⟩
  obtain ⟨-, fails⟩ := nests [] rfl loop 0 maxInclusions 0 ⟨loop, [], world⟩
    (Scene.active_of_includes_self includes rfl)
  exact fails rfl _ _ _ _ _ _ _ (comesTo _)

end TemplateEngine
