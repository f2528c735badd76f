import TemplateEngine.Render.Machine

/-!
# Enough steps

A run that is cut off after a number of steps has no result.  One that ends has
the same result with any greater number of steps, for itself and for the runs of
the templates it includes.  What a program does is therefore told by its results
with enough steps.
-/

namespace TemplateEngine

namespace Outcome

/-- Goes on with the result of a part of a run, unless that failed or was cut
off. -/
def andThen {α β : Type} (outcome : Outcome α) (next : α → World → Outcome β) :
    Outcome β :=
  match outcome with
  | none => none
  | some (.error error, world) => some (.error error, world)
  | some (.ok value, world) => next value world

@[simp] theorem andThen_none {α β : Type} (next : α → World → Outcome β) :
    andThen none next = none :=
  rfl

@[simp] theorem andThen_error {α β : Type} (error : Error) (world : World)
    (next : α → World → Outcome β) :
    andThen (some (.error error, world)) next = some (.error error, world) :=
  rfl

@[simp] theorem andThen_ok {α β : Type} (value : α) (world : World)
    (next : α → World → Outcome β) :
    andThen (some (.ok value, world)) next = next value world :=
  rfl

theorem andThen_assoc {α β γ : Type} (outcome : Outcome α)
    (next : α → World → Outcome β) (last : β → World → Outcome γ) :
    andThen (andThen outcome next) last =
      andThen outcome fun value world => andThen (next value world) last := by
  rcases outcome with _ | ⟨_ | value, world⟩ <;> rfl

/-- Going on with the result itself changes nothing. -/
@[simp] theorem andThen_pure {α : Type} (outcome : Outcome α) :
    (andThen outcome fun value world => some (.ok value, world)) = outcome := by
  rcases outcome with _ | ⟨_ | value, world⟩ <;> rfl

/-- An outcome with at least as many steps: it is the same unless the other one
was cut off. -/
def Extends {α : Type} (more less : Outcome α) : Prop :=
  ∀ result, less = some result → more = some result

theorem Extends.refl {α : Type} (outcome : Outcome α) :
    Extends outcome outcome :=
  fun _ ended => ended

theorem extends_none {α : Type} (outcome : Outcome α) :
    Extends outcome none := by
  intro result ended
  cases ended

theorem Extends.andThen {α β : Type} {more less : Outcome α}
    {moreNext lessNext : α → World → Outcome β} (first : Extends more less)
    (second :
      ∀ value world, Extends (moreNext value world) (lessNext value world)) :
    Extends (Outcome.andThen more moreNext)
      (Outcome.andThen less lessNext) := by
  intro result ended
  rcases less with _ | ⟨_ | value, world⟩
  · cases ended
  · rw [first _ rfl]
    exact ended
  · rw [first _ rfl]
    exact second value world result ended

theorem Extends.map {α β : Type} {more less : Outcome α}
    (first : Extends more less)
    (change : Except Error α × World → Except Error β × World) :
    Extends (Option.map change more) (Option.map change less) := by
  intro result ended
  obtain ⟨inner, innerEnded, rfl⟩ := Option.map_eq_some_iff.mp ended
  rw [first inner innerEnded]
  rfl

end Outcome

open Outcome (Extends)

/-- A runner with at least as many steps, for the same levels of inclusions. -/
inductive Runner.Extends : Option Runner → Option Runner → Prop
  | none : Runner.Extends none none
  | some {more less : Runner} :
      (∀ program vars world,
        Outcome.Extends (more program vars world) (less program vars world)) →
      Runner.Extends (some more) (some less)

theorem Runner.Extends.refl (runner : Option Runner) :
    Runner.Extends runner runner := by
  cases runner with
  | none => exact .none
  | some runner => exact .some fun _ _ _ => .refl _

namespace Scene

/-- A template whose program is found is rendered by the runner. -/
theorem renderNested_of_program (scene : Scene) (runner : Runner)
    {world : World} {name : String} {program : Program} {store : Store}
    (vars : Table Binding) (parameters : List (String × Value))
    (found :
      scene.environment.program world.store name = (.ok program, store)) :
    scene.renderNested runner vars name parameters world =
      (runner program
        (Table.insertAll vars
          (parameters.map fun (name, value) => (name, Binding.owned value)))
        { world with store }).andThen
          fun machine world => some (.ok machine.output, world) := by
  rw [renderNested, found]
  dsimp only
  rcases runner program _ _ with _ | ⟨_ | _, _⟩ <;> rfl

theorem renderNested_extends (scene : Scene) {more less : Runner}
    (longer : ∀ program vars world,
      Extends (more program vars world) (less program vars world))
    (vars : Table Binding) (name : String) (parameters : List (String × Value))
    (world : World) :
    Extends (scene.renderNested more vars name parameters world)
      (scene.renderNested less vars name parameters world) := by
  rcases found : scene.environment.program world.store name with
    ⟨_ | program, store⟩
  · rw [renderNested, renderNested, found]
    exact .refl _
  · rw [renderNested_of_program scene more vars parameters found,
      renderNested_of_program scene less vars parameters found]
    exact (longer _ _ _).andThen fun _ _ => .refl _

theorem include_extends (scene : Scene) {more less : Option Runner}
    (longer : Runner.Extends more less) (machine : Machine) (world : World)
    (target : Target) (once : Bool) (kind : InclusionKind) :
    Extends (scene.include more machine world target once kind)
      (scene.include less machine world target once kind) := by
  unfold Scene.include
  rcases target.resolve (machine.view scene world) with _ | ⟨name, parameters⟩
  · exact .refl _
  · cases longer with
    | none => exact .refl _
    | some longer =>
        dsimp only
        split
        · exact .refl _
        · exact (scene.renderNested_extends longer _ _ _ _).map _

theorem step_extends (scene : Scene) {more less : Option Runner}
    (longer : Runner.Extends more less) (instruction : Instruction)
    (machine : Machine) (world : World) :
    Extends (scene.step more instruction machine world)
      (scene.step less instruction machine world) := by
  cases instruction with
  | inclusion target once kind =>
      intro result ended
      have included :=
        scene.include_extends longer machine world target once kind
      simp only [step] at ended ⊢
      rcases less : scene.include less machine world target once kind with
        _ | outcome
      · rw [less] at ended
        cases ended
      · rw [less] at ended
        rw [included outcome less]
        exact ended
  | _ => exact .refl _

/-- A step of an inclusion prints the rendered template. -/
theorem step_inclusion (scene : Scene) (runner : Option Runner)
    (machine : Machine) (world : World) (target : Target) (once : Bool)
    (kind : InclusionKind) :
    scene.step runner (.inclusion target once kind) machine world =
      (scene.include runner machine world target once kind).andThen
        fun text world => some (.ok (machine.write text).advance, world) := by
  rw [step]
  rcases scene.include runner machine world target once kind with
    _ | ⟨_ | _, _⟩ <;> rfl

/-- One more step of a run: the next instruction, and then the rest. -/
theorem run_succ (scene : Scene) (runner : Option Runner) {program : Program}
    {instruction : Instruction} {machine : Machine} (steps : Nat)
    (world : World)
    (next : program.instructions[machine.position]? = some instruction) :
    scene.run runner program (steps + 1) machine world =
      (scene.step runner instruction machine world).andThen
        (scene.run runner program steps) := by
  rw [run, next]
  dsimp only
  rcases scene.step runner instruction machine world with _ | ⟨_ | _, _⟩ <;> rfl

/-- Without steps left, a run that is not over is cut off. -/
theorem run_zero (scene : Scene) (runner : Option Runner) {program : Program}
    {instruction : Instruction} {machine : Machine} (world : World)
    (next : program.instructions[machine.position]? = some instruction) :
    scene.run runner program 0 machine world = none := by
  rw [run, next]

/-- A run is over after the last instruction. -/
theorem run_of_ended (scene : Scene) (runner : Option Runner)
    {program : Program} {machine : Machine} (steps : Nat) (world : World)
    (ended : program.instructions[machine.position]? = none) :
    scene.run runner program steps machine world =
      some (.ok machine, world) := by
  cases steps <;> simp [run, ended]

theorem run_extends (scene : Scene) {more less : Option Runner}
    (longer : Runner.Extends more less) (program : Program) {fewer steps : Nat}
    (enough : fewer ≤ steps) (machine : Machine) (world : World) :
    Extends (scene.run more program steps machine world)
      (scene.run less program fewer machine world) := by
  induction fewer generalizing steps machine world with
  | zero =>
      cases found : program.instructions[machine.position]? with
      | none =>
          rw [run_of_ended _ _ _ _ found, run_of_ended _ _ _ _ found]
          exact .refl _
      | some instruction =>
          rw [run_zero scene less world found]
          exact Outcome.extends_none _
  | succ fewer induction =>
      obtain ⟨steps, rfl⟩ : ∃ rest, steps = rest + 1 := ⟨steps - 1, by omega⟩
      cases found : program.instructions[machine.position]? with
      | none =>
          rw [run_of_ended _ _ _ _ found, run_of_ended _ _ _ _ found]
          exact .refl _
      | some instruction =>
          rw [run_succ _ _ _ _ found, run_succ _ _ _ _ found]
          exact (scene.step_extends longer instruction machine world).andThen
            fun machine world => induction (by omega) machine world

/-- The runner of the templates that a program includes: there is none at the
last level. -/
def nested (scene : Scene) (steps : Nat) : (levels : Nat) → Option Runner
  | 0 => none
  | levels + 1 => some (scene.runner steps levels)

theorem runner_eq (scene : Scene) (steps levels : Nat) (program : Program)
    (vars : Table Binding) (world : World) :
    scene.runner steps levels program vars world =
      scene.run (scene.nested steps levels) program steps { vars } world := by
  cases levels <;> rfl

theorem nested_extends (scene : Scene) {fewer steps : Nat}
    (enough : fewer ≤ steps) (levels : Nat) :
    Runner.Extends (scene.nested steps levels) (scene.nested fewer levels) := by
  induction levels with
  | zero => exact .none
  | succ levels induction =>
      apply Runner.Extends.some
      intro program vars world
      rw [runner_eq, runner_eq]
      exact scene.run_extends induction program enough _ world

/-- A program that ends has the same result with more steps. -/
theorem runner_extends (scene : Scene) {fewer steps : Nat}
    (enough : fewer ≤ steps) (levels : Nat) (program : Program)
    (vars : Table Binding) (world : World) :
    Extends (scene.runner steps levels program vars world)
      (scene.runner fewer levels program vars world) := by
  rw [runner_eq, runner_eq]
  exact scene.run_extends (scene.nested_extends enough levels) program enough _
    world

end Scene
end TemplateEngine
