import TemplateEngine.Proofs.Render.Journal
import TemplateEngine.Proofs.Render.Requests

/-!
# What a rendering does besides printing

A rendering assigns to variables and includes templates, and so do the templates
that it includes.
-/

namespace TemplateEngine

/-- An assignment or an inclusion, with the values that it is made with. -/
inductive Deed
  | assignment (name : String) (keys : List Value) (value : Value)
  | inclusion (name : String) (parameters : List (String × Value)) (once : Bool)
      (kind : InclusionKind)

namespace Scene

/-- What is done in the template of an inclusion, unless it is left out or
missing. -/
def deedsWithin (scene : Scene)
    (inside : Program → Table Binding → World → List Deed)
    (vars : Table Binding) (world : World) (once : Bool) (name : String)
    (parameters : List (String × Value)) : List Deed :=
  if once && world.included.contains
    (PathKey.ofPath (world.store.loader.locate name)) then []
  else
    match scene.environment.program world.store name with
    | (.error _, _) => []
    | (.ok program, store) =>
      inside program
        (Table.insertAll vars
          (parameters.map fun (name, value) => (name, Binding.owned value)))
        { world.marked once name with store }

/-- What an instruction does, and for an inclusion what is done in its
template. -/
def deedsAt (scene : Scene)
    (inside : Program → Table Binding → World → List Deed)
    (instruction : Instruction) (machine : Machine) (world : World) :
    List Deed :=
  let view := machine.view scene world
  match instruction with
  | .set name subscripts value =>
    match Piece.assigned view value, Argument.evalAll view subscripts with
    | .ok value, .ok keys => [.assignment name keys value]
    | _, _ => []
  | .inclusion target once kind =>
    match target.resolve view with
    | .ok (name, parameters) =>
      .inclusion name parameters once kind ::
        scene.deedsWithin inside machine.vars world once name parameters
    | .error _ => []
  | _ => []

/-- What a run and all runs that are nested in it do, in the order in which it
is done. -/
def deeds (scene : Scene) (steps : Nat) :
    (levels : Nat) → Program → Table Binding → World → List Deed
  | 0, program, vars, world =>
    scene.journal none (scene.deedsAt fun _ _ _ => []) program steps { vars }
      world
  | levels + 1, program, vars, world =>
    scene.journal (some (scene.runner steps levels))
      (scene.deedsAt (deeds scene steps levels)) program steps { vars } world

/-- What is done in the templates that a program includes: nothing at the last
level. -/
def deedsNested (scene : Scene) (steps : Nat) :
    (levels : Nat) → Program → Table Binding → World → List Deed
  | 0 => fun _ _ _ => []
  | levels + 1 => scene.deeds steps levels

theorem deeds_eq (scene : Scene) (steps levels : Nat) (program : Program)
    (vars : Table Binding) (world : World) :
    scene.deeds steps levels program vars world =
      scene.journal (scene.nested steps levels)
        (scene.deedsAt (scene.deedsNested steps levels)) program steps { vars }
        world := by
  cases levels <;> rfl

variable {scene : Scene}

/-- What is done in the template of an inclusion that ends is told by the runs
that end. -/
theorem deedsAt_of_step {runner : Runner}
    {inside other : Program → Table Binding → World → List Deed}
    (alike :
      ∀ {program vars world result}, runner program vars world = some result →
        inside program vars world = other program vars world)
    {instruction : Instruction} {machine : Machine} {world : World}
    {result : Except Error Machine × World}
    (step : scene.step (some runner) instruction machine world = some result) :
    scene.deedsAt inside instruction machine world =
      scene.deedsAt other instruction machine world := by
  cases instruction with
  | inclusion target once kind =>
      obtain ⟨outcome, included⟩ := exists_include_of_step step
      simp only [deedsAt]
      rcases resolved : target.resolve (machine.view scene world) with
        error | ⟨name, parameters⟩
      · rfl
      · simp only [deedsWithin]
        split
        next => rfl
        next fresh =>
          rw [include_some runner resolved fresh] at included
          obtain ⟨nested, rendered, -⟩ := Option.map_eq_some_iff.mp included
          rcases found : scene.environment.program world.store name with
            ⟨error | program, store⟩
          · rfl
          · rw [renderNested_of_program scene runner _ _
                ((congrArg (scene.environment.program · name)
                  (world.store_marked once name)).trans found)] at rendered
            dsimp only
            cases ran :
              runner program
                (Table.insertAll machine.vars (parameters.map
                  fun (name, value) => (name, Binding.owned value)))
                { world.marked once name with store } with
            | none =>
                rw [ran] at rendered
                cases rendered
            | some ended => rw [alike ran]
  | _ => rfl

/-- A run that ends does the same with more steps. -/
theorem deeds_extends {fewer steps : Nat} (enough : fewer ≤ steps)
    (levels : Nat) {program : Program} {vars : Table Binding} {world : World}
    {result : Except Error Machine × World}
    (ended : scene.runner fewer levels program vars world = some result) :
    scene.deeds steps levels program vars world =
      scene.deeds fewer levels program vars world := by
  induction levels generalizing program vars world result with
  | zero => exact scene.journal_extends _ _ .none enough ended
  | succ levels induction =>
      -- first the run takes more steps, and then the templates that it includes
      have longer := scene.nested_extends enough (levels + 1)
      calc scene.deeds steps (levels + 1) program vars world
        _ =
            scene.journal (some (scene.runner fewer levels))
              (scene.deedsAt (scene.deeds steps levels)) program fewer { vars }
              world :=
            scene.journal_extends _ _ longer enough ended
        _ = scene.deeds fewer (levels + 1) program vars world :=
            scene.journal_congr _ _ _ (deedsAt_of_step induction) ended

end Scene

/-- What a rendering does besides printing. -/
def Environment.deeds (environment : Environment) (steps : Nat)
    (program : Program) (context : Context) (world : World) : List Deed :=
  match environment.visibleVars context with
  | .error _ => []
  | .ok vars =>
    Scene.deeds ⟨environment, context.constants, context.blocks⟩ steps
      maxInclusions program vars { world with included := [] }

end TemplateEngine
