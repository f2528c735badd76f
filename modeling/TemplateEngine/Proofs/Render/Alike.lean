import TemplateEngine.Proofs.Render.Requests
import TemplateEngine.Proofs.Store.Memory

/-!
# Stores that answer alike

A run reads a store only by asking for programs.  Where two stores in memory
answer alike, whatever they hold, everything is rendered alike; and a store
answers alike before and behind a request.
-/

namespace TemplateEngine

/-- Stores in memory that have the same sources and the same answers. -/
structure Environment.SameAnswers (environment : Environment)
    (first second : Store) : Prop where
  inMemory : first.InMemory
  otherInMemory : second.InMemory
  loader : first.loader = second.loader
  answers : ∀ name,
    (environment.program first name).1 = (environment.program second name).1

namespace Environment.SameAnswers

variable {environment : Environment} {first second : Store}

theorem program (same : environment.SameAnswers first second) (name : String) :
    environment.SameAnswers (environment.program first name).2
      (environment.program second name).2 where
  inMemory := inMemory_program same.inMemory name
  otherInMemory := inMemory_program same.otherInMemory name
  loader := by rw [loader_program, loader_program, same.loader]
  answers other := by
    rw [program_program same.inMemory, program_program same.otherInMemory,
      same.answers]

/-- A request changes no answer. -/
theorem behind (inMemory : first.InMemory) (name : String) :
    environment.SameAnswers (environment.program first name).2 first where
  inMemory := inMemory_program inMemory name
  otherInMemory := inMemory
  loader := environment.loader_program first name
  answers := program_program inMemory name

end Environment.SameAnswers

/-- Worlds that differ only in stores that answer alike. -/
structure World.Alike (environment : Environment) (first second : World) :
    Prop where
  heap : first.heap = second.heap
  included : first.included = second.included
  store : environment.SameAnswers first.store second.store

/-- The same result, in worlds that differ only in stores that answer alike. -/
inductive Outcome.Alike {α : Type} (environment : Environment) :
    Outcome α → Outcome α → Prop
  | cut : Outcome.Alike environment none none
  | ended {result : Except Error α} {first second : World} :
      first.Alike environment second →
      Outcome.Alike environment (some (result, first)) (some (result, second))

/-- An outcome without the store. -/
def Outcome.withoutStore {α : Type} (outcome : Outcome α) :
    Option (Except Error α × Heap × List PathKey) :=
  outcome.map fun (result, world) => (result, world.heap, world.included)

namespace Outcome.Alike

variable {environment : Environment} {α β : Type} {first second : Outcome α}

theorem andThen {firstNext secondNext : α → World → Outcome β}
    (alike : Outcome.Alike environment first second)
    (next :
      ∀ value world other, World.Alike environment world other →
        Outcome.Alike environment (firstNext value world)
          (secondNext value other)) :
    Outcome.Alike environment (first.andThen firstNext)
      (second.andThen secondNext) := by
  cases alike with
  | cut => exact .cut
  | @ended result world other worlds =>
      cases result with
      | error error => exact .ended worlds
      | ok value => exact next value world other worlds

theorem map (alike : Outcome.Alike environment first second)
    (change : Except Error α → Except Error β) :
    Outcome.Alike environment
      (first.map fun (result, world) => (change result, world))
      (second.map fun (result, world) => (change result, world)) := by
  cases alike with
  | cut => exact .cut
  | ended worlds => exact .ended worlds

theorem withoutStore_eq (alike : Outcome.Alike environment first second) :
    first.withoutStore = second.withoutStore := by
  cases alike with
  | cut => rfl
  | ended worlds =>
      simp only [Outcome.withoutStore, Option.map_some, worlds.heap,
        worlds.included]

end Outcome.Alike

/-- A runner that does not tell stores apart that answer alike. -/
def Runner.IsUnaware (environment : Environment) (runner : Runner) : Prop :=
  ∀ program vars first second, World.Alike environment first second →
    Outcome.Alike environment (runner program vars first)
      (runner program vars second)

namespace World.Alike

variable {scene : Scene} {runner : Option Runner} {first second : World}

theorem view (alike : first.Alike scene.environment second)
    (machine : Machine) :
    machine.view scene first = machine.view scene second := by
  rw [Machine.view, Machine.view, alike.heap]

theorem skips_iff (alike : first.Alike scene.environment second) (once : Bool)
    (name : String) : first.skips once name ↔ second.skips once name := by
  rw [World.skips, World.skips, alike.included, alike.store.loader]

theorem marked (alike : first.Alike scene.environment second) (once : Bool)
    (name : String) :
    (first.marked once name).Alike scene.environment
      (second.marked once name) := by
  cases once with
  | false => exact alike
  | true =>
      refine ⟨alike.heap, ?_, alike.store⟩
      simp only [World.marked, if_true, alike.included, alike.store.loader]

theorem renderNested {inner : Runner}
    (unaware : inner.IsUnaware scene.environment)
    (alike : first.Alike scene.environment second) (vars : Table Binding)
    (name : String) (parameters : List (String × Value)) :
    Outcome.Alike scene.environment
      (scene.renderNested inner vars name parameters first)
      (scene.renderNested inner vars name parameters second) := by
  have answers := alike.store.answers name
  have behind := alike.store.program name
  rcases found : scene.environment.program first.store name with ⟨answer, after⟩
  rcases otherFound : scene.environment.program second.store name with
    ⟨other, otherAfter⟩
  rw [found, otherFound] at answers behind
  obtain rfl : answer = other := answers
  have worlds :
      World.Alike scene.environment { first with store := after }
        { second with store := otherAfter } :=
    ⟨alike.heap, alike.included, behind⟩
  cases answer with
  | error error =>
      rw [Scene.renderNested, Scene.renderNested, found, otherFound]
      exact .ended worlds
  | ok program =>
      rw [Scene.renderNested_of_program scene inner vars parameters found,
        Scene.renderNested_of_program scene inner vars parameters otherFound]
      exact (unaware _ _ _ _ worlds).andThen fun _ _ _ ended => .ended ended

theorem including
    (unaware : ∀ inner, runner = some inner → inner.IsUnaware scene.environment)
    (alike : first.Alike scene.environment second) (machine : Machine)
    (target : Target) (once : Bool) (kind : InclusionKind) :
    Outcome.Alike scene.environment
      (scene.include runner machine first target once kind)
      (scene.include runner machine second target once kind) := by
  cases resolved : target.resolve (machine.view scene first) with
  | error error =>
      rw [Scene.include_of_error resolved,
        Scene.include_of_error (alike.view machine ▸ resolved)]
      exact .ended alike
  | ok names =>
      obtain ⟨name, parameters⟩ := names
      have otherResolved := resolved
      rw [alike.view machine] at otherResolved
      cases runner with
      | none =>
          rw [Scene.include_none resolved, Scene.include_none otherResolved]
          exact .ended alike
      | some inner =>
          by_cases again : first.skips once name
          · rw [Scene.include_of_skips inner resolved again,
              Scene.include_of_skips inner otherResolved
                ((alike.skips_iff once name).mp again)]
            exact .ended alike
          · rw [Scene.include_some inner resolved again,
              Scene.include_some inner otherResolved
                (fun skips => again ((alike.skips_iff once name).mpr skips))]
            exact
              ((alike.marked once name).renderNested (unaware inner rfl) _ _
                _).map kind.recover

theorem assign (alike : first.Alike scene.environment second)
    (machine : Machine) (name : String) (subscripts : List Argument)
    (pieces : List Piece) :
    Outcome.Alike scene.environment
      (scene.step runner (.set name subscripts pieces) machine first)
      (scene.step runner (.set name subscripts pieces) machine second) := by
  simp only [Scene.step, Machine.assign, alike.view machine, alike.heap]
  cases Piece.assigned (machine.view scene second) pieces with
  | error error => exact .ended alike
  | ok value =>
      dsimp only
      cases Argument.evalAll (machine.view scene second) subscripts with
      | error error => exact .ended alike
      | ok keys => exact .ended ⟨rfl, alike.included, alike.store⟩

theorem step
    (unaware : ∀ inner, runner = some inner → inner.IsUnaware scene.environment)
    (alike : first.Alike scene.environment second) (instruction : Instruction)
    (machine : Machine) :
    Outcome.Alike scene.environment
      (scene.step runner instruction machine first)
      (scene.step runner instruction machine second) := by
  cases instruction with
  | set name subscripts value =>
      exact alike.assign machine name subscripts value
  | inclusion target once kind =>
      have included := alike.including unaware machine target once kind
      rw [Scene.step_inclusion, Scene.step_inclusion]
      exact included.andThen fun _ _ _ worlds => .ended worlds
  | elseBranch condition next exit =>
      simp only [Scene.step, alike.view machine]
      split
      · exact .ended alike
      · exact .ended alike
  | _ =>
      simp only [Scene.step, alike.view machine]
      exact .ended alike

theorem run
    (unaware : ∀ inner, runner = some inner → inner.IsUnaware scene.environment)
    (alike : first.Alike scene.environment second) (program : Program)
    (steps : Nat) (machine : Machine) :
    Outcome.Alike scene.environment
      (scene.run runner program steps machine first)
      (scene.run runner program steps machine second) := by
  induction steps generalizing machine first second with
  | zero =>
      cases found : program.instructions[machine.position]? with
      | none =>
          rw [Scene.run_of_ended _ _ _ _ found,
            Scene.run_of_ended _ _ _ _ found]
          exact .ended alike
      | some instruction =>
          rw [Scene.run_zero scene runner first found,
            Scene.run_zero scene runner second found]
          exact .cut
  | succ steps induction =>
      cases found : program.instructions[machine.position]? with
      | none =>
          rw [Scene.run_of_ended _ _ _ _ found,
            Scene.run_of_ended _ _ _ _ found]
          exact .ended alike
      | some instruction =>
          rw [Scene.run_succ scene runner steps first found,
            Scene.run_succ scene runner steps second found]
          exact (alike.step unaware instruction machine).andThen
            fun next _ _ worlds => induction worlds next

end World.Alike

theorem Scene.isUnaware_runner (scene : Scene) (steps levels : Nat) :
    (scene.runner steps levels).IsUnaware scene.environment := by
  induction levels with
  | zero =>
      intro program vars first second alike
      apply alike.run
      intro inner none
      cases none
  | succ levels induction =>
      intro program vars first second alike
      apply alike.run
      intro inner same
      cases same
      exact induction

/-- Whatever is rendered, stores that answer alike are not told apart. -/
theorem Environment.execute_alike {environment : Environment}
    {first second : World} (alike : first.Alike environment second)
    (steps : Nat) (program : Program) (context : Context) :
    Outcome.Alike environment (environment.execute steps program context first)
      (environment.execute steps program context second) := by
  cases visible : environment.visibleVars context with
  | error error =>
      rw [execute, execute, visible]
      exact .ended alike
  | ok vars =>
      rw [execute_of_visibleVars _ _ _ visible,
        execute_of_visibleVars _ _ _ visible]
      have unaware :=
        Scene.isUnaware_runner ⟨environment, context.constants, context.blocks⟩
          steps maxInclusions
      refine (unaware program vars _ _ ?_).andThen fun _ _ _ ended =>
        .ended ended
      exact ⟨alike.heap, rfl, alike.store⟩

end TemplateEngine
