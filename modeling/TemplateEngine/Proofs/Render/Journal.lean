import TemplateEngine.Proofs.Render.Steps

/-!
# Journals of runs

A run comes to one instruction after the other.  What is noted of each of them
makes a journal of the run, in the order in which things happen.  The journal of
a run that is cut off tells what has happened up to then, and that of a run that
ends is the same with any greater number of steps.
-/

namespace TemplateEngine

/-- The journal of what follows a part of a run, unless that failed or was cut
off. -/
def Outcome.journal {α Entry : Type} (outcome : Outcome α)
    (next : α → World → List Entry) : List Entry :=
  match outcome with
  | some (.ok value, world) => next value world
  | _ => []

namespace Scene

variable {Entry : Type} (scene : Scene) (runner : Option Runner)

/-- What is noted of the instructions that a run comes to. -/
def journal (note : Instruction → Machine → World → List Entry)
    (program : Program) : (steps : Nat) → Machine → World → List Entry
  | steps, machine, world =>
    match program.instructions[machine.position]? with
    | none => []
    | some instruction =>
      match steps with
      | 0 => []
      | steps + 1 =>
        note instruction machine world ++
          (scene.step runner instruction machine world).journal
            (journal note program steps)

variable (note : Instruction → Machine → World → List Entry) {program : Program}
  {instruction : Instruction} {machine : Machine} (world : World)

theorem journal_succ (steps : Nat)
    (next : program.instructions[machine.position]? = some instruction) :
    scene.journal runner note program (steps + 1) machine world =
      note instruction machine world ++
        (scene.step runner instruction machine world).journal
          (scene.journal runner note program steps) := by
  rw [journal, next]

theorem journal_zero :
    scene.journal runner note program 0 machine world = [] := by
  rw [journal]
  cases program.instructions[machine.position]? <;> rfl

theorem journal_of_ended (steps : Nat)
    (ended : program.instructions[machine.position]? = none) :
    scene.journal runner note program steps machine world = [] := by
  rw [journal, ended]

/-- Where nothing is noted, the journal is empty. -/
theorem journal_nothing (program : Program) (steps : Nat) (machine : Machine)
    (world : World) :
    scene.journal runner (fun _ _ _ => ([] : List Entry)) program steps machine
        world =
      [] := by
  induction steps generalizing machine world with
  | zero => exact journal_zero scene runner _ world
  | succ steps induction =>
      cases found : program.instructions[machine.position]? with
      | none => exact journal_of_ended scene runner _ world _ found
      | some instruction =>
          rw [journal_succ _ _ _ _ _ found, List.nil_append]
          rcases scene.step runner instruction machine world with
            _ | ⟨_ | next, after⟩
          · rfl
          · rfl
          · exact induction next after

/-- An entry was noted of some instruction. -/
theorem exists_of_mem_journal {steps : Nat} {entry : Entry} {machine : Machine}
    {world : World}
    (member : entry ∈ scene.journal runner note program steps machine world) :
    ∃ instruction machine world, entry ∈ note instruction machine world := by
  induction steps generalizing machine world with
  | zero =>
      rw [journal_zero] at member
      cases member
  | succ steps induction =>
      cases found : program.instructions[machine.position]? with
      | none =>
          rw [journal_of_ended _ _ _ _ _ found] at member
          cases member
      | some instruction =>
          rw [journal_succ _ _ _ _ _ found, List.mem_append] at member
          rcases member with here | later
          · exact ⟨instruction, machine, world, here⟩
          · rcases stepped : scene.step runner instruction machine world with
              _ | ⟨_ | next, after⟩
            · rw [stepped] at later
              cases later
            · rw [stepped] at later
              cases later
            · rw [stepped] at later
              exact induction later

/-- A run that ends has the same journal with more steps. -/
theorem journal_extends {more less : Option Runner}
    (longer : Runner.Extends more less) {fewer steps : Nat}
    (enough : fewer ≤ steps) {result : Except Error Machine × World}
    (ended : scene.run less program fewer machine world = some result) :
    scene.journal more note program steps machine world =
      scene.journal less note program fewer machine world := by
  induction fewer generalizing steps machine world with
  | zero =>
      cases found : program.instructions[machine.position]? with
      | none =>
          rw [journal_of_ended _ _ _ _ _ found,
            journal_of_ended _ _ _ _ _ found]
      | some instruction =>
          rw [run_zero scene less world found] at ended
          cases ended
  | succ fewer induction =>
      obtain ⟨steps, rfl⟩ : ∃ rest, steps = rest + 1 := ⟨steps - 1, by omega⟩
      cases found : program.instructions[machine.position]? with
      | none =>
          rw [journal_of_ended _ _ _ _ _ found,
            journal_of_ended _ _ _ _ _ found]
      | some instruction =>
          rw [run_succ scene less fewer world found] at ended
          rw [journal_succ _ _ _ _ _ found, journal_succ _ _ _ _ _ found]
          rcases stepped : scene.step less instruction machine world with
            _ | ⟨_ | next, after⟩
          · rw [stepped] at ended
            cases ended
          · rw [scene.step_extends longer instruction machine world _ stepped]
            rfl
          · rw [scene.step_extends longer instruction machine world _ stepped]
            rw [stepped] at ended
            exact congrArg (note instruction machine world ++ ·)
              (induction after (by omega) ended)

/-- Of a run that ends, the journal is told by what is noted of the steps that
end. -/
theorem journal_congr {other : Instruction → Machine → World → List Entry}
    (alike : ∀ {instruction machine world result},
      scene.step runner instruction machine world = some result →
      note instruction machine world = other instruction machine world)
    {steps : Nat} {result : Except Error Machine × World}
    (ended : scene.run runner program steps machine world = some result) :
    scene.journal runner note program steps machine world =
      scene.journal runner other program steps machine world := by
  induction steps generalizing machine world with
  | zero => rw [journal_zero, journal_zero]
  | succ steps induction =>
      cases found : program.instructions[machine.position]? with
      | none =>
          rw [journal_of_ended _ _ _ _ _ found,
            journal_of_ended _ _ _ _ _ found]
      | some instruction =>
          rw [run_succ scene runner steps world found] at ended
          rw [journal_succ _ _ _ _ _ found, journal_succ _ _ _ _ _ found]
          rcases stepped : scene.step runner instruction machine world with
            _ | ⟨_ | next, after⟩
          · rw [stepped] at ended
            cases ended
          · rw [alike stepped]
            rfl
          · rw [stepped] at ended
            rw [alike stepped]
            exact congrArg (other instruction machine world ++ ·)
              (induction after ended)

end Scene
end TemplateEngine
