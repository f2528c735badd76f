import TemplateEngine.Proofs.Render.Steps
import TemplateEngine.Proofs.Template.Fitted

/-!
# The open iterations of a run

In a run of a compiled template, the iterations that are open at a state are
those around its position, each at one of the rows that it took when it was
opened.
-/

namespace TemplateEngine

/-- The states that a run of a program goes through. -/
inductive Scene.Reaches (scene : Scene) (runner : Option Runner)
    (program : Program) (first : Machine) (origin : World) :
    Machine → World → Prop
  | start : scene.Reaches runner program first origin first origin
  | step {machine next : Machine} {world after : World}
      {instruction : Instruction} :
      scene.Reaches runner program first origin machine world →
      program.instructions[machine.position]? = some instruction →
      scene.step runner instruction machine world = some (.ok next, after) →
      scene.Reaches runner program first origin next after

/-- The end of a run is one of its states. -/
theorem Scene.Reaches.of_run {scene : Scene} {runner : Option Runner}
    {program : Program} {first machine final : Machine}
    {origin world after : World} (steps : Nat)
    (reaches : scene.Reaches runner program first origin machine world)
    (ended :
      scene.run runner program steps machine world = some (.ok final, after)) :
    scene.Reaches runner program first origin final after ∧
      program.instructions[final.position]? = none := by
  induction steps generalizing machine world with
  | zero =>
      cases found : program.instructions[machine.position]? with
      | none =>
          rw [run_of_ended _ _ _ _ found] at ended
          cases ended
          exact ⟨reaches, found⟩
      | some instruction =>
          rw [run_zero scene runner world found] at ended
          cases ended
  | succ steps induction =>
      cases found : program.instructions[machine.position]? with
      | none =>
          rw [run_of_ended _ _ _ _ found] at ended
          cases ended
          exact ⟨reaches, found⟩
      | some instruction =>
          rw [run_succ scene runner steps world found] at ended
          rcases stepped : scene.step runner instruction machine world with
            _ | ⟨_ | next, afterStep⟩
          · rw [stepped] at ended
            cases ended
          · rw [stepped] at ended
            cases ended
          · rw [stepped] at ended
            exact induction (reaches.step found stepped) ended

/-! ## What a step does to the open iterations -/

namespace Instruction

/-- The positions at which an instruction goes on without changing the open
iterations. -/
def jumps : Instruction → List Nat
  | branch _ next => [next]
  | elseBranch _ next exit => [next, exit]
  | otherwise exit => [exit]
  | _ => []

/-- For the end of a part of an iteration: its number, where its part for each
row begins, and where to go on behind the last row. -/
def turn? (position : Nat) : Instruction → Option (Nat × Nat × Nat)
  | elseBlock id body exit => some (id, body, exit)
  | closeBlock id body => some (id, body, position + 1)
  | _ => none

/-- Where an instruction goes on from a position with some open iterations, and
which are open then. -/
inductive Travels (view : View) (position : Nat) (frames : List Frame) :
    Instruction → Nat → List Frame → Prop
  | advance {instruction : Instruction} :
      instruction.opens? = none → instruction.ends? = none →
      Travels view position frames instruction (position + 1) frames
  | jump {instruction : Instruction} {target : Nat} :
      target ∈ instruction.jumps →
      Travels view position frames instruction target frames
  | skip {id skip : Nat} {rowAlias : String} {source : Source} :
      source.rows view = .ok [] →
      Travels view position frames (.openBlock id rowAlias source skip) skip
        frames
  | enter {id skip : Nat} {rowAlias : String} {source : Source} {row : Row}
      {following : List Row} :
      source.rows view = .ok (row :: following) →
      Travels view position frames (.openBlock id rowAlias source skip)
        (position + 1) (⟨id, row, following⟩ :: frames)
  | again {instruction : Instruction} {id body exit : Nat} {latest row : Row}
      {following : List Row} {outer : List Frame} :
      instruction.turn? position = some (id, body, exit) →
      frames = ⟨id, latest, row :: following⟩ :: outer →
      Travels view position frames instruction body
        (⟨id, row, following⟩ :: outer)
  | finish {instruction : Instruction} {id body exit : Nat} {latest : Row}
      {outer : List Frame} :
      instruction.turn? position = some (id, body, exit) →
      frames = ⟨id, latest, []⟩ :: outer →
      Travels view position frames instruction exit outer
  | apart {instruction : Instruction} {id body exit : Nat} :
      instruction.turn? position = some (id, body, exit) →
      (∀ frame, frames.head? = some frame → frame.id ≠ id) →
      Travels view position frames instruction exit frames

end Instruction

open Instruction (Travels)

/-- Moving an iteration to its next row goes back, closes it, or changes
nothing. -/
theorem Machine.travels_nextRow {view : View} {instruction : Instruction}
    {id body exit : Nat} {machine : Machine}
    (turn : instruction.turn? machine.position = some (id, body, exit)) :
    Travels view machine.position machine.frames instruction
      (if (machine.nextRow id).2 then body else exit)
      (machine.nextRow id).1.frames := by
  obtain ⟨position, untaken, frames, vars, output⟩ := machine
  rcases frames with _ | ⟨⟨other, latest, following⟩, outer⟩
  · exact .apart turn fun _ none => by cases none
  · by_cases same : other = id
    · subst same
      rcases following with _ | ⟨row, following⟩
      · simpa [nextRow] using Travels.finish turn rfl
      · simpa [nextRow] using Travels.again turn rfl
    · have apart :
          ∀ frame, (⟨other, latest, following⟩ :: outer).head? = some frame →
            frame.id ≠ id := by
        intro frame head
        cases head
        exact same
      simpa [nextRow, same] using Travels.apart turn apart

theorem Machine.position_nextRow (machine : Machine) (id : Nat) :
    (machine.nextRow id).1.position = machine.position := by
  rw [Machine.nextRow]
  split
  · rfl
  · split
    · split <;> rfl
    · rfl

/-- Assigning leaves a run where it is. -/
theorem Machine.assign_stays {scene : Scene} {machine next : Machine}
    {world after : World} {name : String} {subscripts : List Argument}
    {value : List Piece}
    (assigned :
      machine.assign scene world name subscripts value = .ok (next, after)) :
    next.position = machine.position ∧ next.frames = machine.frames := by
  rw [Machine.assign] at assigned
  dsimp only at assigned
  split at assigned
  · cases assigned
  · split at assigned
    · cases assigned
    · cases assigned
      exact ⟨rfl, rfl⟩

/-- A tested condition goes on behind itself or at the next branch. -/
theorem Machine.eq_of_tested {answer : Except Error Bool}
    {machine next : Machine} {world after : World} {exit : Nat}
    (step : (some (answer.map fun holds =>
      if holds then machine.advance
      else machine.skipTo exit, world) :
          Outcome Machine) = some (.ok next, after)) :
    next = machine.advance ∨ next = machine.skipTo exit := by
  rcases answer with _ | _ | _
  · cases step
  · cases step
    exact .inr rfl
  · cases step
    exact .inl rfl

/-- What a step does to the position and the open iterations. -/
theorem Scene.travels_of_step {scene : Scene} {runner : Option Runner}
    {instruction : Instruction} {machine next : Machine} {world after : World}
    (step :
      scene.step runner instruction machine world = some (.ok next, after)) :
    Travels (machine.view scene world) machine.position machine.frames
      instruction next.position
      next.frames := by
  cases instruction with
  | text content =>
      cases step
      exact .advance rfl rfl
  | endBranch =>
      cases step
      exact .advance rfl rfl
  | print expr =>
      rw [Scene.step] at step
      cases value : expr.eval (machine.view scene world) with
      | error error =>
          rw [value] at step
          cases step
      | ok value' =>
          rw [value] at step
          cases step
          exact .advance rfl rfl
  | set name subscripts value =>
      rw [Scene.step] at step
      split at step
      · cases step
      next assigned =>
        cases step
        obtain ⟨position, frames⟩ := Machine.assign_stays assigned
        rw [Machine.advance, Machine.goto, position]
        dsimp only
        rw [frames]
        exact .advance rfl rfl
  | inclusion target once kind =>
      rw [Scene.step] at step
      split at step
      · cases step
      · cases step
      · cases step
        exact .advance rfl rfl
  | branch condition exit =>
      rcases Machine.eq_of_tested step with rfl | rfl
      · exact .advance rfl rfl
      · exact .jump (by simp [Instruction.jumps, Machine.skipTo])
  | elseBranch condition exit leave =>
      rw [Scene.step] at step
      split at step
      · rcases Machine.eq_of_tested step with rfl | rfl
        · exact .advance rfl rfl
        · exact .jump (by simp [Instruction.jumps, Machine.skipTo])
      · cases step
        exact .jump (by simp [Instruction.jumps, Machine.goto])
  | otherwise exit =>
      cases step
      split
      · exact .advance rfl rfl
      · exact .jump (by simp [Instruction.jumps, Machine.goto])
  | openBlock id rowAlias source skip =>
      rw [Scene.step] at step
      rcases taken : source.rows (machine.view scene world) with
        _ | _ | ⟨row, following⟩
      · rw [taken] at step
        cases step
      · rw [taken] at step
        cases step
        exact .skip taken
      · rw [taken] at step
        cases step
        exact .enter taken
  | elseBlock id body exit =>
      cases step
      exact Machine.travels_nextRow rfl
  | closeBlock id body =>
      have turned :
          Travels (machine.view scene world) machine.position machine.frames
            (.closeBlock id body)
            (if (machine.nextRow id).2 then body else machine.position + 1)
            (machine.nextRow id).1.frames := Machine.travels_nextRow rfl
      have place := machine.position_nextRow id
      rw [Scene.step] at step
      rcases moved : machine.nextRow id with ⟨inner, again⟩
      rw [moved] at turned place step
      cases again with
      | true =>
          cases step
          exact turned
      | false =>
          cases step
          rw [Machine.advance, Machine.goto, place]
          exact turned

/-! ## The open iterations are those around the position -/

/-- An instruction that fits goes on with the same iterations around it. -/
theorem Program.Fits.stackAt_jump {program : Program} {position target : Nat}
    {instruction : Instruction} (fits : program.Fits position instruction)
    (jumps : target ∈ instruction.jumps) :
    program.stackAt target = program.stackAt position := by
  have lands := fits.lands
  cases instruction with
  | branch condition next =>
      cases List.mem_singleton.mp jumps
      exact lands
  | elseBranch condition next exit =>
      simp only [Instruction.jumps, List.mem_cons, List.not_mem_nil, or_false]
        at jumps
      rcases jumps with rfl | rfl
      · exact lands.1
      · exact lands.2
  | otherwise exit =>
      cases List.mem_singleton.mp jumps
      exact lands
  | _ => cases jumps

/-- The end of a part of an iteration stands in the iteration and leaves it, or
stands outside. -/
theorem Program.Fits.stackAt_turn {program : Program}
    {position id body exit : Nat} {instruction : Instruction}
    (fits : program.Fits position instruction)
    (found : program.instructions[position]? = some instruction)
    (turn : instruction.turn? position = some (id, body, exit)) :
    (program.stackAt position = id :: program.stackAt exit ∧
        program.stackAt body = program.stackAt position) ∨
      (id ∉ program.stackAt position ∧
        program.stackAt exit = program.stackAt position) := by
  have lands := fits.lands
  cases instruction with
  | elseBlock own own' own'' =>
      cases turn
      exact .inl lands
  | closeBlock own own' =>
      cases turn
      rcases lands with apart | inside
      · refine .inr ⟨apart, ?_⟩
        rw [stackAt_succ found]
        exact Instruction.pushes_end_of_apart rfl rfl apart
      · exact .inl inside
  | _ => cases turn

/-- Instructions that fit keep the open iterations those around the position. -/
theorem Instruction.Travels.map_id_eq {program : Program} {view : View}
    {position target : Nat} {frames after : List Frame}
    {instruction : Instruction}
    (travels : Travels view position frames instruction target after)
    (found : program.instructions[position]? = some instruction)
    (fits : program.Fits position instruction)
    (aligned : frames.map Frame.id = program.stackAt position) :
    after.map Frame.id = program.stackAt target := by
  cases travels with
  | advance opens ends =>
      rw [Program.stackAt_succ found, Instruction.pushes_plain opens ends]
      exact aligned
  | jump jumps =>
      rw [fits.stackAt_jump jumps]
      exact aligned
  | skip taken => exact aligned.trans fits.lands.symm
  | enter taken =>
      rw [Program.stackAt_succ found, Instruction.pushes_openBlock, ← aligned]
      rfl
  | again turn top =>
      subst top
      rcases fits.stackAt_turn found turn with inside | ⟨apart, -⟩
      · rw [inside.2, ← aligned]
        rfl
      · exact absurd (by simp [← aligned]) apart
  | finish turn top =>
      subst top
      rcases fits.stackAt_turn found turn with inside | ⟨apart, -⟩
      · rw [inside.1] at aligned
        exact (List.cons.inj aligned).2
      · exact absurd (by simp [← aligned]) apart
  | apart turn others =>
      rcases fits.stackAt_turn found turn with inside | outside
      · rw [inside.1] at aligned
        rcases frames with _ | ⟨frame, frames⟩
        · cases aligned
        · exact absurd (List.cons.inj aligned).1 (others frame rfl)
      · rw [outside.2]
        exact aligned

/-- Whether the iteration of a frame was opened at a state of a run, and the
frame is at one of the rows that it took then. -/
def Frame.Taken (frame : Frame) (scene : Scene) (runner : Option Runner)
    (program : Program) (first : Machine) (origin : World) : Prop :=
  ∃ machine world rowAlias source skip rows,
    scene.Reaches runner program first origin machine world ∧
      program.instructions[machine.position]? =
        some (.openBlock frame.id rowAlias source skip) ∧
      source.rows (machine.view scene world) = .ok rows ∧
      ∃ position, position < rows.length ∧
        rows.drop position = frame.row :: frame.following

theorem Frame.Taken.next {scene : Scene} {runner : Option Runner}
    {program : Program} {first : Machine} {origin : World} {id : Nat}
    {latest row : Row} {following : List Row}
    (taken :
      Frame.Taken ⟨id, latest, row :: following⟩ scene runner program first
        origin) :
    Frame.Taken ⟨id, row, following⟩ scene runner program first origin := by
  obtain ⟨machine, world, rowAlias, source, skip, rows, reaches, found, took,
    position, -, drop⟩ :=
    taken
  have further : rows.drop (position + 1) = row :: following := by
    rw [← List.tail_drop, drop]
    rfl
  have inside : position + 1 < rows.length := by
    have length := congrArg List.length further
    rw [List.length_drop, List.length_cons] at length
    omega
  exact ⟨machine, world, rowAlias, source, skip, rows, reaches, found, took,
    position + 1, inside, further⟩

/-- Every open iteration is at one of the rows that it took. -/
theorem Scene.Reaches.taken {scene : Scene} {runner : Option Runner}
    {program : Program} {first machine : Machine} {origin world : World}
    (noFrames : first.frames = [])
    (reaches : scene.Reaches runner program first origin machine world) :
    ∀ frame ∈ machine.frames,
      frame.Taken scene runner program first origin := by
  induction reaches with
  | start =>
      intro frame member
      rw [noFrames] at member
      cases member
  | @step machine next world after instruction reaches found step induction =>
      have travels := travels_of_step step
      generalize next.position = target at travels
      generalize next.frames = frames at travels
      cases travels with
      | advance _ _ => exact induction
      | jump _ => exact induction
      | skip _ => exact induction
      | enter taken =>
          intro frame member
          rcases List.mem_cons.mp member with rfl | outer
          · exact ⟨machine, world, _, _, _, _, reaches, found, taken, 0,
              by simp, rfl⟩
          · exact induction frame outer
      | again turn top =>
          rw [top] at induction
          intro frame member
          rcases List.mem_cons.mp member with rfl | outer
          · exact (induction _ List.mem_cons_self).next
          · exact induction frame (List.mem_cons_of_mem _ outer)
      | finish turn top =>
          rw [top] at induction
          exact fun frame member =>
            induction frame (List.mem_cons_of_mem _ member)
      | apart _ _ => exact induction

/-- In a run of a compiled template, the open iterations are those around the
position. -/
theorem Scene.Reaches.map_id_eq {options : Options} {known : Catalog}
    {source : String} {compiled : Compiled}
    (compiles : compile options known source = .ok compiled) {scene : Scene}
    {runner : Option Runner} {vars : Table Binding} {machine : Machine}
    {origin world : World}
    (reaches :
      scene.Reaches runner compiled.program { vars } origin machine world) :
    machine.frames.map Frame.id =
      compiled.program.stackAt machine.position := by
  induction reaches with
  | start => rfl
  | step reaches found step induction =>
      exact (travels_of_step step).map_id_eq found
        (Program.fits_of_compile compiles found) induction

/-- The active row of an open iteration is found. -/
theorem Machine.exists_row_of_mem {scene : Scene} {machine : Machine}
    {world : World} {id : Nat} (isOpen : id ∈ machine.frames.map Frame.id) :
    ∃ frame ∈ machine.frames,
      frame.id = id ∧ (machine.view scene world).row? id = some frame.row := by
  obtain ⟨frame, member, same⟩ := List.mem_map.mp isOpen
  have found : (machine.frames.find? fun frame => frame.id == id).isSome := by
    rw [List.find?_isSome]
    exact ⟨frame, member, by simpa using same⟩
  obtain ⟨active, isActive⟩ := Option.isSome_iff_exists.mp found
  refine ⟨active, List.mem_of_find?_eq_some isActive, ?_, ?_⟩
  · simpa using List.find?_some isActive
  · exact congrArg (Option.map Frame.row) isActive

/-- A field of an active row is undefined only if the row or one of its child
blocks lacks it. -/
theorem View.reference_frame_error {view : View} {id : Nat} {row : Row}
    (active : view.row? id = some row) {rowAlias field : String}
    {path : List String} {error : Error}
    (failed : view.reference (.frame id rowAlias path field) = .error error) :
    (View.descend? row path).bind (fun last => last.get? view.heap field) =
      none := by
  rw [View.reference, active] at failed
  cases value :
    (View.descend? row path).bind fun last => last.get? view.heap field with
  | none => rfl
  | some value' =>
      rw [Option.bind_some, value] at failed
      cases failed

/-- What holds at every state of a run of a compiled template. -/
structure Scene.Scoped (scene : Scene) (runner : Option Runner)
    (program : Program) (vars : Table Binding) (origin : World)
    (machine : Machine) (world : World) : Prop where
  /-- The open iterations, outermost first, are those whose part for each row is
  around the position. -/
  frames : machine.frames.reverse.map Frame.id = program.around machine.position
  /-- Each of them is at one of the rows that it took. -/
  rows :
    ∀ frame ∈ machine.frames, frame.Taken scene runner program { vars } origin
  /-- The active rows that the next instruction reads are found. -/
  reads :
    ∀ instruction, program.instructions[machine.position]? = some instruction →
      ∀ id ∈ instruction.frames, ∃ frame ∈ machine.frames,
        frame.id = id ∧ (machine.view scene world).row? id = some frame.row
  /-- If a field of one of these rows is undefined, the row or one of its child
  blocks lacks it. -/
  errors :
    ∀ instruction, program.instructions[machine.position]? = some instruction →
      ∀ id ∈ instruction.frames, ∀ rowAlias path field error,
        (machine.view scene world).reference (.frame id rowAlias path field) =
            .error error →
          ∃ frame ∈ machine.frames, frame.id = id ∧
            (View.descend? frame.row path).bind
                (fun row => row.get? world.heap field) =
              none

/-- Static scopes are dynamic scopes: at every state that a run of a compiled
template reaches, the open iterations are those around the position, and every
row that is read is found.  When the run ends, no iteration is open. -/
theorem Scene.scoped_of_compile {options : Options} {known : Catalog}
    {source : String} {compiled : Compiled}
    (compiles : compile options known source = .ok compiled) (scene : Scene)
    (runner : Option Runner) (vars : Table Binding) (origin : World) :
    (∀ machine world,
        scene.Reaches runner compiled.program { vars } origin machine world →
          scene.Scoped runner compiled.program vars origin machine world) ∧
      ∀ steps final after,
        scene.run runner compiled.program steps { vars } origin =
            some (.ok final, after) →
          final.frames = [] := by
  have aligned :
      ∀ machine world,
        scene.Reaches runner compiled.program { vars } origin machine world →
          machine.frames.map Frame.id =
            compiled.program.stackAt machine.position :=
    fun _ _ reaches => reaches.map_id_eq compiles
  have ended : ∀ position, compiled.program.instructions.length ≤ position →
      compiled.program.stackAt position = [] := by
    intro position beyond
    rw [← Program.stackAt_length_of_compile compiles, Program.stackAt,
      Program.stackAt, List.take_length, List.take_of_length_le beyond]
  constructor
  · intro machine world reaches
    have reads : ∀ instruction,
        compiled.program.instructions[machine.position]? = some instruction →
          ∀ id ∈ instruction.frames, ∃ frame ∈ machine.frames, frame.id = id ∧
            (machine.view scene world).row? id = some frame.row := by
      intro instruction found id member
      apply Machine.exists_row_of_mem
      rw [aligned machine world reaches]
      exact (Program.fits_of_compile compiles found).reads member
    refine ⟨?_, reaches.taken rfl, reads, ?_⟩
    · rw [List.map_reverse, aligned machine world reaches]
      rcases Nat.lt_or_ge compiled.program.instructions.length
        machine.position with
        beyond | inside
      · rw [ended machine.position (Nat.le_of_lt beyond),
          Program.around_of_length_lt beyond]
        rfl
      · exact (Program.around_eq_reverse_stackAt
          (Program.ordered_of_compile compiles) inside).symm
    · intro instruction found id member rowAlias path field error failed
      obtain ⟨frame, isOpen, same, active⟩ := reads instruction found id member
      exact ⟨frame, isOpen, same, View.reference_frame_error active failed⟩
  · intro steps final after run
    obtain ⟨reaches, beyond⟩ := Scene.Reaches.start.of_run steps run
    have noIds := aligned final after reaches
    rw [ended final.position (List.getElem?_eq_none_iff.mp beyond)] at noIds
    exact List.map_eq_nil_iff.mp noIds

theorem Scene.scoped_of_compile_foreach :
    ∃ compiled,
      compile {} Catalog.deferred
            "<foreach ary=\"{$A}\" as=\"a\">{a.value}</foreach>" =
          .ok compiled ∧
        ((∀ machine world,
            Scene.Reaches ⟨{}, [], []⟩ none compiled.program
                ⟨0, false, [], [], ""⟩ ⟨{}, ⟨.memory [], .memory [], 0, 0⟩, []⟩
                machine world →
              Scene.Scoped ⟨{}, [], []⟩ none compiled.program []
                ⟨{}, ⟨.memory [], .memory [], 0, 0⟩, []⟩ machine world) ∧
          ∀ steps final after,
            Scene.run ⟨{}, [], []⟩ none compiled.program steps
                  ⟨0, false, [], [], ""⟩
                  ⟨{}, ⟨.memory [], .memory [], 0, 0⟩, []⟩ =
                some (.ok final, after) →
              final.frames = []) := by
  have isOk : (compile {} Catalog.deferred
      "<foreach ary=\"{$A}\" as=\"a\">{a.value}</foreach>").toBool = true := by
    decide +kernel
  cases compiles : compile {} Catalog.deferred
      "<foreach ary=\"{$A}\" as=\"a\">{a.value}</foreach>" with
  | error error =>
      rw [compiles] at isOk
      cases isOk
  | ok compiled =>
      exact ⟨compiled, rfl,
        Scene.scoped_of_compile compiles ⟨{}, [], []⟩ none []
          ⟨{}, ⟨.memory [], .memory [], 0, 0⟩, []⟩⟩

end TemplateEngine
