import TemplateEngine.Proofs.Render.Deeds
import TemplateEngine.Proofs.Render.Scopes
import TemplateEngine.Proofs.Template.Skips

/-!
# Programs that differ in their texts

A program of which texts are dropped, with its other instructions moved
together, does what the whole program does, besides printing: their runs go
through the same directives.  A text must not be dropped where a further branch
of a condition is looked for, as that branch is reached only if nothing stands
before it.
-/

namespace TemplateEngine

/-- Whether a machine stands where the position of another one moves, and has
what that has but for the output. -/
structure Machine.Mirrors (move : Nat → Nat) (machine other : Machine) :
    Prop where
  position : other.position = move machine.position
  untaken : other.untaken = machine.untaken
  frames : other.frames = machine.frames
  vars : other.vars = machine.vars

/-- The outcomes of a step of machines that mirror each other. -/
inductive Outcome.Mirrors (move : Nat → Nat) :
    Outcome Machine → Outcome Machine → Prop
  | none : Outcome.Mirrors move none none
  | error (error : Error) (world : World) :
      Outcome.Mirrors move (some (.error error, world))
        (some (.error error, world))
  | ok {machine other : Machine} (world : World) :
      machine.Mirrors move other →
      Outcome.Mirrors move (some (.ok machine, world)) (some (.ok other, world))

/-! ## One step -/

namespace Machine.Mirrors

variable {move : Nat → Nat} {machine other : Machine}
  (mirrors : machine.Mirrors move other)

include mirrors

theorem view (scene : Scene) (world : World) :
    other.view scene world = machine.view scene world := by
  simp only [Machine.view, mirrors.vars, mirrors.frames]

theorem goto (position : Nat) :
    (machine.goto position).Mirrors move (other.goto (move position)) :=
  ⟨rfl, rfl, mirrors.frames, mirrors.vars⟩

theorem skipTo (position : Nat) :
    (machine.skipTo position).Mirrors move (other.skipTo (move position)) :=
  ⟨rfl, rfl, mirrors.frames, mirrors.vars⟩

theorem write (text otherText : String) :
    (machine.write text).Mirrors move (other.write otherText) :=
  ⟨mirrors.position, mirrors.untaken, mirrors.frames, mirrors.vars⟩

theorem nextRow (id : Nat) :
    (machine.nextRow id).1.Mirrors move (other.nextRow id).1 ∧
      (other.nextRow id).2 = (machine.nextRow id).2 := by
  obtain ⟨position, untaken, frames, vars⟩ := mirrors
  unfold Machine.nextRow
  rw [frames]
  split
  next => exact ⟨⟨position, untaken, frames, vars⟩, rfl⟩
  next =>
    split
    next =>
      split
      · exact ⟨⟨position, untaken, rfl, vars⟩, rfl⟩
      · exact ⟨⟨position, untaken, rfl, vars⟩, rfl⟩
    next => exact ⟨⟨position, untaken, frames, vars⟩, rfl⟩

theorem include_eq (scene : Scene) (runner : Option Runner) (world : World)
    (target : Target) (once : Bool) (kind : InclusionKind) :
    scene.include runner other world target once kind =
      scene.include runner machine world target once kind := by
  rw [Scene.include, Scene.include, mirrors.view, mirrors.vars]

theorem deedsAt_retarget (scene : Scene)
    (inside : Program → Table Binding → World → List Deed)
    (instruction : Instruction) (world : World) :
    scene.deedsAt inside (instruction.retarget move) other world =
      scene.deedsAt inside instruction machine world := by
  cases instruction with
  | _ =>
      simp only [Scene.deedsAt, Instruction.retarget, mirrors.view,
        mirrors.vars]

section

variable (next : move (machine.position + 1) = move machine.position + 1)

include next

theorem advance : machine.advance.Mirrors move other.advance := by
  have place : other.position + 1 = move (machine.position + 1) := by
    rw [next, mirrors.position]
  exact ⟨place, rfl, mirrors.frames, mirrors.vars⟩

theorem openRows (id skip : Nat) (rows : List Row) :
    (machine.openRows id skip rows).Mirrors move
      (other.openRows id (move skip) rows) := by
  cases rows with
  | nil => exact mirrors.goto skip
  | cons row following =>
      have entered : Machine.Mirrors move
          { machine with frames := ⟨id, row, following⟩ :: machine.frames }
          { other with frames := ⟨id, row, following⟩ :: other.frames } :=
        ⟨mirrors.position, mirrors.untaken, by rw [mirrors.frames],
          mirrors.vars⟩
      exact entered.advance next

/-- A test goes on in the same way. -/
theorem test (answer : Except Error Bool) (position : Nat) (world : World) :
    Outcome.Mirrors move
      (some
        (answer.map fun holds =>
            if holds then machine.advance else machine.skipTo position, world))
      (some
        (answer.map fun holds =>
            if holds then other.advance else other.skipTo (move position),
          world)) := by
  rcases answer with error | _ | _
  · exact .error error world
  · exact .ok world (mirrors.skipTo position)
  · exact .ok world (mirrors.advance next)

theorem assign (scene : Scene) (world : World) (name : String)
    (subscripts : List Argument) (value : List Piece) (runner : Option Runner) :
    Outcome.Mirrors move
      (scene.step runner (.set name subscripts value) machine world)
      (scene.step runner (.set name subscripts value) other world) := by
  simp only [Scene.step, Machine.assign, mirrors.view]
  cases Piece.assigned (machine.view scene world) value with
  | error error => exact .error error world
  | ok value =>
      cases Argument.evalAll (machine.view scene world) subscripts with
      | error error => exact .error error world
      | ok keys =>
          simp only [mirrors.vars]
          have changed : ∀ vars,
              Machine.Mirrors move { machine with vars } { other with vars } :=
            fun _ => ⟨mirrors.position, mirrors.untaken, mirrors.frames, rfl⟩
          exact .ok _ ((changed _).advance next)

/-- Directives of machines that mirror each other do the same. -/
theorem step (scene : Scene) (runner : Option Runner)
    (instruction : Instruction) (world : World) :
    Outcome.Mirrors move (scene.step runner instruction machine world)
      (scene.step runner (instruction.retarget move) other world) := by
  -- what an instruction reads is the same for both, so that its outcome is told
  -- by the same cases
  cases instruction with
  | text text => exact .ok world ((mirrors.write text text).advance next)
  | print expr =>
      simp only [Scene.step, Instruction.retarget, mirrors.view]
      cases expr.eval (machine.view scene world) with
      | error error => exact .error error world
      | ok value => exact .ok world ((mirrors.write _ _).advance next)
  | set name subscripts value =>
      exact mirrors.assign next scene world name subscripts value runner
  | branch condition position =>
      simp only [Scene.step, Instruction.retarget, mirrors.view]
      exact mirrors.test next _ position world
  | elseBranch condition position exit =>
      simp only [Scene.step, Instruction.retarget, mirrors.view,
        mirrors.untaken]
      split
      · exact mirrors.test next _ position world
      · exact .ok world (mirrors.goto exit)
  | otherwise exit =>
      simp only [Scene.step, Instruction.retarget, mirrors.untaken]
      split
      · exact .ok world (mirrors.advance next)
      · exact .ok world (mirrors.goto exit)
  | endBranch => exact .ok world (mirrors.advance next)
  | openBlock id rowAlias source skip =>
      simp only [Scene.step, Instruction.retarget, mirrors.view]
      cases source.rows (machine.view scene world) with
      | error error => exact .error error world
      | ok rows => exact .ok world (mirrors.openRows next id skip rows)
  | elseBlock id body exit =>
      obtain ⟨moved, again⟩ := mirrors.nextRow id
      simp only [Scene.step, Instruction.retarget, again]
      split
      · exact .ok world (moved.goto body)
      · exact .ok world (moved.goto exit)
  | closeBlock id body =>
      obtain ⟨moved, again⟩ := mirrors.nextRow id
      simp only [Scene.step, Instruction.retarget, again]
      split
      · exact .ok world (moved.goto body)
      · refine .ok world (moved.advance ?_)
        rw [Machine.position_nextRow, next]
  | inclusion target once kind =>
      simp only [Scene.step, Instruction.retarget, mirrors.include_eq]
      rcases scene.include runner machine world target once kind with
        _ | ⟨error | text, after⟩
      · exact .none
      · exact .error error after
      · exact .ok after ((mirrors.write text text).advance next)

end

end Machine.Mirrors

/-! ## A whole run -/

theorem Machine.skip_of_test {machine next : Machine} {position : Nat}
    {answer : Except Error Bool} {world after : World}
    (step :
      some
          (answer.map fun holds =>
              if holds then machine.advance else machine.skipTo position,
            world) =
        some (.ok next, after)) (untaken : next.untaken = true) :
    some position = some next.position := by
  rcases answer with error | _ | _
  · cases step
  · cases step
    rfl
  · cases step
    cases untaken

/-- Behind a directive, a machine is untaken only where that directive has
skipped to. -/
theorem Scene.skip_of_step {scene : Scene} {runner : Option Runner}
    {instruction : Instruction} {machine next : Machine} {world after : World}
    (step :
      scene.step runner instruction machine world = some (.ok next, after))
    (untaken : next.untaken = true) :
    instruction.skip? = some next.position := by
  cases instruction with
  | text text =>
      cases step
      cases untaken
  | print expr =>
      simp only [Scene.step] at step
      cases evaluated : expr.eval (machine.view scene world) with
      | error error =>
          rw [evaluated] at step
          cases step
      | ok value =>
          rw [evaluated] at step
          cases step
          cases untaken
  | set name subscripts value =>
      simp only [Scene.step] at step
      split at step <;> cases step
      cases untaken
  | branch condition position => exact Machine.skip_of_test step untaken
  | elseBranch condition position exit =>
      simp only [Scene.step] at step
      split at step
      · exact Machine.skip_of_test step untaken
      · cases step
        cases untaken
  | otherwise exit =>
      cases step
      split at untaken <;> cases untaken
  | endBranch =>
      cases step
      cases untaken
  | openBlock id rowAlias source skip =>
      simp only [Scene.step] at step
      rcases rows : source.rows (machine.view scene world) with
        error | _ | ⟨row, following⟩
      · rw [rows] at step
        cases step
      all_goals
        rw [rows] at step
        cases step
        cases untaken
  | elseBlock id body exit =>
      cases step
      cases untaken
  | closeBlock id body =>
      simp only [Scene.step] at step
      rcases turned : machine.nextRow id with ⟨moved, _ | _⟩
      all_goals
        rw [turned] at step
        cases step
        cases untaken
  | inclusion target once kind =>
      simp only [Scene.step] at step
      split at step <;> cases step
      cases untaken

/-- Whether the run of another program ends if that of a program does, in the
same world and with the same deeds. -/
def Scene.Follows (scene : Scene) (runner : Option Runner)
    (inside : Program → Table Binding → World → List Deed)
    (program other : Program) (steps : Nat) (machine beside : Machine)
    (world : World) : Prop :=
  ∀ (result : Except Error Machine) (after : World),
    scene.run runner program steps machine world = some (result, after) →
    ∃ otherResult,
      scene.run runner other steps beside world = some (otherResult, after) ∧
      scene.journal runner (scene.deedsAt inside) other steps beside world =
        scene.journal runner (scene.deedsAt inside) program steps machine world

theorem Scene.Follows.trans {scene : Scene} {runner : Option Runner}
    {inside : Program → Table Binding → World → List Deed}
    {program middle other : Program} {steps : Nat}
    {machine between beside : Machine} {world : World}
    (first :
      scene.Follows runner inside program middle steps machine between world)
    (second :
      scene.Follows runner inside middle other steps between beside world) :
    scene.Follows runner inside program other steps machine beside world := by
  intro result after ended
  obtain ⟨middleResult, middleEnded, same⟩ := first _ _ ended
  obtain ⟨otherResult, otherEnded, otherSame⟩ := second _ _ middleEnded
  exact ⟨otherResult, otherEnded, otherSame.trans same⟩

/-- Whether a program stands behind another one, of which texts may be
dropped. -/
structure Program.Mirrors (move : Nat → Nat) (program other : Program) :
    Prop where
  ended : ∀ {position : Nat}, program.instructions[position]? = none →
    other.instructions[move position]? = none
  text : ∀ {position : Nat} {text : String},
    program.instructions[position]? = some (.text text) →
    move (position + 1) = move position ∨
      move (position + 1) = move position + 1 ∧
        ∃ printed, other.instructions[move position]? = some (.text printed)
  directive : ∀ {position : Nat} {instruction : Instruction},
    program.instructions[position]? = some instruction →
    Compaction.kind instruction = .directive →
    move (position + 1) = move position + 1 ∧
      other.instructions[move position]? = some (instruction.retarget move)
  skips :
    ∀ {position : Nat} {instruction : Instruction},
      program.instructions[position]? = some instruction →
        program.SkipsTexts position instruction

namespace Program.Mirrors

variable {move : Nat → Nat} {program other : Program}
  (mirrors : program.Mirrors move other) {scene : Scene}
  {runner : Option Runner}
  {inside : Program → Table Binding → World → List Deed} {steps : Nat}
  {machine beside : Machine} {world : World}

include mirrors

theorem follows_of_ended (alike : machine.Mirrors move beside)
    (past : program.instructions[machine.position]? = none) :
    scene.Follows runner inside program other steps machine beside world := by
  intro result after ended
  have otherPast : other.instructions[beside.position]? = none := by
    rw [alike.position]
    exact mirrors.ended past
  rw [Scene.run_of_ended _ _ _ _ past] at ended
  cases ended
  refine ⟨.ok beside, Scene.run_of_ended _ _ _ _ otherPast, ?_⟩
  rw [Scene.journal_of_ended _ _ _ _ _ past,
    Scene.journal_of_ended _ _ _ _ _ otherPast]

section

variable
  (later :
    ∀ {machine beside : Machine} {world : World}, machine.Mirrors move beside →
      (machine.untaken = true →
        ∀ text, program.instructions[machine.position]? ≠ some (.text text)) →
      scene.Follows runner inside program other steps machine beside world)

include later

/-- A directive is run by both programs. -/
theorem follows_directive (alike : machine.Mirrors move beside)
    {instruction : Instruction}
    (found : program.instructions[machine.position]? = some instruction)
    (directive : Compaction.kind instruction = .directive) :
    scene.Follows runner inside program other (steps + 1) machine beside
      world := by
  intro result after ended
  obtain ⟨next, otherFound⟩ := mirrors.directive found directive
  rw [← alike.position] at otherFound
  have both := alike.step next scene runner instruction world
  rw [Scene.run_succ scene runner steps world found] at ended
  rw [Scene.run_succ scene runner steps world otherFound,
    Scene.journal_succ scene runner _ world steps found,
    Scene.journal_succ scene runner _ world steps otherFound,
    alike.deedsAt_retarget]
  generalize otherStepped :
    scene.step runner (instruction.retarget move) beside world = otherStep
      at both
  rcases stepped : scene.step runner instruction machine world with
    _ | ⟨error | following, middle⟩
  · rw [stepped] at ended
    cases ended
  · rw [stepped] at ended both
    cases ended
    cases both
    exact ⟨_, rfl, rfl⟩
  · rw [stepped] at ended both
    cases both with
    | ok _ alike =>
        obtain ⟨otherResult, otherEnded, same⟩ :=
          later alike
            (fun untaken =>
              mirrors.skips found _ (Scene.skip_of_step stepped untaken)) _ _
            ended
        exact ⟨otherResult, otherEnded, congrArg (_ ++ ·) same⟩

/-- A text is run by the other program too, unless it is dropped. -/
theorem follows_text (alike : machine.Mirrors move beside)
    (apart : machine.untaken = true →
      ∀ text, program.instructions[machine.position]? ≠ some (.text text))
    {text : String}
    (found : program.instructions[machine.position]? = some (.text text)) :
    scene.Follows runner inside program other (steps + 1) machine beside
      world := by
  intro result after ended
  have taken : machine.untaken = false := by
    rw [Bool.eq_false_iff]
    exact fun untaken => apart untaken text found
  have onward :
      (machine.write text).advance.untaken = true →
        ∀ text, program.instructions[(machine.write text).advance.position]? ≠
          some (.text text) := by
    intro untaken
    cases untaken
  rw [Scene.run_succ scene runner steps world found] at ended
  rw [Scene.journal_succ scene runner _ world steps found]
  rcases mirrors.text found with dropped | ⟨next, printed, otherFound⟩
  · -- the other run stays where it is, and has a step more than it needs
    have alike : (machine.write text).advance.Mirrors move beside :=
      ⟨alike.position.trans dropped.symm, alike.untaken.trans taken,
        alike.frames, alike.vars⟩
    obtain ⟨otherResult, otherEnded, same⟩ := later alike onward _ _ ended
    refine ⟨otherResult, ?_, ?_⟩
    · exact scene.run_extends (.refl runner) other (Nat.le_succ steps) _ _ _
        otherEnded
    · rw [scene.journal_extends _ _ (.refl runner) (Nat.le_succ steps)
          otherEnded]
      exact same
  · rw [← alike.position] at otherFound
    rw [Scene.run_succ scene runner steps world otherFound,
      Scene.journal_succ scene runner _ world steps otherFound]
    exact later ((alike.write text printed).advance next) onward _ _ ended

end

theorem follows (alike : machine.Mirrors move beside)
    (apart : machine.untaken = true → ∀ text,
      program.instructions[machine.position]? ≠ some (.text text)) :
    scene.Follows runner inside program other steps machine beside world := by
  induction steps generalizing machine beside world with
  | zero =>
      cases found : program.instructions[machine.position]? with
      | none => exact mirrors.follows_of_ended alike found
      | some instruction =>
          intro result after ended
          rw [Scene.run_zero scene runner world found] at ended
          cases ended
  | succ steps induction =>
      cases found : program.instructions[machine.position]? with
      | none => exact mirrors.follows_of_ended alike found
      | some instruction =>
          cases instruction with
          | text text => exact mirrors.follows_text induction alike apart found
          | _ => exact mirrors.follows_directive induction alike found rfl

theorem follows_start (start : move 0 = 0) (vars : Table Binding) :
    scene.Follows runner inside program other steps { vars } { vars }
      world := by
  have alike : Machine.Mirrors move { vars } { vars } :=
    ⟨start.symm, rfl, rfl, rfl⟩
  apply mirrors.follows alike
  intro untaken
  cases untaken

end Program.Mirrors

/-! ## Compaction -/

open Compaction (absorb kind keep keepBy marksBy moved)

section

variable {code : List Instruction}
  (skips : Placed (Program.SkipsTexts ⟨code⟩) 0 code)

include skips

/-- A program of which only the texts stay that a rule marks stands behind
it. -/
theorem Program.mirrors_keep (rule : TextRule) :
    Program.Mirrors (moved (marksBy rule .edge code)) ⟨code⟩
      ⟨keep (marksBy rule .edge code) code⟩ := by
  have same := Compaction.length_marksBy rule .edge code
  refine ⟨?_, ?_, ?_, ?_⟩
  · intro position past
    have behind : code.length ≤ position := List.getElem?_eq_none_iff.mp past
    have place : moved (marksBy rule .edge code) position =
        (keep (marksBy rule .edge code) code).length := by
      rw [Compaction.keep_eq_keepBy, Compaction.length_keepBy _ same, moved,
        List.take_of_length_le (by omega)]
    exact List.getElem?_eq_none_iff.mpr (Nat.le_of_eq place.symm)
  · intro position text found
    rcases marked : (marksBy rule .edge code)[position]? with _ | _ | _
    · rw [List.getElem?_eq_none_iff, same, ← List.getElem?_eq_none_iff]
        at marked
      cases marked.symm.trans found
    · exact .inl (Compaction.moved_succ marked)
    · right
      exact ⟨Compaction.moved_succ marked, text,
        Compaction.getElem?_keepBy _ same found marked⟩
  · intro position instruction found directive
    have marked : (marksBy rule .edge code)[position]? = some true :=
      Compaction.getElem?_marksBy .edge found directive
    exact ⟨Compaction.moved_succ marked,
      Compaction.getElem?_keepBy _ same found marked⟩
  · intro position instruction found
    exact skips position instruction found

theorem Program.mirrors_absorb : Program.Mirrors id ⟨code⟩ ⟨absorb code⟩ := by
  refine ⟨?_, ?_, ?_, ?_⟩
  · intro position past
    rw [List.getElem?_eq_none_iff] at past ⊢
    rwa [id, Compaction.length_absorb]
  · intro position text found
    obtain ⟨joined, there, isText, -⟩ := Compaction.getElem?_absorb found
    cases joined with
    | text printed => exact .inr ⟨rfl, printed, there⟩
    | _ => cases isText
  · intro position instruction found directive
    obtain ⟨joined, there, -, same⟩ := Compaction.getElem?_absorb found
    rw [same directive] at there
    refine ⟨rfl, there.trans (congrArg some ?_)⟩
    cases instruction <;> rfl
  · intro position instruction found
    exact skips position instruction found

end

/-- The run of a compacted tree ends if that of the tree does, in the same world
and with the same deeds. -/
theorem Scene.follows_compact (scene : Scene) (runner : Option Runner)
    (inside : Program → Table Binding → World → List Deed) (squeeze : Bool)
    (nodes : List Node) (steps : Nat) (vars : Table Binding) (world : World) :
    scene.Follows runner inside ⟨Node.flattenAll 0 nodes⟩
      ⟨Compaction.compact squeeze (Node.flattenAll 0 nodes)⟩ steps { vars }
      { vars } world := by
  -- between any two of the three steps of compaction the program is that of a
  -- tree
  have skips : ∀ nodes, Placed (Program.SkipsTexts ⟨Node.flattenAll 0 nodes⟩) 0
      (Node.flattenAll 0 nodes) :=
    fun nodes => Node.skipsTexts_flattenAll nodes (Program.hasAt_self _)
  have kept :
      ∀ rule nodes,
        scene.Follows runner inside ⟨Node.flattenAll 0 nodes⟩
          ⟨Node.flattenAll 0 (Node.thinAll rule .edge .edge nodes)⟩ steps
          { vars } { vars } world := by
    intro rule nodes
    rw [← Node.keep_flattenAll]
    exact (Program.mirrors_keep (skips nodes) rule).follows_start
      (by simp [moved]) vars
  have absorbed :
      ∀ nodes,
        scene.Follows runner inside ⟨Node.flattenAll 0 nodes⟩
          ⟨Node.flattenAll 0 (Node.absorbAll nodes)⟩ steps { vars } { vars }
          world := by
    intro nodes
    rw [← Node.absorb_flattenAll_zero]
    exact (Program.mirrors_absorb (skips nodes)).follows_start rfl vars
  rw [Node.compact_flattenAll]
  exact ((kept _ nodes).trans (absorbed _)).trans (kept _ _)

end TemplateEngine
