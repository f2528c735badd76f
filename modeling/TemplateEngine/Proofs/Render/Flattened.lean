import TemplateEngine.Proofs.Render.Tree
import TemplateEngine.Proofs.Template.Layout

/-!
# Running a flattened tree

From the position at which a node is laid out, a run does what the node means
and stands behind the node afterwards.  The numbers of the open iterations must
not occur in the node: the end of an iteration closes the innermost one if that
has its number, also when it is reached from the part for no rows.
-/

namespace TemplateEngine

/-- Where a run stands: a position, whether it was reached because a condition
did not hold, and the open iterations, innermost first. -/
structure Point where
  position : Nat
  untaken : Bool
  frames : List Frame

/-- The machine that has rendered so far and stands at a point. -/
def Rendering.machine (rendering : Rendering) (point : Point) : Machine where
  position := point.position
  untaken := point.untaken
  frames := point.frames
  vars := rendering.vars
  output := rendering.output

/-- From a point on, a run with enough steps has an outcome, and goes on at
another point unless it failed. -/
def Scene.Yields (scene : Scene) (runner : Option Runner) (program : Program)
    (start : Point) (rendering : Rendering) (world : World)
    (outcome : Outcome Rendering) (finish : Point) : Prop :=
  ∃ needed, ∀ steps,
    scene.run runner program (steps + needed) (rendering.machine start) world =
      outcome.andThen fun rendering world =>
        scene.run runner program steps (rendering.machine finish) world

namespace Scene.Yields

variable {scene : Scene} {runner : Option Runner} {program : Program}

theorem refl (point : Point) (rendering : Rendering) (world : World) :
    scene.Yields runner program point rendering world
      (some (.ok rendering, world)) point :=
  ⟨0, fun _ => rfl⟩

/-- What is done first decides where the second part begins. -/
theorem andThen {start middle finish : Point} {rendering : Rendering}
    {world : World} {outcome : Outcome Rendering}
    {next : Rendering → World → Outcome Rendering}
    (first : scene.Yields runner program start rendering world outcome middle)
    (second :
      ∀ rendering world,
        scene.Yields runner program middle rendering world
          (next rendering world) finish) :
    scene.Yields runner program start rendering world (outcome.andThen next)
      finish := by
  obtain ⟨needed, first⟩ := first
  rcases outcome with _ | ⟨error | rendering, world⟩
  · exact ⟨needed, first⟩
  · exact ⟨needed, first⟩
  · obtain ⟨more, second⟩ := second rendering world
    refine ⟨more + needed, fun steps => ?_⟩
    rw [← Nat.add_assoc, first]
    exact second steps

/-- A single instruction. -/
theorem of_step {start finish : Point} {rendering : Rendering} {world : World}
    {instruction : Instruction} {outcome : Outcome Rendering}
    (next : program.instructions[start.position]? = some instruction)
    (step : scene.step runner instruction (rendering.machine start) world =
      outcome.andThen fun rendering world =>
        some (.ok (rendering.machine finish), world)) :
    scene.Yields runner program start rendering world outcome finish := by
  refine ⟨1, fun steps => ?_⟩
  rw [run_succ scene runner steps world next, step, Outcome.andThen_assoc]
  rfl

/-- An instruction that only goes on somewhere else. -/
theorem of_jump {start middle finish : Point} {rendering : Rendering}
    {world : World} {instruction : Instruction} {outcome : Outcome Rendering}
    (next : program.instructions[start.position]? = some instruction)
    (step : scene.step runner instruction (rendering.machine start) world =
      some (.ok (rendering.machine middle), world))
    (rest : scene.Yields runner program middle rendering world outcome finish) :
    scene.Yields runner program start rendering world outcome finish := by
  have first : scene.Yields runner program start rendering world
      (some (.ok rendering, world)) middle := of_step next step
  obtain ⟨needed, first⟩ := first
  obtain ⟨more, rest⟩ := rest
  refine ⟨more + needed, fun steps => ?_⟩
  rw [← Nat.add_assoc, first]
  exact rest steps

/-- An instruction that fails. -/
theorem of_error {start finish : Point} {rendering : Rendering} {world : World}
    {instruction : Instruction} {error : Error}
    (next : program.instructions[start.position]? = some instruction)
    (step : scene.step runner instruction (rendering.machine start) world =
      some (.error error, world)) :
    scene.Yields runner program start rendering world
      (some (.error error, world)) finish :=
  of_step next step

/-- A tested condition: its branch stands behind it, and the next branch is
reached untaken. -/
theorem of_test {start finish : Point} {next : Nat} {instruction : Instruction}
    {condition : Condition} {rendering : Rendering} {world : World}
    {taken untaken : Outcome Rendering}
    (found : program.instructions[start.position]? = some instruction)
    (step : scene.step runner instruction (rendering.machine start) world =
      some
        ((scene.test (rendering.view scene start.frames world) condition).map
          fun holds =>
            rendering.machine
              (if holds then ⟨start.position + 1, false, start.frames⟩
              else ⟨next, true, start.frames⟩), world))
    (holding :
      scene.Yields runner program ⟨start.position + 1, false, start.frames⟩
        rendering world taken finish)
    (failing :
      scene.Yields runner program ⟨next, true, start.frames⟩ rendering world
        untaken finish) :
    scene.Yields runner program start rendering world
      (match scene.test (rendering.view scene start.frames world) condition with
        | .error error => some (.error error, world)
        | .ok true => taken
        | .ok false => untaken) finish := by
  cases tested :
    scene.test (rendering.view scene start.frames world) condition with
  | error error =>
      rw [tested] at step
      exact of_error found step
  | ok holds =>
      rw [tested] at step
      cases holds with
      | true => exact of_jump found step holding
      | false => exact of_jump found step failing

/-- The opening of an iteration: it goes on at `skip` if there are no rows, and
with the first row active otherwise. -/
theorem of_rows {start finish : Point} {id skip : Nat} {rowAlias : String}
    {source : Source} {rendering : Rendering} {world : World}
    {empty : Outcome Rendering} {through : List Row → Outcome Rendering}
    (found : program.instructions[start.position]? =
      some (.openBlock id rowAlias source skip))
    (absent :
      scene.Yields runner program ⟨skip, false, start.frames⟩ rendering world
        empty finish)
    (present :
      ∀ row following,
        scene.Yields runner program
          ⟨start.position + 1, false, ⟨id, row, following⟩ :: start.frames⟩
          rendering world (through (row :: following)) finish) :
    scene.Yields runner program start rendering world
      (match source.rows (rendering.view scene start.frames world) with
        | .error error => some (.error error, world)
        | .ok [] => empty
        | .ok rows => through rows) finish := by
  have step :
      scene.step runner (.openBlock id rowAlias source skip)
          (rendering.machine start) world =
        some
          ((source.rows (rendering.view scene start.frames world)).map
              ((rendering.machine start).openRows id skip), world) := rfl
  rcases taken : source.rows (rendering.view scene start.frames world) with
    error | _ | ⟨row, following⟩
  · rw [taken] at step
    exact of_error found step
  · rw [taken] at step
    have skipped :
        scene.step runner (.openBlock id rowAlias source skip)
            (rendering.machine start) world =
          some (.ok (rendering.machine ⟨skip, false, start.frames⟩), world) :=
      step
    exact of_jump found skipped absent
  · rw [taken] at step
    have entered :
        scene.step runner (.openBlock id rowAlias source skip)
            (rendering.machine start) world =
          some
            (.ok (rendering.machine ⟨start.position + 1, false,
                ⟨id, row, following⟩ :: start.frames⟩), world) := step
    exact of_jump found entered (present row following)

/-- The rows of an iteration.  The instruction at its turn goes back to the body
as long as a row follows, and leaves the iteration after the last one. -/
theorem throughRows {id entry turn leave : Nat} {frames : List Frame}
    {instruction : Instruction}
    {body : List Frame → Rendering → World → Outcome Rendering}
    (bodyYields :
      ∀ row following rendering world,
        scene.Yields runner program
          ⟨entry, false, ⟨id, row, following⟩ :: frames⟩ rendering world
          (body (⟨id, row, following⟩ :: frames) rendering world)
          ⟨turn, false, ⟨id, row, following⟩ :: frames⟩)
    (next : program.instructions[turn]? = some instruction)
    (again :
      ∀ row following latest (rendering : Rendering) world,
        scene.step runner instruction
            (rendering.machine ⟨turn, false,
              ⟨id, latest, row :: following⟩ :: frames⟩) world =
          some
            (.ok (rendering.machine ⟨entry, false,
                ⟨id, row, following⟩ :: frames⟩), world))
    (finish :
      ∀ latest (rendering : Rendering) world,
        scene.step runner instruction
            (rendering.machine ⟨turn, false, ⟨id, latest, []⟩ :: frames⟩)
            world =
          some (.ok (rendering.machine ⟨leave, false, frames⟩), world))
    (row : Row) (following : List Row) (rendering : Rendering) (world : World) :
    scene.Yields runner program ⟨entry, false, ⟨id, row, following⟩ :: frames⟩
      rendering world
      (Rendering.throughRows body id frames (row :: following) rendering world)
      ⟨leave, false, frames⟩ := by
  induction following generalizing row rendering world with
  | nil =>
      apply (bodyYields row [] rendering world).andThen
      intro rendering world
      exact of_jump next (finish row rendering world) (.refl _ _ _)
  | cons following rows induction =>
      apply (bodyYields row (following :: rows) rendering world).andThen
      intro rendering world
      exact of_jump next (again following rows row rendering world)
        (induction following rendering world)

end Scene.Yields

namespace Rendering

variable (scene : Scene) (runner : Option Runner) (rendering : Rendering)
  (point : Point) (world : World)

/-- Assigning changes the variables and the cells, wherever a run stands. -/
theorem assign_machine (name : String) (subscripts : List Argument)
    (value : List Piece) :
    (rendering.machine point).assign scene world name subscripts value =
      ((rendering.within point.frames).assign scene world name subscripts
          value).map
        fun (machine, world) => ((ofMachine machine).machine point, world) := by
  unfold Machine.assign
  have sameView : (rendering.machine point).view scene world =
      (rendering.within point.frames).view scene world := rfl
  rw [sameView]
  dsimp only
  cases Piece.assigned ((rendering.within point.frames).view scene world)
    value with
  | error error => rfl
  | ok value =>
      cases Argument.evalAll ((rendering.within point.frames).view scene world)
        subscripts with
      | error error => rfl
      | ok keys => rfl

/-- What an inclusion does depends on the open iterations and the variables
alone. -/
theorem include_machine (target : Target) (once : Bool) (kind : InclusionKind) :
    scene.include runner (rendering.machine point) world target once kind =
      scene.include runner (rendering.within point.frames) world target once
        kind :=
  rfl

/-- The view from a point. -/
theorem view_machine :
    (rendering.machine point).view scene world =
      rendering.view scene point.frames world :=
  rfl

end Rendering

open Scene (Yields)

section

variable {scene : Scene} {runner : Option Runner} {program : Program}
  {frames : List Frame}

/-- The end of a condition goes on behind it. -/
theorem Scene.yields_endBranch {position : Nat} {untaken : Bool}
    (found : program.instructions[position]? = some .endBranch)
    (rendering : Rendering) (world : World) :
    scene.Yields runner program ⟨position, untaken, frames⟩ rendering world
      (some (.ok rendering, world)) ⟨position + 1, false, frames⟩ :=
  .of_step found rfl

/-- The further branches of a condition do nothing when they are reached from
the end of a branch: the condition is left. -/
theorem Alternative.yields_leave {rest : Alternative} {start exit : Nat}
    (stands : program.HasAt start (rest.flatten start exit))
    (last : exit + 1 = start + rest.size) (rendering : Rendering)
    (world : World) :
    scene.Yields runner program ⟨start, false, frames⟩ rendering world
      (some (.ok rendering, world)) ⟨exit + 1, false, frames⟩ := by
  have positive := rest.size_pos
  have place : start + (rest.size - 1) = exit := by omega
  have ends : program.instructions[exit]? = some .endBranch := by
    have found := stands _ _ (rest.getElem?_flatten_last start exit)
    rwa [place] at found
  have leave : scene.Yields runner program ⟨exit, false, frames⟩ rendering world
      (some (.ok rendering, world)) ⟨exit + 1, false, frames⟩ :=
    Scene.yields_endBranch ends rendering world
  cases rest with
  | done =>
      have same : start = exit := by simpa [Alternative.size] using place
      rw [same]
      exact leave
  | otherwise body =>
      rw [Alternative.flatten_otherwise, Program.hasAt_cons_iff] at stands
      exact .of_jump stands.1 rfl leave
  | elseIf condition body rest =>
      rw [Alternative.flatten_elseIf, Program.hasAt_cons_iff] at stands
      exact .of_jump stands.1 rfl leave

/-- The end of an iteration that is not open goes on behind it. -/
theorem Scene.yields_closeBlock_of_apart {position id body : Nat}
    (found : program.instructions[position]? = some (.closeBlock id body))
    (apart : ∀ frame ∈ frames, frame.id ≠ id) (rendering : Rendering)
    (world : World) :
    scene.Yields runner program ⟨position, false, frames⟩ rendering world
      (some (.ok rendering, world)) ⟨position + 1, false, frames⟩ := by
  apply Yields.of_step found
  cases frames with
  | nil => rfl
  | cons frame frames =>
      have other : frame.id ≠ id := apart frame (by simp)
      simp [Scene.step, Machine.nextRow, Rendering.machine, other,
        Machine.advance, Machine.goto]

/-- The numbers of open iterations are apart from those of a part also after one
more is opened. -/
private theorem apart_cons {ids : List Nat} {id : Nat} {row : Row}
    {following : List Row} (fresh : id ∉ ids)
    (apart : ∀ frame ∈ frames, frame.id ∉ ids) :
    ∀ frame ∈ (⟨id, row, following⟩ : Frame) :: frames, frame.id ∉ ids := by
  intro frame member
  rcases List.mem_cons.mp member with own | outer
  · rw [own]
    exact fresh
  · exact apart frame outer

/-- A step that tests a condition. -/
theorem Scene.step_test (answer : Except Error Bool) (start : Point)
    (next : Nat) (rendering : Rendering) (world : World) :
    (some (answer.map fun holds =>
        if holds then (rendering.machine start).advance
        else (rendering.machine start).skipTo next,
      world) : Outcome Machine) =
      some (answer.map fun holds =>
        rendering.machine
          (if holds then ⟨start.position + 1, false, start.frames⟩
          else ⟨next, true, start.frames⟩), world) := by
  rcases answer with _ | _ | _ <;> rfl

mutual

/-- A node that is laid out does what it means. -/
theorem Node.yields_render (node : Node) {start : Nat} {frames : List Frame}
    (stands : program.HasAt start (node.flatten start))
    (apart : ∀ frame ∈ frames, frame.id ∉ node.ids) (distinct : node.ids.Nodup)
    (rendering : Rendering) (world : World) :
    scene.Yields runner program ⟨start, false, frames⟩ rendering world
      (node.render scene runner frames rendering world)
      ⟨start + node.size, false, frames⟩ := by
  match node with
  | .text text => exact .of_step (Program.hasAt_cons_iff.mp stands).1 rfl
  | .print expr =>
      apply Yields.of_step (Program.hasAt_cons_iff.mp stands).1
      rw [Node.render, Scene.step, Rendering.view_machine]
      cases expr.eval (rendering.view scene frames world) <;> rfl
  | .set name subscripts value =>
      apply Yields.of_step (Program.hasAt_cons_iff.mp stands).1
      rw [Node.render, Scene.step, Rendering.assign_machine]
      cases (rendering.within frames).assign scene world name subscripts
          value <;> rfl
  | .inclusion target once kind =>
      apply Yields.of_step (Program.hasAt_cons_iff.mp stands).1
      rw [Node.render, Scene.step, Rendering.include_machine]
      dsimp only
      rcases scene.include runner (rendering.within frames) world target once
        kind with
        _ | ⟨_ | _, _⟩ <;> rfl
  | .choose condition body rest =>
      rw [Node.flatten_choose, Program.hasAt_cons_iff, Program.hasAt_append_iff,
        Node.length_flattenAll] at stands
      obtain ⟨head, bodyStands, restStands⟩ := stands
      simp only [Node.ids, List.mem_append, not_or] at apart
      rw [Node.ids, List.nodup_append] at distinct
      have last : start + 1 + Node.sizeAll body + rest.size - 1 + 1 =
          start + 1 + Node.sizeAll body + rest.size := by
        have positive := rest.size_pos
        omega
      have finish : start + (Node.choose condition body rest).size =
          start + 1 + Node.sizeAll body + rest.size := by
        rw [Node.size]
        omega
      have holding :=
        (Node.yields_renderAll body bodyStands
          (fun frame member => (apart frame member).1) distinct.1 rendering
          world).andThen fun rendering world =>
            Alternative.yields_leave restStands last rendering world
      rw [Outcome.andThen_pure, last] at holding
      have failing :=
        Alternative.yields_render rest restStands last
          (fun frame member => (apart frame member).2) distinct.2.1 rendering
          world
      rw [Node.render, finish]
      exact .of_test head (Scene.step_test _ _ _ rendering world) holding
        failing
  | .each id rowAlias source body none =>
      rw [Node.flatten_each, Program.hasAt_cons_iff, Program.hasAt_append_iff,
        Node.length_flattenAll] at stands
      obtain ⟨head, bodyStands, turn⟩ := stands
      have closing := (Program.hasAt_cons_iff.mp turn).1
      rw [Node.ids, List.nodup_cons] at distinct
      simp only [Node.ids, List.mem_cons, not_or] at apart
      have finish : start + (Node.each id rowAlias source body none).size =
          start + 1 + Node.sizeAll body + 1 := by
        rw [Node.size]
        omega
      rw [Node.render, finish]
      apply Yields.of_rows head (.refl _ _ _)
      intro row following
      apply Yields.throughRows _ closing
      · intro row following latest rendering world
        simp [Scene.step, Machine.nextRow, Rendering.machine, Machine.goto]
      · intro latest rendering world
        simp [Scene.step, Machine.nextRow, Rendering.machine, Machine.advance,
          Machine.goto]
      · intro row following rendering world
        exact Node.yields_renderAll body bodyStands
          (apart_cons distinct.1 fun frame member => (apart frame member).2)
          distinct.2 rendering world
  | .each id rowAlias source body (some empty) =>
      rw [Node.flatten_each_empty, Program.hasAt_cons_iff,
        Program.hasAt_append_iff, Program.hasAt_cons_iff,
        Program.hasAt_append_iff, Node.length_flattenAll,
        Node.length_flattenAll] at stands
      obtain ⟨head, bodyStands, turn, emptyStands, close⟩ := stands
      have closing := (Program.hasAt_cons_iff.mp close).1
      rw [Node.ids, List.nodup_cons, List.mem_append, not_or, List.nodup_append]
        at distinct
      obtain ⟨⟨freshBody, freshEmpty⟩, distinctBody, distinctEmpty, -⟩ :=
        distinct
      simp only [Node.ids, List.mem_cons, List.mem_append, not_or] at apart
      have finish :
          start + (Node.each id rowAlias source body (some empty)).size =
            start + 1 + Node.sizeAll body + 1 + Node.sizeAll empty + 1 := by
        rw [Node.size]
        omega
      rw [Node.render, finish]
      apply Yields.of_rows head
      · have skipped :=
          (Node.yields_renderAll empty emptyStands
            (fun frame member => (apart frame member).2.2) distinctEmpty
            rendering world).andThen fun rendering world =>
              Scene.yields_closeBlock_of_apart closing
                (fun frame member => (apart frame member).1) rendering world
        rwa [Outcome.andThen_pure] at skipped
      · intro row following
        apply Yields.throughRows _ turn
        · intro row following latest rendering world
          simp [Scene.step, Machine.nextRow, Rendering.machine, Machine.goto]
        · intro latest rendering world
          simp [Scene.step, Machine.nextRow, Rendering.machine, Machine.goto]
        · intro row following rendering world
          exact Node.yields_renderAll body bodyStands
            (apart_cons freshBody fun frame member => (apart frame member).2.1)
            distinctBody rendering world

/-- Nodes that are laid out do what they mean. -/
theorem Node.yields_renderAll (nodes : List Node) {start : Nat}
    {frames : List Frame}
    (stands : program.HasAt start (Node.flattenAll start nodes))
    (apart : ∀ frame ∈ frames, frame.id ∉ Node.idsAll nodes)
    (distinct : (Node.idsAll nodes).Nodup) (rendering : Rendering)
    (world : World) :
    scene.Yields runner program ⟨start, false, frames⟩ rendering world
      (Node.renderAll scene runner frames nodes rendering world)
      ⟨start + Node.sizeAll nodes, false, frames⟩ := by
  match nodes with
  | [] => exact .refl _ _ _
  | node :: nodes =>
      rw [Node.flattenAll, Program.hasAt_append_iff, Node.length_flatten]
        at stands
      simp only [Node.idsAll, List.mem_append, not_or] at apart
      rw [Node.idsAll, List.nodup_append] at distinct
      rw [Node.renderAll, Node.sizeAll, ← Nat.add_assoc]
      apply (Node.yields_render node stands.1
        (fun frame member => (apart frame member).1) distinct.1 rendering
        world).andThen
      intro rendering world
      exact Node.yields_renderAll nodes stands.2
        (fun frame member => (apart frame member).2) distinct.2.1 rendering
        world

/-- The further branches of a condition do what they mean when they are reached
because no branch before them held. -/
theorem Alternative.yields_render (rest : Alternative) {start exit : Nat}
    {frames : List Frame}
    (stands : program.HasAt start (rest.flatten start exit))
    (last : exit + 1 = start + rest.size)
    (apart : ∀ frame ∈ frames, frame.id ∉ rest.ids) (distinct : rest.ids.Nodup)
    (rendering : Rendering) (world : World) :
    scene.Yields runner program ⟨start, true, frames⟩ rendering world
      (rest.render scene runner frames rendering world)
      ⟨start + rest.size, false, frames⟩ := by
  match rest with
  | .done =>
      exact Scene.yields_endBranch (Program.hasAt_cons_iff.mp stands).1
        rendering world
  | .otherwise body =>
      rw [Alternative.flatten_otherwise, Program.hasAt_cons_iff,
        Program.hasAt_append_iff, Node.length_flattenAll] at stands
      obtain ⟨head, bodyStands, ends⟩ := stands
      have finish : start + (Alternative.otherwise body).size =
          start + 1 + Node.sizeAll body + 1 := by
        rw [Alternative.size]
        omega
      have entered :=
        (Node.yields_renderAll body bodyStands apart distinct rendering
          world).andThen fun rendering world =>
            Scene.yields_endBranch (Program.hasAt_cons_iff.mp ends).1
              rendering world
      rw [Outcome.andThen_pure] at entered
      rw [Alternative.render, finish]
      exact .of_jump head rfl entered
  | .elseIf condition body rest =>
      rw [Alternative.flatten_elseIf, Program.hasAt_cons_iff,
        Program.hasAt_append_iff, Node.length_flattenAll] at stands
      obtain ⟨head, bodyStands, restStands⟩ := stands
      simp only [Alternative.ids, List.mem_append, not_or] at apart
      rw [Alternative.ids, List.nodup_append] at distinct
      have finish : start + (Alternative.elseIf condition body rest).size =
          start + 1 + Node.sizeAll body + rest.size := by
        rw [Alternative.size]
        omega
      rw [finish] at last
      have holding :=
        (Node.yields_renderAll body bodyStands
          (fun frame member => (apart frame member).1) distinct.1 rendering
          world).andThen fun rendering world =>
            Alternative.yields_leave restStands last rendering world
      rw [Outcome.andThen_pure, last] at holding
      have failing :=
        Alternative.yields_render rest restStands last
          (fun frame member => (apart frame member).2) distinct.2.1 rendering
          world
      rw [Alternative.render, finish]
      exact .of_test head (Scene.step_test _ _ _ rendering world) holding
        failing

end

end

end TemplateEngine
