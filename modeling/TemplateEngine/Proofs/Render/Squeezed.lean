import TemplateEngine.Proofs.Render.Compacted

/-!
# Blank characters aside

Dropping blank texts from a tree changes what it prints in blank characters
only.  What is assigned and included does not depend on what has been printed.
-/

namespace TemplateEngine

namespace Text

/-- A text without its blank characters. -/
def withoutBlanks (text : String) : List Char :=
  text.toList.filter fun character => !isBlank character

theorem withoutBlanks_append (first second : String) :
    withoutBlanks (first ++ second) =
      withoutBlanks first ++ withoutBlanks second := by
  simp [withoutBlanks]

theorem withoutBlanks_of_isAllBlank {text : String}
    (blank : isAllBlank text.toList = true) : withoutBlanks text = [] := by
  simpa [withoutBlanks, isAllBlank] using blank

end Text

/-- Texts that do not stay are blank. -/
theorem Compaction.withoutBlanks_of_printing {squeeze : Bool}
    {before after : Neighbour} {text : String}
    (dropped : ¬printing squeeze before after text = true) :
    Text.withoutBlanks text = [] := by
  by_cases empty : text = ""
  · rw [empty]
    rfl
  · apply Text.withoutBlanks_of_isAllBlank
    by_cases blank : Text.isAllBlank text.toList = true
    · exact blank
    · simp [printing, empty, blank] at dropped

/-- What has been assigned and printed, blank characters aside. -/
def Rendering.bare (rendering : Rendering) : Table Binding × List Char :=
  (rendering.vars, Text.withoutBlanks rendering.output)

/-- An outcome, blank characters aside. -/
def Outcome.bare (outcome : Outcome Rendering) :
    Outcome (Table Binding × List Char) :=
  outcome.map fun (result, world) => (result.map Rendering.bare, world)

section

variable {first second : Rendering}

theorem Rendering.bare_write (alike : first.bare = second.bare)
    (text : String) : (first.write text).bare = (second.write text).bare := by
  obtain ⟨vars, printed⟩ := Prod.mk.inj alike
  rw [bare, bare, write, write, Text.withoutBlanks_append,
    Text.withoutBlanks_append, printed, vars]

theorem Rendering.bare_write_blank {text : String}
    (blank : Text.withoutBlanks text = []) :
    (first.write text).bare = first.bare := by
  rw [bare, bare, write, Text.withoutBlanks_append, blank, List.append_nil]

/-- What expressions read does not depend on what has been printed. -/
theorem Rendering.view_of_bare (alike : first.bare = second.bare)
    (scene : Scene) (frames : List Frame) (world : World) :
    first.view scene frames world = second.view scene frames world := by
  obtain ⟨vars, -⟩ := Prod.mk.inj alike
  simp only [view, within, Machine.view, vars]

/-- What is assigned does not depend on what has been printed. -/
theorem Node.bare_render_set (alike : first.bare = second.bare) (scene : Scene)
    (runner : Option Runner) (frames : List Frame) (world : World)
    (name : String) (subscripts : List Argument) (value : List Piece) :
    ((Node.set name subscripts value).render scene runner frames first
        world).bare =
      ((Node.set name subscripts value).render scene runner frames second
        world).bare := by
  have sameView :
      (first.within frames).view scene world =
        (second.within frames).view scene world :=
    Rendering.view_of_bare alike scene frames world
  obtain ⟨vars, printed⟩ := Prod.mk.inj alike
  simp only [Node.render, Machine.assign, sameView]
  cases Piece.assigned ((second.within frames).view scene world) value with
  | error error => rfl
  | ok value =>
      cases Argument.evalAll ((second.within frames).view scene world)
        subscripts with
      | error error => rfl
      | ok keys =>
          simp [Outcome.bare, Except.map, Rendering.within, Rendering.ofMachine,
            Rendering.bare, vars, printed]

theorem Rendering.include_of_bare (alike : first.bare = second.bare)
    (scene : Scene) (runner : Option Runner) (frames : List Frame)
    (world : World) (target : Target) (once : Bool) (kind : InclusionKind) :
    scene.include runner (first.within frames) world target once kind =
      scene.include runner (second.within frames) world target once kind := by
  have sameView :
      (first.within frames).view scene world =
        (second.within frames).view scene world :=
    view_of_bare alike scene frames world
  obtain ⟨vars, -⟩ := Prod.mk.inj alike
  rw [Scene.include, Scene.include, sameView, within, within, vars]

end

namespace Outcome

/-- Outcomes that are alike go on alike. -/
theorem bare_andThen {first second : Outcome Rendering}
    {next other : Rendering → World → Outcome Rendering}
    (alike : first.bare = second.bare)
    (goOn :
      ∀ {rendering rest : Rendering}, rendering.bare = rest.bare →
        ∀ world, (next rendering world).bare = (other rest world).bare) :
    (first.andThen next).bare = (second.andThen other).bare := by
  rcases first with
    _ | ⟨_ | rendering, world⟩ <;> rcases second with _ | ⟨_ | rest, after⟩
  · rfl
  · cases alike
  · cases alike
  · cases alike
  · cases alike
    rfl
  · cases alike
  · cases alike
  · cases alike
  · simp only [bare, Option.map_some, Except.map, Option.some.injEq,
      Prod.mk.injEq, Except.ok.injEq] at alike
    obtain ⟨same, rfl⟩ := alike
    exact goOn same world

end Outcome

theorem Rendering.bare_throughRows
    {body other : List Frame → Rendering → World → Outcome Rendering}
    (each :
      ∀ frames {first second : Rendering}, first.bare = second.bare →
        ∀ world,
          (body frames first world).bare = (other frames second world).bare)
    (id : Nat) (frames : List Frame) (rows : List Row)
    {first second : Rendering} (alike : first.bare = second.bare)
    (world : World) :
    (throughRows body id frames rows first world).bare =
      (throughRows other id frames rows second world).bare := by
  induction rows generalizing first second world with
  | nil =>
      rw [throughRows, throughRows, Outcome.bare, Outcome.bare]
      simp [Except.map, alike]
  | cons row following induction =>
      rw [throughRows, throughRows]
      apply Outcome.bare_andThen (each _ alike world)
      intro first second alike world
      exact induction alike world

section

variable {scene : Scene} {runner : Option Runner} (squeeze : Bool)

mutual

theorem Node.bare_render_thin (node : Node) (frames : List Frame)
    {first second : Rendering} (alike : first.bare = second.bare)
    (world : World) :
    ((node.thin (Compaction.printing squeeze)).render scene runner frames first
        world).bare =
      (node.render scene runner frames second world).bare := by
  match node with
  | .text text =>
      simp [Node.thin, Node.render, Outcome.bare, Except.map,
        Rendering.bare_write alike text]
  | .print expr =>
      simp only [Node.thin, Node.render, Rendering.view_of_bare alike]
      cases expr.eval (second.view scene frames world) with
      | error error => rfl
      | ok value => simp [Outcome.bare, Except.map, Rendering.bare_write alike]
  | .set name subscripts value =>
      exact Node.bare_render_set alike scene runner frames world name subscripts
        value
  | .inclusion target once kind =>
      simp only [Node.thin, Node.render, Rendering.include_of_bare alike]
      rcases scene.include runner (second.within frames) world target once
        kind with
        _ | ⟨_ | text, after⟩
      · rfl
      · rfl
      · simp [Outcome.bare, Except.map, Rendering.bare_write alike]
  | .choose condition body rest =>
      rw [Node.thin, Node.render, Node.render, Rendering.view_of_bare alike]
      rcases scene.test (second.view scene frames world) condition with
        error | _ | _
      · rfl
      · exact Alternative.bare_render_thin rest frames alike world
      · exact Node.bare_renderAll_thinAll body _ _ frames alike world
  | .each id rowAlias source body none =>
      rw [Node.thin, Node.render, Node.render, Rendering.view_of_bare alike]
      rcases source.rows (second.view scene frames world) with
        error | _ | ⟨row, following⟩
      · rfl
      · simp [Outcome.bare, Except.map, alike]
      · exact Rendering.bare_throughRows
          (fun frames _ _ alike world =>
            Node.bare_renderAll_thinAll body _ _ frames alike world) id frames
          (row :: following) alike world
  | .each id rowAlias source body (some empty) =>
      rw [Node.thin, Node.render, Node.render, Rendering.view_of_bare alike]
      rcases source.rows (second.view scene frames world) with
        error | _ | ⟨row, following⟩
      · rfl
      · exact Node.bare_renderAll_thinAll empty _ _ frames alike world
      · exact Rendering.bare_throughRows
          (fun frames _ _ alike world =>
            Node.bare_renderAll_thinAll body _ _ frames alike world) id frames
          (row :: following) alike world

/-- Dropping blank texts changes what is printed in blank characters only. -/
theorem Node.bare_renderAll_thinAll (nodes : List Node)
    (before after : Neighbour) (frames : List Frame) {first second : Rendering}
    (alike : first.bare = second.bare) (world : World) :
    (Node.renderAll scene runner frames
        (Node.thinAll (Compaction.printing squeeze) before after nodes) first
        world).bare =
      (Node.renderAll scene runner frames nodes second world).bare := by
  match nodes with
  | [] =>
      rw [Node.thinAll, Node.renderAll, Outcome.bare, Node.renderAll,
        Outcome.bare]
      simp [Except.map, alike]
  | node :: nodes =>
      rw [Node.thinAll]
      split
      next =>
        rw [Node.renderAll, Node.renderAll]
        apply Outcome.bare_andThen
          (Node.bare_render_thin node frames alike world)
        intro first second alike world
        exact Node.bare_renderAll_thinAll nodes _ _ frames alike world
      next dropped =>
        cases node with
        | text content =>
            have blank := Compaction.withoutBlanks_of_printing dropped
            rw [Node.renderAll, Node.render]
            apply Node.bare_renderAll_thinAll nodes _ _ frames
            rw [alike, Rendering.bare_write_blank blank]
        | _ => exact absurd rfl dropped

theorem Alternative.bare_render_thin (rest : Alternative) (frames : List Frame)
    {first second : Rendering} (alike : first.bare = second.bare)
    (world : World) :
    ((rest.thin (Compaction.printing squeeze)).render scene runner frames first
        world).bare =
      (rest.render scene runner frames second world).bare := by
  match rest with
  | .done =>
      rw [Alternative.thin, Alternative.render, Alternative.render,
        Outcome.bare, Outcome.bare]
      simp [Except.map, alike]
  | .otherwise body =>
      rw [Alternative.thin, Alternative.render, Alternative.render]
      exact Node.bare_renderAll_thinAll body _ _ frames alike world
  | .elseIf condition body rest =>
      rw [Alternative.thin, Alternative.render, Alternative.render,
        Rendering.view_of_bare alike]
      rcases scene.test (second.view scene frames world) condition with
        error | _ | _
      · rfl
      · exact Alternative.bare_render_thin rest frames alike world
      · exact Node.bare_renderAll_thinAll body _ _ frames alike world

end

/-- A compacted tree means what it did, blank characters aside. -/
theorem Node.bare_renderAll_compactAll (nodes : List Node) (frames : List Frame)
    (rendering : Rendering) (world : World) :
    (Node.renderAll scene runner frames (Node.compactAll squeeze nodes)
        rendering world).bare =
      (Node.renderAll scene runner frames nodes rendering world).bare := by
  rw [Node.compactAll, Node.renderAll_joined _ .edge (by decide)]
  exact Node.bare_renderAll_thinAll squeeze nodes .edge .edge frames rfl world

end

end TemplateEngine
