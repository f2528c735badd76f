import TemplateEngine.Proofs.Render.Tree
import TemplateEngine.Proofs.Template.Compacted

/-!
# What a compacted tree means

Compaction without squeezing keeps what a tree means: only empty texts are
dropped, and texts are joined that are written one right after the other.
-/

namespace TemplateEngine

@[simp] theorem Rendering.write_empty (rendering : Rendering) :
    rendering.write "" = rendering := by
  simp [write]

theorem Rendering.write_append (rendering : Rendering) (first second : String) :
    rendering.write (first ++ second) =
      (rendering.write first).write second := by
  simp [write, String.append_assoc]

section

variable {scene : Scene} {runner : Option Runner}

/-! ## Dropping empty texts -/

mutual

theorem Node.render_thin (node : Node) (frames : List Frame) :
    (node.thin (Compaction.printing false)).render scene runner frames =
      node.render scene runner frames := by
  match node with
  | .text _ => rfl
  | .print _ => rfl
  | .set _ _ _ => rfl
  | .inclusion _ _ _ => rfl
  | .choose condition body rest =>
      funext rendering world
      simp only [Node.thin, Node.render, Node.renderAll_thinAll body,
        Alternative.render_thin rest]
  | .each id rowAlias source body none =>
      funext rendering world
      simp only [Node.thin, Node.render, Node.renderAll_thinAll body]
  | .each id rowAlias source body (some empty) =>
      funext rendering world
      simp only [Node.thin, Node.render, Node.renderAll_thinAll body,
        Node.renderAll_thinAll empty]

/-- Dropping texts that are empty changes nothing. -/
theorem Node.renderAll_thinAll (nodes : List Node) (before after : Neighbour)
    (frames : List Frame) :
    Node.renderAll scene runner frames
        (Node.thinAll (Compaction.printing false) before after nodes) =
      Node.renderAll scene runner frames nodes := by
  match nodes with
  | [] => rfl
  | node :: nodes =>
      funext rendering world
      rw [Node.thinAll]
      split
      next =>
        rw [Node.renderAll, Node.renderAll, Node.render_thin node,
          Node.renderAll_thinAll nodes]
      next dropped =>
        rw [Node.renderAll_thinAll nodes]
        cases node with
        | text content =>
            have nothing : content = "" := by
              simpa [Node.stays, Compaction.printing] using dropped
            rw [nothing, Node.renderAll, Node.render, Rendering.write_empty]
            rfl
        | _ => exact absurd rfl dropped

theorem Alternative.render_thin (rest : Alternative) (frames : List Frame) :
    (rest.thin (Compaction.printing false)).render scene runner frames =
      rest.render scene runner frames := by
  match rest with
  | .done => rfl
  | .otherwise body =>
      funext rendering world
      rw [Alternative.thin, Alternative.render, Alternative.render,
        Node.renderAll_thinAll body]
  | .elseIf condition body rest =>
      funext rendering world
      simp only [Alternative.thin, Alternative.render,
        Node.renderAll_thinAll body, Alternative.render_thin rest]

end

/-! ## Joining texts -/

/-- A node that is no text stays among joined texts. -/
theorem Node.thinAll_absorbAll_cons {node : Node}
    (directive : node.kind = .directive) (before after : Neighbour)
    (nodes : List Node) :
    Node.thinAll Compaction.leading before after
        (Node.absorbAll (node :: nodes)) =
      (node.absorb "").thin Compaction.leading ::
        Node.thinAll Compaction.leading .directive after
          (Node.absorbAll nodes) := by
  match node with
  | .text _ => cases directive
  | .print _ | .set _ _ _ | .inclusion _ _ _ | .choose _ _ _ | .each _ _ _ _
      none
  | .each _ _ _ _ (some _) => rfl

mutual

/-- A node that is no text means the same when the texts in it are joined. -/
theorem Node.render_joined (node : Node) (directive : node.kind = .directive)
    (frames : List Frame) :
    ((node.absorb "").thin Compaction.leading).render scene runner frames =
      node.render scene runner frames := by
  match node with
  | .text _ => cases directive
  | .print _ => rfl
  | .set _ _ _ => rfl
  | .inclusion _ _ _ => rfl
  | .choose condition body rest =>
      funext rendering world
      simp only [Node.absorb, Node.thin, Node.render,
        Node.renderAll_joined body .directive (by decide),
        Alternative.render_joined rest]
  | .each id rowAlias source body none =>
      funext rendering world
      simp only [Node.absorb, Node.thin, Node.render,
        Node.renderAll_joined body .directive (by decide)]
  | .each id rowAlias source body (some empty) =>
      funext rendering world
      simp only [Node.absorb, Node.thin, Node.render,
        Node.renderAll_joined body .directive (by decide),
        Node.renderAll_joined empty .directive (by decide)]

/-- Joining texts changes nothing. -/
theorem Node.renderAll_joined (nodes : List Node) (before : Neighbour)
    (apart : before ≠ .text) (after : Neighbour) (frames : List Frame) :
    Node.renderAll scene runner frames
        (Node.thinAll Compaction.leading before after (Node.absorbAll nodes)) =
      Node.renderAll scene runner frames nodes := by
  match nodes with
  | [] => rfl
  | .text content :: nodes =>
      funext rendering world
      have stays :
          Compaction.leading before
            (Node.firstKind after (Node.absorbAll nodes))
            (content ++ Node.leadingText nodes) := by
        simpa [Compaction.leading] using apart
      have written :=
        Node.renderAll_joined_written nodes after frames
          (rendering.write content) world
      rw [Node.absorbAll, Node.absorb, Node.thinAll, Node.stays, if_pos stays]
      rw [← Rendering.write_append] at written
      exact written
  | .print _ :: nodes | .set _ _ _ :: nodes | .inclusion _ _ _ :: nodes
  | .choose _ _ _ :: nodes | .each _ _ _ _ none :: nodes
  | .each _ _ _ _ (some _) :: nodes =>
      funext rendering world
      rw [Node.thinAll_absorbAll_cons rfl, Node.renderAll, Node.renderAll,
        Node.render_joined _ rfl,
        Node.renderAll_joined nodes .directive (by decide)]

/-- Behind a text, the first texts are written together with it. -/
theorem Node.renderAll_joined_written (nodes : List Node) (after : Neighbour)
    (frames : List Frame) (rendering : Rendering) (world : World) :
    Node.renderAll scene runner frames
        (Node.thinAll Compaction.leading .text after (Node.absorbAll nodes))
        (rendering.write (Node.leadingText nodes)) world =
      Node.renderAll scene runner frames nodes rendering world := by
  match nodes with
  | [] =>
      exact congrArg
        (fun start => Node.renderAll scene runner frames [] start world)
        rendering.write_empty
  | .text content :: nodes =>
      rw [Node.leadingText, Rendering.write_append]
      exact Node.renderAll_joined_written nodes after frames
        (rendering.write content) world
  | .print _ :: nodes | .set _ _ _ :: nodes | .inclusion _ _ _ :: nodes
  | .choose _ _ _ :: nodes | .each _ _ _ _ none :: nodes
  | .each _ _ _ _ (some _) :: nodes =>
      refine
        (congrArg
          (fun start => Node.renderAll scene runner frames _ start world)
          rendering.write_empty).trans ?_
      rw [Node.thinAll_absorbAll_cons rfl, Node.renderAll, Node.renderAll,
        Node.render_joined _ rfl,
        Node.renderAll_joined nodes .directive (by decide)]

theorem Alternative.render_joined (rest : Alternative) (frames : List Frame) :
    (rest.absorb.thin Compaction.leading).render scene runner frames =
      rest.render scene runner frames := by
  match rest with
  | .done => rfl
  | .otherwise body =>
      funext rendering world
      rw [Alternative.absorb, Alternative.thin, Alternative.render,
        Alternative.render, Node.renderAll_joined body .directive (by decide)]
  | .elseIf condition body rest =>
      funext rendering world
      simp only [Alternative.absorb, Alternative.thin, Alternative.render,
        Node.renderAll_joined body .directive (by decide),
        Alternative.render_joined rest]

end

/-- A tree that is compacted without squeezing means what it did. -/
theorem Node.renderAll_compactAll (nodes : List Node) (frames : List Frame) :
    Node.renderAll scene runner frames (Node.compactAll false nodes) =
      Node.renderAll scene runner frames nodes := by
  rw [Node.compactAll, Node.renderAll_joined _ .edge (by decide),
    Node.renderAll_thinAll]

end

end TemplateEngine
