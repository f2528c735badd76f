import TemplateEngine.Proofs.Render.Compacted
import TemplateEngine.Proofs.Render.Flattened
import TemplateEngine.Proofs.Template.Parsed
import TemplateEngine.Template.Compiled

/-!
# Running a compiled template

The program of a template is its tree, compacted and laid out.  Running it does
what the tree means, and needs no more steps than some bound beyond those of the
templates that it includes.
-/

namespace TemplateEngine

/-- Where a run of a compacted tree ends. -/
def Node.ending (squeeze : Bool) (nodes : List Node) : Point where
  position := Node.sizeAll (Node.compactAll squeeze nodes)
  untaken := false
  frames := []

/-- With enough steps, running a laid out tree renders it. -/
theorem Scene.exists_run_flattenAll (scene : Scene) (runner : Option Runner)
    {nodes : List Node} (distinct : (Node.idsAll nodes).Nodup)
    (vars : Table Binding) (world : World) :
    ∃ needed, ∀ steps,
      scene.run runner ⟨Node.flattenAll 0 nodes⟩ (steps + needed) { vars }
          world =
        (Node.renderAll scene runner [] nodes { vars } world).andThen
          fun rendering world =>
            some (.ok (rendering.machine ⟨Node.sizeAll nodes, false, []⟩),
              world) := by
  have yields :
      scene.Yields runner ⟨Node.flattenAll 0 nodes⟩ ⟨0, false, []⟩ { vars }
        world (Node.renderAll scene runner [] nodes { vars } world)
        ⟨0 + Node.sizeAll nodes, false, []⟩ :=
    Node.yields_renderAll _ (Program.hasAt_self _)
      (fun _ member => absurd member List.not_mem_nil) distinct { vars } world
  obtain ⟨needed, run⟩ := yields
  refine ⟨needed, fun steps => (run steps).trans ?_⟩
  congr 1
  funext rendering world
  rw [Nat.zero_add]
  apply Scene.run_of_ended
  rw [Rendering.machine, List.getElem?_eq_none_iff]
  exact Nat.le_of_eq (Node.length_flattenAll _ _)

theorem Scene.exists_run_compact (scene : Scene) (runner : Option Runner)
    (squeeze : Bool) {nodes : List Node} (distinct : (Node.idsAll nodes).Nodup)
    (vars : Table Binding) (world : World) :
    ∃ needed, ∀ steps,
      scene.run runner ⟨Compaction.compact squeeze (Node.flattenAll 0 nodes)⟩
          (steps + needed) { vars } world =
        (Node.renderAll scene runner [] (Node.compactAll squeeze nodes) { vars }
          world).andThen fun rendering world =>
            some (.ok (rendering.machine (Node.ending squeeze nodes)),
              world) := by
  rw [Node.compact_flattenAll]
  apply scene.exists_run_flattenAll runner
  rwa [Node.idsAll_compactAll]

/-- A template that is compiled without squeezing renders what its tree means:
running its program ends with a result exactly if rendering the tree does, and
the two are the same. -/
theorem Scene.runner_compact_iff_renderAll {known : Catalog}
    {tokens : List Markup.Token} {nodes : List Node}
    (parsed : Node.ofTokens known tokens = .ok nodes) (scene : Scene)
    (levels : Nat) (vars : Table Binding) (world : World)
    (result : Except Error Rendering × World) :
    (∃ steps,
        Rendering.ofOutcome (scene.runner steps levels
            ⟨Compaction.compact false (Node.flattenAll 0 nodes)⟩ vars world) =
          some result) ↔
      ∃ steps,
        Node.renderAll scene (scene.nested steps levels) [] nodes { vars }
            world =
          some result := by
  have distinct := Node.nodup_ids_of_ofTokens parsed
  -- For the inclusions of a number of steps, the program runs as the tree
  -- renders.
  have agrees :
      ∀ bound, ∃ needed, ∀ steps,
        Rendering.ofOutcome (scene.run (scene.nested bound levels)
            ⟨Compaction.compact false (Node.flattenAll 0 nodes)⟩
            (steps + needed) { vars } world) =
          Node.renderAll scene (scene.nested bound levels) [] nodes { vars }
            world := by
    intro bound
    obtain ⟨needed, run⟩ :=
      scene.exists_run_compact (scene.nested bound levels) false distinct vars
        world
    refine ⟨needed, fun steps => ?_⟩
    rw [run, Node.renderAll_compactAll, Rendering.ofOutcome,
      Outcome.andThen_assoc]
    exact Outcome.andThen_pure _
  constructor
  · rintro ⟨steps, ended⟩
    obtain ⟨needed, same⟩ := agrees steps
    refine ⟨steps, ?_⟩
    rw [← same steps]
    rw [Scene.runner_eq] at ended
    have longer :=
      scene.run_extends (.refl (scene.nested steps levels))
        ⟨Compaction.compact false (Node.flattenAll 0 nodes)⟩
        (Nat.le_add_right steps needed) { vars } world
    exact longer.andThen (fun _ _ => .refl _) result ended
  · rintro ⟨steps, ended⟩
    obtain ⟨needed, same⟩ := agrees steps
    refine ⟨steps + needed, ?_⟩
    rw [← same steps] at ended
    rw [Scene.runner_eq]
    have longer :=
      scene.run_extends
        (scene.nested_extends (Nat.le_add_right steps needed) levels)
        ⟨Compaction.compact false (Node.flattenAll 0 nodes)⟩
        (Nat.le_refl (steps + needed)) { vars } world
    exact longer.andThen (fun _ _ => .refl _) result ended

theorem Scene.runner_compact_iff_renderAll_condition :
    Node.ofTokens Catalog.deferred
          [.tag (.condition [.text "1"]) "<if cond='1'>", .text "a",
            .tag .otherwise "<else />", .text "b", .tag .endCondition "</if>"] =
        .ok [.choose ⟨[.text "1"]⟩ [.text "a"] (.otherwise [.text "b"])] ∧
      ((∃ steps,
          Rendering.ofOutcome (Scene.runner ⟨{}, [], []⟩ steps 3
              ⟨Compaction.compact false (Node.flattenAll 0
                [.choose ⟨[.text "1"]⟩ [.text "a"] (.otherwise [.text "b"])])⟩
              [] ⟨{}, ⟨.memory [], .memory [], 0, 0⟩, []⟩) =
            some (.ok ⟨[], "a"⟩, ⟨{}, ⟨.memory [], .memory [], 0, 0⟩, []⟩)) ↔
        ∃ steps,
          Node.renderAll ⟨{}, [], []⟩ (Scene.nested ⟨{}, [], []⟩ steps 3) []
              [.choose ⟨[.text "1"]⟩ [.text "a"] (.otherwise [.text "b"])]
              ⟨[], ""⟩ ⟨{}, ⟨.memory [], .memory [], 0, 0⟩, []⟩ =
            some (.ok ⟨[], "a"⟩,
              ⟨{}, ⟨.memory [], .memory [], 0, 0⟩, []⟩)) := by
  have parsed :
      Node.ofTokens Catalog.deferred
          [.tag (.condition [.text "1"]) "<if cond='1'>", .text "a",
            .tag .otherwise "<else />", .text "b", .tag .endCondition "</if>"] =
        .ok [.choose ⟨[.text "1"]⟩ [.text "a"] (.otherwise [.text "b"])] := rfl
  exact ⟨parsed, Scene.runner_compact_iff_renderAll parsed ⟨{}, [], []⟩ 3 []
    ⟨{}, ⟨.memory [], .memory [], 0, 0⟩, []⟩ (.ok ⟨[], "a"⟩, _)⟩

end TemplateEngine
