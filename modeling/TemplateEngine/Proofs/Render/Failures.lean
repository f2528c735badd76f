import TemplateEngine.Proofs.Render.Depth

/-!
# Renderings that fail

An inclusion that may go on prints a diagnostic in place of a template that is
missing.  Every other error makes the rendering fail with it, whichever
inclusions it comes through, and so does the error of an inclusion that requires
its template.
-/

namespace TemplateEngine

/-- A template that is missing is the one that was asked for. -/
theorem Environment.eq_of_missing {environment : Environment}
    {store after : Store} {name missing : String}
    (failed : environment.program store name =
      (.error (.missingTemplate missing), after)) :
    missing = name := by
  have fetched := environment.fetching_program store name
  rw [failed] at fetched
  rcases fetched _ rfl with same | surfaces
  · exact Error.missingTemplate.inj same
  · cases surfaces

/-- Asking for a template that is neither compiled ahead of time nor known
changes nothing. -/
theorem Environment.program_of_unavailable {environment : Environment}
    {store : Store} {name : String} {error : Error}
    (apart : Table.get? environment.preloaded name = none)
    (unknown : store.loader.lastModified name = .error error) :
    environment.program store name = (.error error, store) := by
  rw [Environment.program, apart, unknown]

namespace Scene

section

variable {scene : Scene} {steps levels : Nat} {run : Run} {machine : Machine}
  {world : World} {target : Target} {once : Bool} {kind : InclusionKind}
  {name : String} {parameters : List (String × Value)} {error : Error}
  {store : Store}

/-- The outcome of an inclusion whose template cannot be fetched. -/
theorem include_of_program (inner : Runner)
    (resolved :
      target.resolve (machine.view scene world) = .ok (name, parameters))
    (fresh : ¬world.skips once name)
    (failed :
      scene.environment.program world.store name = (.error error, store)) :
    scene.include (some inner) machine world target once kind =
      some (kind.recover (.error error),
        { world.marked once name with store }) := by
  rw [include_some inner resolved fresh, renderNested, World.store_marked,
    failed]
  rfl

namespace ComesTo

variable
  (comesTo :
    scene.ComesTo (scene.nested steps (levels + 1)) run machine world target
      once kind name parameters) (fresh : ¬world.skips once name)
  (failed : scene.environment.program world.store name = (.error error, store))

include comesTo fresh failed

/-- A run goes on behind an inclusion that recovers from the error of its
template. -/
theorem reaches_of_recover {text : String}
    (recovers : kind.recover (.error error) = .ok text) :
    scene.Reaches (scene.nested steps (levels + 1)) run.program
      { vars := run.vars } run.world (machine.write text).advance
      { world.marked once name with store } := by
  apply comesTo.visited.step comesTo.instruction
  rw [step, nested, include_of_program _ comesTo.resolved fresh failed,
    recovers]

theorem failsAt_of_recover {other : Error}
    (recovers : kind.recover (.error error) = .error other) :
    scene.FailsAt (levels + 1) run other := by
  apply comesTo.failsAt
  rw [nested, include_of_program _ comesTo.resolved fresh failed, recovers]

end ComesTo
end

/-- Missing templates and unknown filters are no errors of a rendering.  In
every run that is nested in it, a template that is missing leaves its diagnostic
if the inclusion may go on.  All other errors of an instruction, and all other
reasons why a template cannot be fetched, are errors of the rendering. -/
theorem runner_fails (scene : Scene) :
    (∀ steps levels program vars world error after,
        scene.runner steps levels program vars world =
            some (.error error, after) →
          (∀ name, error ≠ .missingTemplate name) ∧
            ∀ name, error ≠ .unknownFilter name) ∧
      (∀ first steps depth levels run,
        scene.Active steps first depth levels run →
          ∀ machine world instruction error after,
            scene.Reaches (scene.nested steps levels) run.program
                { vars := run.vars } run.world machine world →
              run.program.instructions[machine.position]? = some instruction →
              scene.step (scene.nested steps levels) instruction machine world =
                some (.error error, after) →
              scene.FailsAt maxInclusions first error) ∧
      ∀ first steps depth levels run,
        scene.Active steps first depth (levels + 1) run →
          ∀ machine world target once kind name parameters error store,
            scene.ComesTo (scene.nested steps (levels + 1)) run machine world
                target once kind name parameters →
              ¬world.skips once name →
              scene.environment.program world.store name =
                (.error error, store) →
              (∀ missing, error = .missingTemplate missing →
                  missing = name ∧
                    (kind = .optional →
                      scene.Reaches (scene.nested steps (levels + 1))
                        run.program { vars := run.vars } run.world
                        (machine.write
                          (Error.missingTemplate name).message).advance
                        { world.marked once name with store }) ∧
                    (kind = .required →
                      scene.FailsAt maxInclusions first
                        (.requiredTemplate name))) ∧
                ((∀ missing, error ≠ .missingTemplate missing) →
                  scene.FailsAt maxInclusions first error) := by
  refine ⟨?_, ?_, ?_⟩
  · intro steps levels program vars world error after ran
    apply Error.surfaces_iff.mp
    exact scene.surfacing_runner _ _ _ _ _ _ _ ran error rfl
  · intro first steps depth levels run active machine world instruction error
      after reaches found failed
    exact active.failsAt (reaches.failsAt found failed)
  · intro first steps depth levels run active machine world target once kind
      name parameters error store comesTo fresh failed
    constructor
    · rintro missing rfl
      obtain rfl := Environment.eq_of_missing failed
      refine ⟨rfl, ?_, ?_⟩
      · rintro rfl
        exact comesTo.reaches_of_recover fresh failed rfl
      · rintro rfl
        apply active.failsAt
        exact comesTo.failsAt_of_recover fresh failed rfl
    · intro other
      apply active.failsAt
      apply comesTo.failsAt_of_recover fresh failed
      have fetched := scene.environment.fetching_program world.store name
      rw [failed] at fetched
      rcases fetched error rfl with isMissing | surfaces
      · exact absurd isMissing (other name)
      · exact kind.recover_of_surfaces surfaces

/-- An included template prints the diagnostic of a template that is missing,
and then fails with a constant that is not defined. -/
theorem runner_fails_constant :
    let inner : Program :=
      ⟨[.inclusion (.path "gone" []) false .optional,
        .print (.access (.const "c") [])]⟩
    let outer : Program := ⟨[.inclusion (.path "inner" []) false .required]⟩
    let scene : Scene := ⟨{ preloaded := [("inner", inner)] }, [], []⟩
    let world : World := ⟨{}, ⟨.memory [], .memory [], 0, 0⟩, []⟩
    scene.Reaches (scene.nested 2 31) inner { vars := [] } world
      { position := 1, vars := [],
        output := "the template \"gone\" doesn't exist" } world ∧
    scene.FailsAt maxInclusions ⟨outer, [], world⟩ (.undefinedConstant "c") ∧
    scene.FailsAt maxInclusions
      ⟨⟨[.inclusion (.path "gone" []) false .required]⟩, [], world⟩
      (.requiredTemplate "gone") ∧
    (∀ name, Error.undefinedConstant "c" ≠ .missingTemplate name) := by
  intro inner outer scene world
  obtain ⟨surfaces, fails, fetches⟩ := runner_fails scene
  have outerComesTo :
      scene.ComesTo (scene.nested 2 32) ⟨outer, [], world⟩ { vars := [] } world
        (.path "inner" []) false .required "inner" [] :=
    ⟨.start, rfl, rfl⟩
  have innerComesTo :
      scene.ComesTo (scene.nested 2 31) ⟨inner, [], world⟩ { vars := [] } world
        (.path "gone" []) false .optional "gone" [] :=
    ⟨.start, rfl, rfl⟩
  have requiredComesTo :
      scene.ComesTo (scene.nested 2 32)
        ⟨⟨[.inclusion (.path "gone" []) false .required]⟩, [], world⟩
        { vars := [] } world (.path "gone" []) false .required "gone" [] :=
    ⟨.start, rfl, rfl⟩
  have fresh : ∀ name, ¬world.skips false name := fun name => Bool.false_ne_true
  have active : scene.Active 2 ⟨outer, [], world⟩ 1 31 ⟨inner, [], world⟩ :=
    .inclusion .first (.inclusion outerComesTo (fresh _) rfl)
  have missing : scene.environment.program world.store "gone" =
      (.error (.missingTemplate "gone"), world.store) :=
    Environment.program_of_unavailable rfl rfl
  obtain ⟨goesOn, -⟩ :=
    fetches _ 2 1 30 _ active _ _ _ _ _ _ _ _ _ innerComesTo (fresh _) missing
  obtain ⟨-, reaches, -⟩ := goesOn "gone" rfl
  obtain ⟨stops, -⟩ :=
    fetches _ 2 0 31 _ .first _ _ _ _ _ _ _ _ _ requiredComesTo (fresh _)
      missing
  obtain ⟨-, -, failsRequired⟩ := stops "gone" rfl
  have failsConstant := fails _ 2 1 31 _ active _ _ _ _ _ (reaches rfl) rfl rfl
  refine ⟨reaches rfl, failsConstant, failsRequired rfl, ?_⟩
  exact
    (surfaces 1 0 ⟨[.print (.access (.const "c") [])]⟩ [] world _ world rfl).1

end Scene

/-- If an inclusion that requires its template comes up before the last level,
and the template is neither compiled ahead of time nor known, the rendering
fails with its name.  Where the inclusion may happen only once, its place is not
marked yet. -/
theorem Environment.execute_required {environment : Environment}
    {program : Program} {context : Context} {vars : Table Binding}
    {world inside : World} {steps depth levels : Nat} {run : Run}
    {machine : Machine} {target : Target} {once : Bool} {name missing : String}
    {parameters : List (String × Value)}
    (visible : environment.visibleVars context = .ok vars)
    (active :
      Scene.Active ⟨environment, context.constants, context.blocks⟩ steps
        ⟨program, vars, { world with included := [] }⟩ depth (levels + 1) run)
    (comesTo :
      Scene.ComesTo ⟨environment, context.constants, context.blocks⟩
        (Scene.nested ⟨environment, context.constants, context.blocks⟩ steps
          (levels + 1)) run machine inside target once .required name
        parameters) (apart : Table.get? environment.preloaded name = none)
    (unknown :
      inside.store.loader.lastModified name = .error (.missingTemplate missing))
    (unmarked : once = true →
      PathKey.ofPath (inside.store.loader.locate name) ∉ inside.included) :
    ∃ enough after, ∀ steps, enough ≤ steps →
      environment.execute steps program context world =
        some (.error (.requiredTemplate name), after) := by
  have failed := Environment.program_of_unavailable apart unknown
  obtain rfl := Environment.eq_of_missing failed
  have fresh : ¬inside.skips once missing := by
    intro again
    rw [World.skips, Bool.and_eq_true, List.contains_iff_mem] at again
    exact unmarked again.1 again.2
  obtain ⟨enough, after, fails⟩ :=
    active.failsAt (comesTo.failsAt_of_recover fresh failed rfl)
  refine ⟨enough, after, fun steps many => ?_⟩
  rw [execute_of_visibleVars steps program world visible, fails steps many,
    Outcome.andThen_error]

/-- A template is required only once after another one was included. -/
theorem Environment.execute_required_once :
    let program : Program := ⟨[.inclusion (.path "a" []) true .optional,
      .inclusion (.path "gone" []) true .required]⟩
    let environment : Environment := { preloaded := [("a", ⟨[.text "x"]⟩)] }
    let world : World := ⟨{}, ⟨.memory [], .memory [], 0, 0⟩, []⟩
    ∃ enough after, ∀ steps, enough ≤ steps →
      environment.execute steps program {} world =
        some (.error (.requiredTemplate "gone"), after) := by
  intro program environment world
  let scene : Scene := ⟨environment, [], []⟩
  have reaches :
      scene.Reaches (scene.nested 2 32) program { vars := [] } world
        { position := 1, vars := [], output := "x" }
        { world with included := [⟨false, ["a"]⟩] } :=
    .step .start rfl (by cbv)
  have comesTo :
      scene.ComesTo (scene.nested 2 32) ⟨program, [], world⟩ _ _ _ _ _ _ _ :=
    ⟨reaches, rfl, rfl⟩
  exact Environment.execute_required rfl .first comesTo rfl rfl (by decide)

/-- A template that is not known is left out if it has the place of another one,
which was included before: the two names are read as paths. -/
theorem Environment.not_execute_required :
    let program : Program := ⟨[.inclusion (.path "a/b" []) true .optional,
      .inclusion (.path "a//b" []) true .required]⟩
    let environment : Environment := {}
    let loader : Loader := .memory [("a/b", ⟨"x", 1⟩)]
    let world : World := ⟨{}, ⟨loader, .memory [], 2, 0⟩, []⟩
    (∃ machine inside,
      Scene.ComesTo ⟨environment, [], []⟩
          (Scene.nested ⟨environment, [], []⟩ 2 maxInclusions)
          ⟨program, [], world⟩ machine inside (.path "a//b" []) true .required
          "a//b" [] ∧
        Table.get? environment.preloaded "a//b" = none ∧
        inside.store.loader.lastModified "a//b" =
          .error (.missingTemplate "a//b")) ∧
    ¬∃ enough after, ∀ steps, enough ≤ steps →
      environment.execute steps program {} world =
        some (.error (.requiredTemplate "a//b"), after) := by
  intro program environment loader world
  let inside : World :=
    ⟨{}, ⟨loader, .memory [("a/b", 2, ⟨[.text "x"]⟩)], 2, 1⟩,
      [⟨false, ["a", "b"]⟩]⟩
  have included :
      Scene.step ⟨environment, [], []⟩
          (Scene.nested ⟨environment, [], []⟩ 2 maxInclusions)
          (.inclusion (.path "a/b" []) true .optional) { vars := [] } world =
        some (.ok { position := 1, vars := [], output := "x" }, inside) := by
    cbv
  have ran :
      Scene.runner ⟨environment, [], []⟩ 2 maxInclusions program [] world =
        some (.ok { position := 2, vars := [], output := "x" }, inside) := by
    cbv
  refine ⟨⟨_, inside, ⟨.step .start rfl included, rfl, rfl⟩, rfl, rfl⟩, ?_⟩
  rintro ⟨enough, after, fails⟩
  have longer :=
    Scene.runner_extends _ (Nat.le_max_right enough 2) _ _ _ _ _ ran
  have failed := fails _ (Nat.le_max_left enough 2)
  rw [execute_of_visibleVars _ program world rfl, longer] at failed
  cases failed

end TemplateEngine
