import TemplateEngine.Proofs.Program.Reread
import TemplateEngine.Proofs.Render.Compiled
import TemplateEngine.Proofs.Render.Requests
import TemplateEngine.Proofs.Store.Answered
import TemplateEngine.Proofs.Template.Fitted

/-!
# Renderings end

A machine may go back and forth without end in a program written by hand, but
not in one that was compiled: that runs as its tree is rendered, and a tree is
finite, as are the rows of its iterations and the levels of its inclusions.  So
every rendering ends if no other programs come in, neither ahead of time nor
through the cache.
-/

namespace TemplateEngine

def Program.IsCompiled (program : Program) : Prop :=
  ∃ options known source compiled,
    compile options known source = .ok compiled ∧ compiled.program = program

/-- Whether all the programs that a cache gives were compiled. -/
def Cache.OnlyCompiled (cache : Cache) : Prop :=
  ∀ id program, cache.load id = .ok (some program) → program.IsCompiled

/-- Whether the programs that came in ahead of time were compiled. -/
def Environment.OnlyCompiled (environment : Environment) : Prop :=
  ∀ name program,
    Table.get? environment.preloaded name = some program → program.IsCompiled

/-! ## Asking for a program -/

theorem Cache.load_directory_eq_some_iff {isThere : Bool}
    {files : Table (Time × String)} {id : String} {program : Program} :
    (directory isThere files).load id = .ok (some program) ↔
      (isThere = true → isFileName (fileName id) = true) ∧
        ∃ file, Table.get? files (fileName id) = some file ∧
          Program.ofArtifact? file.2 = some program := by
  rcases kept : Table.get? files (fileName id) with _ | ⟨written, content⟩
  · cases isThere <;> cases fits : isFileName (fileName id) <;>
      simp [load, kept, fits]
  · cases reread : Program.ofArtifact? content with
    | none =>
        cases isThere <;> cases fits : isFileName (fileName id) <;>
          simp [load, kept, reread, fits]
    | some found =>
        cases isThere <;> cases fits : isFileName (fileName id) <;>
          simp [load, kept, reread, fits]

/-- What a cache gives after storing a program is that program or was there
before. -/
theorem Cache.eq_or_load_of_store {cache after : Cache} {id other : String}
    {program found : Program} {now : Time} {result : Except Error Unit}
    (stored : cache.store id program now = (result, after))
    (loaded : after.load other = .ok (some found)) :
    found = program ∨ cache.load other = .ok (some found) := by
  cases cache with
  | memory programs =>
      cases stored
      rw [load] at loaded
      by_cases same : other = id
      · subst same
        rw [Table.get?_insert_same] at loaded
        cases loaded
        exact .inl rfl
      · rw [Table.get?_insert_other _ _ same] at loaded
        exact .inr loaded
  | directory isThere files =>
      cases short : isFileName (fileName id) with
      | true =>
          simp only [store, short, if_true] at stored
          cases stored
          obtain ⟨fits, file, held, reread⟩ :=
            load_directory_eq_some_iff.mp loaded
          by_cases same : fileName other = fileName id
          · rw [same, Table.get?_insert_same] at held
            cases held
            exact .inl (Program.eq_of_ofArtifact?_artifact reread)
          · rw [Table.get?_insert_other _ _ same] at held
            exact .inr (load_directory_eq_some_iff.mpr
              ⟨fun _ => fits rfl, file, held, reread⟩)
      | false =>
          simp only [store, short] at stored
          cases stored
          obtain ⟨fits, held⟩ := load_directory_eq_some_iff.mp loaded
          exact .inr (load_directory_eq_some_iff.mpr ⟨fun _ => fits rfl, held⟩)
  | blocked =>
      cases stored
      exact .inr loaded

theorem Cache.OnlyCompiled.store {cache after : Cache} {id : String}
    {program : Program} {now : Time} {result : Except Error Unit}
    (compiled : cache.OnlyCompiled) (isCompiled : program.IsCompiled)
    (stored : cache.store id program now = (result, after)) :
    after.OnlyCompiled := by
  intro other found loaded
  rcases Cache.eq_or_load_of_store stored loaded with rfl | before
  · exact isCompiled
  · exact compiled other found before

theorem Environment.isCompiled_of_cached {store : Store} {id : String}
    {modified : Time} {program : Program} (compiled : store.cache.OnlyCompiled)
    (found : Environment.cached store id modified = .ok (some program)) :
    program.IsCompiled := by
  unfold cached at found
  split at found
  · exact compiled id program found
  · cases found

theorem Environment.isCompiled_of_compile {environment : Environment}
    {source : String} {compiled : Compiled}
    (compiles : environment.compile source = .ok compiled) :
    compiled.program.IsCompiled := by
  unfold Environment.compile at compiles
  split at compiles
  next result =>
    cases compiles
    exact ⟨_, _, _, _, result, rfl⟩
  · cases compiles

section

variable {environment : Environment} {store : Store} {name : String}

theorem Environment.onlyCompiled_program (compiled : store.cache.OnlyCompiled) :
    (environment.program store name).2.cache.OnlyCompiled := by
  have answers := environment.answers_program store name
  generalize (environment.program store name).1 = answer at answers
  generalize (environment.program store name).2 = after at answers ⊢
  cases answers with
  | renewed _ _ compiles stored =>
      exact compiled.store (Environment.isCompiled_of_compile compiles) stored
  | _ => exact compiled

theorem Environment.isCompiled_program {program : Program} {after : Store}
    (ahead : environment.OnlyCompiled) (compiled : store.cache.OnlyCompiled)
    (found : environment.program store name = (.ok program, after)) :
    program.IsCompiled := by
  have answers := environment.answers_program store name
  rw [found] at answers
  generalize result : (Except.ok program, after).1 = answer at answers
  generalize (Except.ok program, after).2 = last at answers
  cases answers with
  | preloaded known =>
      cases result
      exact ahead name program known
  | unavailable _ _ => cases result
  | unreadable _ _ _ => cases result
  | cached _ _ known =>
      cases result
      exact Environment.isCompiled_of_cached compiled known
  | unread _ _ => cases result
  | refused _ _ _ => cases result
  | renewed _ _ compiles _ =>
      rename_i kept _ _ _ _
      cases kept with
      | error error => cases result
      | ok done =>
          cases result
          exact Environment.isCompiled_of_compile compiles

end

/-! ## Parts of a run that end -/

/-- Whether a part of a run, for a number of steps, ends if there are enough of
them, and leaves only compiled programs in the cache. -/
def Outcome.Settles {α : Type} (outcome : Nat → Outcome α) : Prop :=
  ∃ enough result after, (World.store after).cache.OnlyCompiled ∧
    ∀ steps, enough ≤ steps → outcome steps = some (result, after)

namespace Outcome.Settles

theorem of_ended {α : Type} (result : Except Error α) {world : World}
    (compiled : world.store.cache.OnlyCompiled) :
    Outcome.Settles fun _ => some (result, world) :=
  ⟨0, result, world, compiled, fun _ _ => rfl⟩

theorem andThen {α β : Type} {outcome : Nat → Outcome α}
    {next : Nat → α → World → Outcome β} (first : Outcome.Settles outcome)
    (second :
      ∀ value world, world.store.cache.OnlyCompiled →
        Outcome.Settles fun steps => next steps value world) :
    Outcome.Settles fun steps => (outcome steps).andThen (next steps) := by
  obtain ⟨enough, result, middle, compiled, ended⟩ := first
  cases result with
  | error error =>
      refine ⟨enough, .error error, middle, compiled, fun steps many => ?_⟩
      dsimp only
      rw [ended steps many, Outcome.andThen_error]
  | ok value =>
      obtain ⟨more, result, after, compiled, goesOn⟩ :=
        second value middle compiled
      refine ⟨max enough more, result, after, compiled, fun steps many => ?_⟩
      dsimp only at goesOn ⊢
      rw [ended steps (by omega), Outcome.andThen_ok, goesOn steps (by omega)]

theorem map {α β : Type} {outcome : Nat → Outcome α}
    (first : Outcome.Settles outcome)
    (change : Except Error α → Except Error β) : Outcome.Settles fun steps =>
      (outcome steps).map fun (result, world) => (change result, world) := by
  obtain ⟨enough, result, after, compiled, ended⟩ := first
  refine ⟨enough, change result, after, compiled, fun steps many => ?_⟩
  dsimp only
  rw [ended steps many]
  rfl

end Outcome.Settles

open Outcome (Settles)

/-- Whether the inclusions that some runners render end. -/
def Scene.SettlesIncluding (scene : Scene) (runner : Nat → Option Runner) :
    Prop :=
  ∀ machine world target once kind, (World.store world).cache.OnlyCompiled →
    Settles fun steps =>
      scene.include (runner steps) machine world target once kind

section

variable {scene : Scene} {runner : Nat → Option Runner}

theorem Rendering.settles_throughRows
    {body : Nat → List Frame → Rendering → World → Outcome Rendering}
    (each :
      ∀ frames rendering world, (World.store world).cache.OnlyCompiled →
        Settles fun steps => body steps frames rendering world) (id : Nat)
    (frames : List Frame) (rows : List Row) (rendering : Rendering)
    {world : World} (compiled : world.store.cache.OnlyCompiled) :
    Settles fun steps =>
      Rendering.throughRows (body steps) id frames rows rendering world := by
  induction rows generalizing rendering world with
  | nil => exact .of_ended _ compiled
  | cons row following induction =>
      exact
        (each (⟨id, row, following⟩ :: frames) rendering world compiled).andThen
        fun rendering _ compiled => induction rendering compiled

mutual

/-- Rendering a node ends if its inclusions do. -/
theorem Node.settles_render (including : scene.SettlesIncluding runner)
    (node : Node) (frames : List Frame) (rendering : Rendering) {world : World}
    (compiled : world.store.cache.OnlyCompiled) :
    Settles fun steps =>
      node.render scene (runner steps) frames rendering world := by
  match node with
  | .text text =>
      simp only [Node.render]
      exact .of_ended _ compiled
  | .print expr =>
      simp only [Node.render]
      exact .of_ended _ compiled
  | .set name subscripts value =>
      simp only [Node.render]
      rcases assigned :
          (rendering.within frames).assign scene world name subscripts
            value with
        error | ⟨machine, after⟩
      · exact .of_ended _ compiled
      · rw [← Scene.store_of_assign assigned] at compiled
        exact .of_ended _ compiled
  | .inclusion target once kind =>
      simp only [Node.render]
      exact (including _ _ target once kind compiled).andThen
        fun text world compiled => .of_ended _ compiled
  | .choose condition body rest =>
      simp only [Node.render]
      rcases scene.test (rendering.view scene frames world) condition with
        error | holds
      · exact .of_ended _ compiled
      · cases holds with
        | false =>
            exact Alternative.settles_render including rest frames rendering
              compiled
        | true =>
            exact Node.settles_renderAll including body frames rendering
              compiled
  | .each id rowAlias source body none =>
      simp only [Node.render]
      rcases source.rows (rendering.view scene frames world) with
        error | _ | ⟨row, following⟩
      · exact .of_ended _ compiled
      · exact .of_ended _ compiled
      · exact Rendering.settles_throughRows
          (fun frames rendering _ compiled =>
            Node.settles_renderAll including body frames rendering compiled)
          id frames (row :: following) rendering compiled
  | .each id rowAlias source body (some nodes) =>
      simp only [Node.render]
      rcases source.rows (rendering.view scene frames world) with
        error | _ | ⟨row, following⟩
      · exact .of_ended _ compiled
      · exact Node.settles_renderAll including nodes frames rendering compiled
      · exact Rendering.settles_throughRows
          (fun frames rendering _ compiled =>
            Node.settles_renderAll including body frames rendering compiled)
          id frames (row :: following) rendering compiled

theorem Node.settles_renderAll (including : scene.SettlesIncluding runner)
    (nodes : List Node) (frames : List Frame) (rendering : Rendering)
    {world : World} (compiled : world.store.cache.OnlyCompiled) :
    Settles fun steps =>
      Node.renderAll scene (runner steps) frames nodes rendering world := by
  cases nodes with
  | nil =>
      simp only [Node.renderAll]
      exact .of_ended _ compiled
  | cons node nodes =>
      simp only [Node.renderAll]
      exact
        (Node.settles_render including node frames rendering compiled).andThen
        fun rendering _ compiled =>
          Node.settles_renderAll including nodes frames rendering compiled

theorem Alternative.settles_render (including : scene.SettlesIncluding runner)
    (rest : Alternative) (frames : List Frame) (rendering : Rendering)
    {world : World} (compiled : world.store.cache.OnlyCompiled) :
    Settles fun steps =>
      rest.render scene (runner steps) frames rendering world := by
  cases rest with
  | done =>
      simp only [Alternative.render]
      exact .of_ended _ compiled
  | otherwise body =>
      simp only [Alternative.render]
      exact Node.settles_renderAll including body frames rendering compiled
  | elseIf condition body rest =>
      simp only [Alternative.render]
      rcases scene.test (rendering.view scene frames world) condition with
        error | holds
      · exact .of_ended _ compiled
      · cases holds with
        | false =>
            exact Alternative.settles_render including rest frames rendering
              compiled
        | true =>
            exact Node.settles_renderAll including body frames rendering
              compiled

end

end

/-! ## Runs of compiled programs -/

namespace Scene

/-- Whether the runs of compiled programs end. -/
def SettlesRunning (runner : Nat → Runner) : Prop :=
  ∀ program vars world, Program.IsCompiled program →
    (World.store world).cache.OnlyCompiled →
    Settles fun steps => runner steps program vars world

section

variable {scene : Scene} (ahead : scene.environment.OnlyCompiled)

include ahead

theorem settles_renderNested {inner : Nat → Runner}
    (running : SettlesRunning inner) (vars : Table Binding) (name : String)
    (parameters : List (String × Value)) {world : World}
    (compiled : world.store.cache.OnlyCompiled) :
    Settles fun steps =>
      scene.renderNested (inner steps) vars name parameters world := by
  have kept :
      (scene.environment.program world.store name).2.cache.OnlyCompiled :=
    scene.environment.onlyCompiled_program compiled
  rcases found : scene.environment.program world.store name with
    ⟨error | program, store⟩
  · rw [found] at kept
    simp only [renderNested, found]
    exact .of_ended _ kept
  · rw [found] at kept
    have isCompiled := Environment.isCompiled_program ahead compiled found
    simp only [renderNested_of_program scene _ vars parameters found]
    exact (running program _ { world with store } isCompiled kept).andThen
      fun machine world compiled => .of_ended _ compiled

theorem settlesIncluding_some {inner : Nat → Runner}
    (running : SettlesRunning inner) :
    scene.SettlesIncluding fun steps => some (inner steps) := by
  intro machine world target once kind compiled
  rcases resolved : target.resolve (machine.view scene world) with
    error | ⟨name, parameters⟩
  · simp only [include_of_error resolved]
    exact .of_ended _ compiled
  · by_cases again : world.skips once name
    · simp only [include_of_skips _ resolved again]
      exact .of_ended _ compiled
    · simp only [include_some _ resolved again]
      rw [← World.store_marked world once name] at compiled
      exact (settles_renderNested ahead running _ name parameters compiled).map
        kind.recover

omit ahead in
theorem settlesIncluding_none : scene.SettlesIncluding fun _ => none := by
  intro machine world target once kind compiled
  rcases resolved : target.resolve (machine.view scene world) with
    error | ⟨name, parameters⟩
  · simp only [include_of_error resolved]
    exact .of_ended _ compiled
  · simp only [include_none resolved]
    exact .of_ended _ compiled

omit ahead in
/-- A compiled program ends if its inclusions do: it runs as its tree is
rendered. -/
theorem settlesRunning_runner {levels : Nat}
    (including :
      scene.SettlesIncluding fun steps => scene.nested steps levels) :
    SettlesRunning fun steps => scene.runner steps levels := by
  rintro _ vars world ⟨options, known, source, compiled, compiles, rfl⟩
    onlyCompiled
  obtain ⟨tokens, nodes, parsed, same⟩ := exists_nodes_of_compile compiles
  rw [same, ← Node.compact_flattenAll]
  obtain ⟨enough, result, after, kept, rendered⟩ :=
    Node.settles_renderAll including
      (Node.compactAll options.compactWhitespace nodes) [] { vars } onlyCompiled
  obtain ⟨needed, run⟩ := scene.exists_run_compact (scene.nested enough levels)
    options.compactWhitespace (Node.nodup_ids_of_ofTokens parsed) vars world
  obtain ⟨final, ran⟩ :
      ∃ final,
        scene.run (scene.nested enough levels)
            ⟨Compaction.compact options.compactWhitespace
              (Node.flattenAll 0 nodes)⟩ (0 + needed) { vars } world =
          some (final, after) := by
    dsimp only at rendered
    rw [run, rendered enough (Nat.le_refl enough)]
    cases result with
    | error error => exact ⟨_, rfl⟩
    | ok rendering => exact ⟨_, rfl⟩
  refine ⟨enough + needed, final, after, kept, fun steps many => ?_⟩
  have moreEnough : enough ≤ steps := by omega
  have moreNeeded : 0 + needed ≤ steps := by omega
  exact (scene.runner_eq ..).trans (scene.run_extends
    (scene.nested_extends moreEnough levels) _ moreNeeded _ _ _ ran)

/-- Every compiled program ends, whatever it includes. -/
theorem settlesRunning (levels : Nat) :
    SettlesRunning fun steps => scene.runner steps levels := by
  induction levels with
  | zero => exact settlesRunning_runner settlesIncluding_none
  | succ levels induction =>
      exact settlesRunning_runner (settlesIncluding_some ahead induction)

end

end Scene

namespace Environment

variable {environment : Environment} (ahead : environment.OnlyCompiled)
  (context : Context) {world : World}
  (compiled : world.store.cache.OnlyCompiled)

include ahead compiled

theorem settles_execute {program : Program} (isCompiled : program.IsCompiled) :
    Settles fun steps => environment.execute steps program context world := by
  cases visible : environment.visibleVars context with
  | error error =>
      simp only [execute, visible]
      exact .of_ended _ compiled
  | ok vars =>
      simp only [execute_of_visibleVars _ program world visible]
      let scene : Scene := ⟨environment, context.constants, context.blocks⟩
      have running :
          Scene.SettlesRunning fun steps => scene.runner steps maxInclusions :=
        Scene.settlesRunning ahead maxInclusions
      exact
        (running program vars { world with included := [] } isCompiled
          compiled).andThen fun machine _ compiled => .of_ended _ compiled

/-- A rendering ends, if all programs that come in were compiled. -/
theorem settles_render (name : String) :
    Settles fun steps => environment.render steps name context world := by
  have kept : (environment.program world.store name).2.cache.OnlyCompiled :=
    environment.onlyCompiled_program compiled
  rcases found : environment.program world.store name with
    ⟨error | program, store⟩
  · rw [found] at kept
    simp only [render, found]
    exact .of_ended _ kept
  · rw [found] at kept
    have isCompiled := Environment.isCompiled_program ahead compiled found
    simp only [render, found]
    exact settles_execute ahead context kept isCompiled

end Environment
end TemplateEngine
