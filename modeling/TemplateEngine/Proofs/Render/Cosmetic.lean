import Mathlib
import TemplateEngine.Proofs.Markup.Texts
import TemplateEngine.Proofs.Render.Ending
import TemplateEngine.Proofs.Render.Mirrored
import TemplateEngine.Proofs.Render.Squeezed
import TemplateEngine.Proofs.Template.Texts

/-!
# Squeezing is cosmetic

A template that is compiled with squeezing does what it does without, and prints
the same apart from blank characters.
-/

namespace TemplateEngine

/-! ## Runs of a tree before and after compaction -/

section

variable {scene : Scene} {runner : Option Runner} {nodes : List Node}
  (distinct : (Node.idsAll nodes).Nodup)

include distinct

/-- A run of a laid out tree that ends has rendered the tree. -/
theorem Node.renderAll_of_run {steps : Nat} {vars : Table Binding}
    {world : World} {ended : Except Error Machine × World}
    (ran : scene.run runner ⟨Node.flattenAll 0 nodes⟩ steps { vars } world =
      some ended) :
    Node.renderAll scene runner [] nodes { vars } world =
      Rendering.ofOutcome (some ended) := by
  obtain ⟨needed, run⟩ := scene.exists_run_flattenAll runner distinct vars world
  have longer := scene.run_extends (.refl runner) ⟨Node.flattenAll 0 nodes⟩
    (Nat.le_add_right steps needed) { vars } world
  rw [← longer _ ran, run, Rendering.ofOutcome, Outcome.andThen_assoc]
  exact (Outcome.andThen_pure _).symm

/-- A laid out tree that is rendered is run with enough steps. -/
theorem Node.exists_run_of_renderAll {vars : Table Binding}
    {world after : World} {result : Except Error Rendering}
    (rendered : Node.renderAll scene runner [] nodes { vars } world =
      some (result, after)) :
    ∃ steps ended,
      scene.run runner ⟨Node.flattenAll 0 nodes⟩ steps { vars } world =
        some ended := by
  obtain ⟨needed, run⟩ := scene.exists_run_flattenAll runner distinct vars world
  have ran := run 0
  rw [rendered] at ran
  cases result with
  | error error => exact ⟨_, _, ran⟩
  | ok rendering => exact ⟨_, _, ran⟩

end

namespace Scene

variable {scene : Scene} {levels : Nat} {nodes : List Node} (squeeze : Bool)
  {vars : Table Binding} {world : World}

/-- What a run has printed, blank characters aside. -/
def printed (result : Except Error Machine) : Except Error (List Char) :=
  (result.map Machine.output).map Text.withoutBlanks

theorem deeds_compact {steps : Nat} {result : Except Error Machine}
    {after : World}
    (ran : scene.runner steps levels ⟨Node.flattenAll 0 nodes⟩ vars world =
      some (result, after)) :
    ∃ other,
      scene.runner steps levels
            ⟨Compaction.compact squeeze (Node.flattenAll 0 nodes)⟩ vars world =
          some (other, after) ∧
        scene.deeds steps levels
            ⟨Compaction.compact squeeze (Node.flattenAll 0 nodes)⟩ vars world =
          scene.deeds steps levels ⟨Node.flattenAll 0 nodes⟩ vars world := by
  rw [runner_eq] at ran
  rw [runner_eq, deeds_eq, deeds_eq]
  exact scene.follows_compact _ _ squeeze nodes steps vars world result after
    ran

variable (distinct : (Node.idsAll nodes).Nodup)

include distinct

/-- A run of a compacted tree that ends has rendered the tree, blank characters
aside. -/
theorem bare_renderAll_of_runner {steps : Nat}
    {ended : Except Error Machine × World}
    (ran :
      scene.runner steps levels
          ⟨Compaction.compact squeeze (Node.flattenAll 0 nodes)⟩ vars world =
        some ended) :
    (Node.renderAll scene (scene.nested steps levels) [] nodes { vars }
        world).bare =
      (Rendering.ofOutcome (some ended)).bare := by
  have numbered : (Node.idsAll (Node.compactAll squeeze nodes)).Nodup := by
    rwa [Node.idsAll_compactAll]
  rw [runner_eq, Node.compact_flattenAll] at ran
  rw [← Node.renderAll_of_run numbered ran, Node.bare_renderAll_compactAll]

/-- Compaction changes what is printed in blank characters only. -/
theorem printed_compact {steps : Nat} {result other : Except Error Machine}
    {after last : World}
    (ran : scene.runner steps levels ⟨Node.flattenAll 0 nodes⟩ vars world =
      some (result, after))
    (otherRan :
      scene.runner steps levels
          ⟨Compaction.compact squeeze (Node.flattenAll 0 nodes)⟩ vars world =
        some (other, last)) :
    printed other = printed result := by
  have same := bare_renderAll_of_runner squeeze distinct otherRan
  rw [runner_eq] at ran
  rw [Node.renderAll_of_run distinct ran] at same
  cases result with
  | error error =>
      cases other with
      | error otherError =>
          cases same
          rfl
      | ok machine => cases same
  | ok machine =>
      cases other with
      | error otherError => cases same
      | ok otherMachine =>
          injection same with same
          injection same with same
          injection same with same
          injection same with _ outputs
          exact congrArg Except.ok outputs.symm

theorem exists_run_of_compact {steps : Nat}
    {ended : Except Error Machine × World}
    (ran :
      scene.runner steps levels
          ⟨Compaction.compact squeeze (Node.flattenAll 0 nodes)⟩ vars world =
        some ended) :
    ∃ more ended,
      scene.runner more levels ⟨Node.flattenAll 0 nodes⟩ vars world =
        some ended := by
  have same := bare_renderAll_of_runner squeeze distinct ran
  rcases rendered :
      Node.renderAll scene (scene.nested steps levels) [] nodes { vars }
        world with
    _ | ⟨result, after⟩
  · rw [rendered] at same
    rcases ended with ⟨_ | _, _⟩ <;> cases same
  · obtain ⟨needed, ended, ran⟩ :=
      Node.exists_run_of_renderAll distinct rendered
    refine ⟨steps + needed, ended, ?_⟩
    rw [runner_eq]
    exact scene.run_extends
      (scene.nested_extends (Nat.le_add_right steps needed) levels) _
      (Nat.le_add_left needed steps) _ _ _ ran

/-- Compaction changes neither the world that a run leaves nor what it does. -/
theorem runner_compact {steps more : Nat} {result other : Except Error Machine}
    {after last : World}
    (ran : scene.runner steps levels ⟨Node.flattenAll 0 nodes⟩ vars world =
      some (result, after))
    (otherRan :
      scene.runner more levels
          ⟨Compaction.compact squeeze (Node.flattenAll 0 nodes)⟩ vars world =
        some (other, last)) :
    printed other = printed result ∧ last = after ∧
      scene.deeds more levels
          ⟨Compaction.compact squeeze (Node.flattenAll 0 nodes)⟩ vars world =
        scene.deeds steps levels ⟨Node.flattenAll 0 nodes⟩ vars world := by
  -- both runs are taken with the same number of steps
  have deeds := deeds_extends (Nat.le_max_left steps more) levels ran
  have otherDeeds := deeds_extends (Nat.le_max_right steps more) levels otherRan
  have longer :=
    scene.runner_extends (Nat.le_max_left steps more) levels _ _ _ _ ran
  have otherLonger :=
    scene.runner_extends (Nat.le_max_right steps more) levels _ _ _ _ otherRan
  obtain ⟨third, thirdRan, same⟩ := deeds_compact squeeze longer
  rw [otherLonger] at thirdRan
  cases thirdRan
  refine ⟨printed_compact squeeze distinct longer otherLonger, rfl, ?_⟩
  rw [← deeds, ← otherDeeds, same]

end Scene

/-! ## Renderings -/

/-- Whether renderings of two programs do the same and print the same, blank
characters aside. -/
structure Environment.RendersAlike (environment : Environment)
    (context : Context) (world : World) (program other : Program) : Prop where
  ends :
    (∃ steps ended,
        environment.execute steps program context world = some ended) ↔
      ∃ steps ended, environment.execute steps other context world = some ended
  same :
    ∀ {steps more result otherResult after last},
      environment.execute steps program context world = some (result, after) →
        environment.execute more other context world =
          some (otherResult, last) →
        otherResult.map Text.withoutBlanks = result.map Text.withoutBlanks ∧
          last = after ∧
          environment.deeds more other context world =
            environment.deeds steps program context world

namespace Environment

variable {environment : Environment} {context : Context} {world : World}

namespace RendersAlike

variable {program middle other : Program}

theorem symm (alike : environment.RendersAlike context world program other) :
    environment.RendersAlike context world other program := by
  refine ⟨alike.ends.symm, ?_⟩
  intro steps more result otherResult after last ran otherRan
  obtain ⟨outputs, worlds, deeds⟩ := alike.same otherRan ran
  exact ⟨outputs.symm, worlds.symm, deeds.symm⟩

theorem trans (first : environment.RendersAlike context world program middle)
    (second : environment.RendersAlike context world middle other) :
    environment.RendersAlike context world program other := by
  refine ⟨first.ends.trans second.ends, ?_⟩
  intro steps more result otherResult after last ran otherRan
  obtain ⟨between, ⟨middleResult, middleAfter⟩, middleRan⟩ :=
    first.ends.mp ⟨steps, _, ran⟩
  obtain ⟨outputs, worlds, deeds⟩ := first.same ran middleRan
  obtain ⟨otherOutputs, otherWorlds, otherDeeds⟩ :=
    second.same middleRan otherRan
  exact ⟨otherOutputs.trans outputs, otherWorlds.trans worlds,
    otherDeeds.trans deeds⟩

end RendersAlike

theorem execute_eq_some_iff {vars : Table Binding} {steps : Nat}
    {program : Program} {result : Except Error String} {after : World}
    (visible : environment.visibleVars context = .ok vars) :
    environment.execute steps program context world = some (result, after) ↔
      ∃ final,
        Scene.runner ⟨environment, context.constants, context.blocks⟩ steps
              maxInclusions program vars { world with included := [] } =
            some (final, after) ∧
          final.map Machine.output = result := by
  rw [execute_of_visibleVars steps program world visible]
  constructor
  · intro ended
    rcases ran : Scene.runner _ steps maxInclusions program vars _ with
      _ | ⟨_ | _, _⟩
    all_goals
      rw [ran] at ended
      cases ended
    · exact ⟨_, rfl, rfl⟩
    · exact ⟨_, rfl, rfl⟩
  · rintro ⟨final, ran, rfl⟩
    rw [ran]
    cases final <;> rfl

/-- Compacting the program of a tree changes what it prints in blank characters
only. -/
theorem rendersAlike_compact {nodes : List Node} (squeeze : Bool)
    (distinct : (Node.idsAll nodes).Nodup) :
    environment.RendersAlike context world ⟨Node.flattenAll 0 nodes⟩
      ⟨Compaction.compact squeeze (Node.flattenAll 0 nodes)⟩ := by
  cases visible : environment.visibleVars context with
  | error error =>
      -- a context that cannot be used fails before any program is run
      have fails :
          ∀ steps program,
            environment.execute steps program context world =
                some (.error error, world) ∧
              environment.deeds steps program context world = [] := by
        intro steps program
        simp [execute, deeds, visible]
      refine ⟨⟨fun _ => ⟨0, _, (fails 0 _).1⟩, fun _ => ⟨0, _, (fails 0 _).1⟩⟩,
        ?_⟩
      intro steps more result otherResult after last ran otherRan
      rw [(fails _ _).1] at ran otherRan
      cases ran
      cases otherRan
      rw [(fails _ _).2, (fails _ _).2]
      exact ⟨rfl, rfl, rfl⟩
  | ok vars =>
      refine ⟨⟨?_, ?_⟩, ?_⟩
      · rintro ⟨steps, ⟨result, after⟩, ran⟩
        obtain ⟨final, ran, -⟩ := (execute_eq_some_iff visible).mp ran
        obtain ⟨other, otherRan, -⟩ := Scene.deeds_compact squeeze ran
        exact ⟨steps, _,
          (execute_eq_some_iff visible).mpr ⟨other, otherRan, rfl⟩⟩
      · rintro ⟨steps, ⟨result, after⟩, ran⟩
        obtain ⟨final, ran, -⟩ := (execute_eq_some_iff visible).mp ran
        obtain ⟨more, ⟨other, last⟩, otherRan⟩ :=
          Scene.exists_run_of_compact squeeze distinct ran
        exact ⟨more, _,
          (execute_eq_some_iff visible).mpr ⟨other, otherRan, rfl⟩⟩
      · intro steps more result otherResult after last executed otherExecuted
        obtain ⟨final, ran, rfl⟩ := (execute_eq_some_iff visible).mp executed
        obtain ⟨other, otherRan, rfl⟩ :=
          (execute_eq_some_iff visible).mp otherExecuted
        simp only [deeds, visible]
        exact Scene.runner_compact squeeze distinct ran otherRan

end Environment

/-! ## Compiled templates -/

/-- A source either fails to compile, in the same way however it is compacted,
or has a tree. -/
theorem compile_compactWhitespace_cases (options : Options) (known : Catalog)
    (source : String) :
    (∃ error, ∀ squeeze,
        compile { options with compactWhitespace := squeeze } known source =
          .error error) ∨
      ∃ tokens nodes,
        Markup.tokenize options
              (Markup.normalize options.tagNamespace source.toList) =
            .ok tokens ∧
          Node.ofTokens known tokens = .ok nodes ∧
          ∀ squeeze,
            compile { options with compactWhitespace := squeeze } known source =
              .ok ⟨⟨Compaction.compact squeeze (Node.flattenAll 0 nodes)⟩,
                tokens.flatMap (Markup.Token.warnings known)⟩ := by
  have same (squeeze : Bool) :
      Options.tagNamespace { options with compactWhitespace := squeeze } =
        options.tagNamespace := rfl
  cases tokenized :
    Markup.tokenize options
      (Markup.normalize options.tagNamespace source.toList) with
  | error error =>
      left
      refine ⟨error, fun squeeze => ?_⟩
      rw [compile, Markup.tokenize_compactWhitespace, same, tokenized]
  | ok tokens =>
      cases parsed : Node.ofTokens known tokens with
      | error error =>
          left
          refine ⟨error, fun squeeze => ?_⟩
          rw [compile, Markup.tokenize_compactWhitespace, same, tokenized]
          simp only [parsed]
      | ok nodes =>
          right
          refine ⟨tokens, nodes, rfl, parsed, fun squeeze => ?_⟩
          rw [compile, Markup.tokenize_compactWhitespace, same, tokenized]
          simp only [parsed]

/-- Squeezing is cosmetic: a source fails to compile in the same way with and
without it, and its two programs do the same and print the same apart from blank
characters.  The texts of the compacted programs are not empty and stand apart,
and with squeezing none is blank between two directives. -/
theorem compile_compactWhitespace (options : Options) (known : Catalog)
    (source : String) : 
    let compiles (squeeze : Bool) :=
      compile { options with compactWhitespace := squeeze } known source
    (∀ error, compiles true = .error error ↔ compiles false = .error error) ∧
    (∀ squeeze compiled,
      compiles squeeze = .ok compiled → compiled.program.TextsApart squeeze) ∧
    ∀ tight loose, compiles true = .ok tight → compiles false = .ok loose →
      tight.warnings = loose.warnings ∧
        ∀ (environment : Environment) context (world : World),
          environment.RendersAlike context world loose.program tight.program ∧
            (environment.OnlyCompiled → world.store.cache.OnlyCompiled →
              ∃ steps ended,
                environment.execute steps tight.program context world =
                  some ended) := by
  intro compiles
  rcases compile_compactWhitespace_cases options known source with
    ⟨error, fails⟩ | ⟨tokens, nodes, tokenized, parsed, compiled⟩
  · have both : ∀ squeeze, compiles squeeze = .error error := fails
    refine ⟨?_, ?_, ?_⟩
    · intro other
      rw [both, both]
    · intro squeeze compiled ok
      rw [both] at ok
      cases ok
    · intro tight loose ok
      rw [both] at ok
      cases ok
  · have both : ∀ squeeze, compiles squeeze = .ok
        ⟨⟨Compaction.compact squeeze (Node.flattenAll 0 nodes)⟩,
          tokens.flatMap (Markup.Token.warnings known)⟩ := compiled
    refine ⟨?_, ?_, ?_⟩
    · intro error
      rw [both, both]
      exact ⟨nofun, nofun⟩
    · intro squeeze compiled ok
      rw [both] at ok
      cases ok
      have spaced := Markup.spaced_of_tokenize tokenized
      rw [← Node.texts_of_ofTokens parsed] at spaced
      exact (Compaction.tidy_compact spaced).textsApart
    · intro tight loose tightOk looseOk
      have isCompiled : tight.program.IsCompiled :=
        ⟨_, known, source, tight, tightOk, rfl⟩
      rw [both] at tightOk looseOk
      cases tightOk
      cases looseOk
      refine ⟨rfl, fun environment context world => ⟨?_, ?_⟩⟩
      · have distinct := Node.nodup_ids_of_ofTokens parsed
        exact (Environment.rendersAlike_compact false distinct).symm.trans
          (Environment.rendersAlike_compact true distinct)
      · intro ahead onlyCompiled
        obtain ⟨enough, result, after, -, ended⟩ :=
          Environment.settles_execute ahead context onlyCompiled isCompiled
        exact ⟨enough, _, ended enough (Nat.le_refl enough)⟩

/-- The blank between an assignment and what prints its value is dropped. -/
theorem compile_compactWhitespace_set :
    let source := "<set var=\"x\">1</set> \x7bx\x7d"
    let assigns : Instruction := .set "x" [] [.text "1"]
    let prints : Instruction := .print (.access (.var "x") [])
    let tight : Compiled := ⟨⟨[assigns, prints]⟩, []⟩
    let loose : Compiled := ⟨⟨[assigns, .text " ", prints]⟩, []⟩
    let environment : Environment := {}
    let world : World := ⟨{}, ⟨.memory [], .memory [], 0, 0⟩, []⟩
    compile { compactWhitespace := true } .deferred source = .ok tight ∧
    compile { compactWhitespace := false } .deferred source = .ok loose ∧
    tight.program.TextsApart true ∧
    environment.execute 2 tight.program {} world = some (.ok "1", world) ∧
    environment.execute 3 loose.program {} world = some (.ok " 1", world) ∧
    Text.withoutBlanks "1" = Text.withoutBlanks " 1" ∧
    environment.deeds 2 tight.program {} world =
      [.assignment "x" [] (.text "1")] ∧
    environment.deeds 3 loose.program {} world =
      [.assignment "x" [] (.text "1")] := by
  intro source assigns prints tight loose environment world
  have compiles :
      compile { compactWhitespace := true } .deferred source = .ok tight ∧
        compile { compactWhitespace := false } .deferred source = .ok loose :=
    ⟨by cbv, by cbv⟩
  have executed :
      environment.execute 2 tight.program {} world = some (.ok "1", world) :=
    rfl
  have looselyExecuted :
      environment.execute 3 loose.program {} world = some (.ok " 1", world) :=
    rfl
  have assigned :
      environment.deeds 2 tight.program {} world =
        [.assignment "x" [] (.text "1")] := rfl
  obtain ⟨tightly, loosely⟩ := compiles
  obtain ⟨-, apart, alike⟩ := compile_compactWhitespace {} .deferred source
  obtain ⟨-, renders⟩ := alike tight loose tightly loosely
  obtain ⟨same, -⟩ := renders environment {} world
  obtain ⟨outputs, -, deeds⟩ := same.same looselyExecuted executed
  injection outputs with outputs
  exact ⟨tightly, loosely, apart true tight tightly, executed, looselyExecuted,
    outputs, assigned, deeds.symm.trans assigned⟩

end TemplateEngine
