import TemplateEngine.Proofs.Render.Requests
import TemplateEngine.Proofs.Store.Answered

/-!
# Errors that come out of a rendering

Filters that are not registered are passed over, and every inclusion deals with
a template that is missing.  So of all errors these two never come out of a
rendering.
-/

namespace TemplateEngine

/-- Whether an error may come out of a rendering. -/
def Error.Surfaces : Error → Prop
  | .missingTemplate _ | .unknownFilter _ => False
  | _ => True

theorem Error.surfaces_iff {error : Error} :
    error.Surfaces ↔
      (∀ name, error ≠ .missingTemplate name) ∧
        ∀ name, error ≠ .unknownFilter name := by
  cases error <;> simp [Error.Surfaces]

/-- Whether a result is an error only if that may come out of a rendering. -/
def Surfacing {α : Type} (result : Except Error α) : Prop :=
  ∀ error, result = .error error → error.Surfaces

namespace Surfacing

variable {α β : Type}

theorem ok (value : α) : Surfacing (.ok value) := by
  intro error failed
  cases failed

theorem of_surfaces {error : Error} (surfaces : error.Surfaces) :
    Surfacing (.error error : Except Error α) := by
  intro other failed
  cases failed
  exact surfaces

/-- A failing part makes the whole fail with the same error. -/
theorem error {result : Except Error α} (surfacing : Surfacing result)
    {error : Error} (failed : result = .error error) :
    Surfacing (.error error : Except Error β) :=
  of_surfaces (surfacing error failed)

theorem map {result : Except Error α} (surfacing : Surfacing result)
    (change : α → β) : Surfacing (result.map change) := by
  intro error failed
  cases result with
  | error inner =>
      cases failed
      exact surfacing error rfl
  | ok value => cases failed

end Surfacing

/-! ## Expressions -/

theorem Filters.surfacing_invoke {filters : Filters} {name : String}
    (known : filters.has name = true) (input : Value) (arguments : List Value) :
    Surfacing (filters.invoke name input arguments) := by
  unfold invoke
  cases found : Table.get? filters name with
  | none =>
      rw [has, Table.contains, found] at known
      cases known
  | some filter =>
      dsimp only
      cases filter input arguments with
      | error message => exact .of_surfaces trivial
      | ok value => exact .ok value

section

variable (view : View)

theorem View.surfacing_reference (reference : Reference) :
    Surfacing (view.reference reference) := by
  unfold View.reference
  split
  · exact .ok _
  · split
    · exact .ok _
    · exact .of_surfaces trivial
  · split
    · exact .ok _
    · exact .of_surfaces trivial
  · split
    · exact .ok _
    · exact .of_surfaces trivial

mutual

theorem Expr.surfacing_eval (expr : Expr) : Surfacing (expr.eval view) := by
  match expr with
  | .access reference subscripts =>
      rw [Expr.eval]
      cases read : view.reference reference with
      | error error => exact (view.surfacing_reference reference).error read
      | ok value => exact Argument.surfacing_select subscripts value
  | .filter name input arguments =>
      rw [Expr.eval]
      cases evaluated : input.eval view with
      | error error => exact (Expr.surfacing_eval input).error evaluated
      | ok value =>
          dsimp only
          by_cases known : view.filters.has name = true
          · rw [if_pos known]
            cases given : Argument.evalAll view arguments with
            | error error =>
                exact (Argument.surfacing_evalAll arguments).error given
            | ok values => exact Filters.surfacing_invoke known value values
          · rw [if_neg known]
            exact .ok value

theorem Argument.surfacing_eval (argument : Argument) :
    Surfacing (argument.eval view) := by
  match argument with
  | .int _ | .text _ => exact .ok _
  | .expr inner =>
      rw [Argument.eval]
      exact Expr.surfacing_eval inner

theorem Argument.surfacing_select (subscripts : List Argument) (value : Value) :
    Surfacing (Argument.select view value subscripts) := by
  match subscripts with
  | [] =>
      rw [Argument.select]
      exact .ok value
  | subscript :: others =>
      rw [Argument.select]
      cases evaluated : subscript.eval view with
      | error error => exact (Argument.surfacing_eval subscript).error evaluated
      | ok key => exact Argument.surfacing_select others (value.subscript key)

theorem Argument.surfacing_evalAll (arguments : List Argument) :
    Surfacing (Argument.evalAll view arguments) := by
  match arguments with
  | [] =>
      rw [Argument.evalAll]
      exact .ok _
  | argument :: others =>
      rw [Argument.evalAll]
      cases evaluated : argument.eval view with
      | error error => exact (Argument.surfacing_eval argument).error evaluated
      | ok value => exact (Argument.surfacing_evalAll others).map (value :: ·)

end

theorem Piece.surfacing_eval (piece : Piece) : Surfacing (piece.eval view) := by
  cases piece with
  | text content => exact .ok _
  | expr inner => exact Expr.surfacing_eval view inner

theorem Piece.surfacing_evalText (pieces : List Piece) :
    Surfacing (Piece.evalText view pieces) := by
  induction pieces with
  | nil => exact .ok _
  | cons piece pieces induction =>
      rw [Piece.evalText]
      cases evaluated : piece.eval view with
      | error error => exact (piece.surfacing_eval view).error evaluated
      | ok value => exact induction.map _

theorem Piece.surfacing_assigned (pieces : List Piece) :
    Surfacing (Piece.assigned view pieces) := by
  unfold Piece.assigned
  split
  next inner => exact Expr.surfacing_eval view inner
  next => exact (Piece.surfacing_evalText view pieces).map _

theorem Piece.surfacing_operands (pieces : List Piece) :
    Surfacing (Piece.operands view pieces) := by
  induction pieces with
  | nil => exact .ok _
  | cons piece pieces induction =>
      cases piece with
      | text content =>
          rw [Piece.operands]
          exact induction.map _
      | expr inner =>
          rw [Piece.operands]
          cases evaluated : inner.eval view with
          | error error =>
              exact (Expr.surfacing_eval view inner).error evaluated
          | ok value => exact induction.map _

theorem Piece.surfacing_parameters (query : List (String × Piece)) :
    Surfacing (Piece.parameters view query) := by
  induction query with
  | nil => exact .ok _
  | cons parameter query induction =>
      obtain ⟨name, piece⟩ := parameter
      cases piece with
      | text content =>
          rw [Piece.parameters]
          exact induction.map _
      | expr inner =>
          rw [Piece.parameters]
          cases evaluated : inner.eval view with
          | error error =>
              exact (Expr.surfacing_eval view inner).error evaluated
          | ok value => exact induction.map _

theorem Target.surfacing_resolve (target : Target) :
    Surfacing (target.resolve view) := by
  cases target with
  | path name query =>
      rw [Target.resolve]
      cases evaluated : Piece.parameters view query with
      | error error =>
          exact (Piece.surfacing_parameters view query).error evaluated
      | ok parameters => exact .ok _
  | dynamic expr =>
      rw [Target.resolve]
      cases evaluated : expr.eval view with
      | error error => exact (Expr.surfacing_eval view expr).error evaluated
      | ok value =>
          dsimp only
          split
          · exact .ok _
          · exact .ok _

theorem Source.surfacing_rows (source : Source) :
    Surfacing (source.rows view) := by
  cases source with
  | collection expr => exact (Expr.surfacing_eval view expr).map _
  | nested _ _ | path _ => exact .ok _

theorem Scene.surfacing_test (scene : Scene) (condition : Condition) :
    Surfacing (scene.test view condition) := by
  unfold Scene.test
  cases evaluated : Piece.operands view condition.pieces with
  | error error =>
      exact (Piece.surfacing_operands view condition.pieces).error evaluated
  | ok operands =>
      dsimp only
      cases scene.environment.conditions operands with
      | error message => exact .of_surfaces trivial
      | ok answer => exact .ok answer

end

theorem Machine.surfacing_assign (scene : Scene) (machine : Machine)
    (world : World) (name : String) (subscripts : List Argument)
    (pieces : List Piece) :
    Surfacing (machine.assign scene world name subscripts pieces) := by
  unfold Machine.assign
  dsimp only
  cases evaluated : Piece.assigned (machine.view scene world) pieces with
  | error error => exact (Piece.surfacing_assigned _ pieces).error evaluated
  | ok value =>
      dsimp only
      cases given : Argument.evalAll (machine.view scene world) subscripts with
      | error error =>
          exact (Argument.surfacing_evalAll _ subscripts).error given
      | ok keys => exact .ok _

/-! ## Templates -/

/-- Whether a result is an error only if that may come out of a rendering, or
says that a template is missing. -/
def Fetching {α : Type} (name : String) (result : Except Error α) : Prop :=
  ∀ error,
    result = .error error → error = .missingTemplate name ∨ error.Surfaces

theorem Surfacing.fetching {α : Type} {result : Except Error α}
    (surfacing : Surfacing result) (name : String) : Fetching name result :=
  fun error failed => .inr (surfacing error failed)

theorem Loader.fetching_access (root : String) (tree : FileTree)
    (name : String) : Fetching name (Loader.access root tree name) := by
  intro error failed
  unfold access at failed
  split at failed
  · cases failed
  · cases failed
    exact .inl rfl
  · cases failed
    exact .inr trivial

theorem Loader.fetching_lastModified (loader : Loader) (name : String) :
    Fetching name (loader.lastModified name) := by
  intro error failed
  cases loader with
  | memory templates =>
      rw [lastModified] at failed
      split at failed
      · cases failed
      · cases failed
        exact .inl rfl
  | files root tree =>
      rw [lastModified] at failed
      cases found : access root tree name with
      | error inner =>
          rw [found] at failed
          cases failed
          exact fetching_access root tree name error found
      | ok place =>
          rw [found] at failed
          cases place <;> cases failed

theorem Loader.fetching_read (loader : Loader) (name : String) :
    Fetching name (loader.read name) := by
  intro error failed
  cases loader with
  | memory templates =>
      rw [read] at failed
      split at failed
      · cases failed
      · cases failed
        exact .inl rfl
  | files root tree =>
      rw [read] at failed
      cases found : access root tree name with
      | error inner =>
          rw [found] at failed
          cases failed
          exact fetching_access root tree name error found
      | ok place =>
          rw [found] at failed
          cases place with
          | folder _ =>
              cases failed
              exact .inr trivial
          | file content _ =>
              dsimp only at failed
              split at failed
              · cases failed
              · cases failed
                exact .inr trivial

theorem Cache.surfacing_load (cache : Cache) (id : String) :
    Surfacing (cache.load id) := by
  cases cache with
  | memory programs => exact .ok _
  | directory isThere files =>
      rw [load]
      split
      · exact .of_surfaces trivial
      · split
        · exact .ok _
        · split
          · exact .ok _
          · exact .of_surfaces trivial
  | blocked => exact .of_surfaces trivial

theorem Cache.surfacing_store (cache : Cache) (id : String) (program : Program)
    (now : Time) : Surfacing (cache.store id program now).1 := by
  cases cache with
  | memory programs => exact .ok ()
  | directory isThere files =>
      rw [store]
      split
      · exact .ok ()
      · exact .of_surfaces trivial
  | blocked => exact .of_surfaces trivial

namespace Environment

theorem surfacing_cached (store : Store) (id : String) (modified : Time) :
    Surfacing (Environment.cached store id modified) := by
  unfold Environment.cached
  split
  · exact store.cache.surfacing_load id
  · exact .ok none

theorem surfacing_compile (environment : Environment) (source : String) :
    Surfacing (environment.compile source) := by
  unfold Environment.compile
  split
  · exact .ok _
  · exact .of_surfaces trivial

/-- Of a template that has no program, asking for it says that it is missing or
why it cannot be fetched. -/
theorem fetching_program (environment : Environment) (store : Store)
    (name : String) : Fetching name (environment.program store name).1 := by
  have answers := environment.answers_program store name
  generalize (environment.program store name).1 = answer at answers
  generalize (environment.program store name).2 = after at answers
  intro error failed
  cases answers with
  | preloaded _ => cases failed
  | unavailable _ modified =>
      cases failed
      exact store.loader.fetching_lastModified name error modified
  | unreadable _ _ kept =>
      cases failed
      exact .inr (surfacing_cached _ _ _ error kept)
  | cached _ _ _ => cases failed
  | unread _ read =>
      cases failed
      exact store.loader.fetching_read name error read
  | refused _ _ compiles =>
      cases failed
      exact .inr (environment.surfacing_compile _ error compiles)
  | @renewed source compiled result cache _ _ _ stored =>
      have kept :=
        store.cache.surfacing_store (store.loader.locate name) compiled.program
          store.now
      rw [stored] at kept
      exact .inr (kept.map _ error failed)

end Environment

/-! ## Runs -/

/-- A runner out of which no errors come but those that may come out of a
rendering. -/
def Runner.Surfacing (runner : Runner) : Prop :=
  ∀ program vars world result after,
    runner program vars world = some (result, after) →
      TemplateEngine.Surfacing result

theorem InclusionKind.recover_of_surfaces (kind : InclusionKind) {error : Error}
    (surfaces : error.Surfaces) :
    kind.recover (.error error) = .error error := by
  cases error with
  | missingTemplate name => cases surfaces
  | _ => rfl

/-- An inclusion deals with a template that is missing. -/
theorem InclusionKind.surfacing_recover (kind : InclusionKind) {name : String}
    {result : Except Error String} (fetching : Fetching name result) :
    Surfacing (kind.recover result) := by
  cases result with
  | ok text => exact .ok text
  | error error =>
      rcases fetching error rfl with rfl | surfaces
      · cases kind with
        | optional => exact .ok _
        | required => exact .of_surfaces trivial
      · rw [kind.recover_of_surfaces surfaces]
        exact .of_surfaces surfaces

namespace Scene

variable {scene : Scene} {runner : Option Runner}

theorem fetching_renderNested {inner : Runner} (surfacing : inner.Surfacing)
    {vars : Table Binding} {name : String} {parameters : List (String × Value)}
    {world after : World} {result : Except Error String}
    (rendered : scene.renderNested inner vars name parameters world =
      some (result, after)) :
    Fetching name result := by
  have asked := scene.environment.fetching_program world.store name
  rcases found : scene.environment.program world.store name with
    ⟨error | program, store⟩
  · rw [found] at asked
    rw [renderNested, found] at rendered
    cases rendered
    intro other failed
    cases failed
    exact asked error rfl
  · rw [renderNested_of_program scene inner vars parameters found] at rendered
    rcases ran : inner program _ { world with store } with
      _ | ⟨error | machine, last⟩
    · rw [ran] at rendered
      cases rendered
    · rw [ran] at rendered
      cases rendered
      exact ((surfacing _ _ _ _ _ ran).error rfl).fetching name
    · rw [ran] at rendered
      cases rendered
      exact (Surfacing.ok _).fetching name

section

variable (surfacing : ∀ inner, runner = some inner → inner.Surfacing)

include surfacing

theorem surfacing_include {machine : Machine} {world after : World}
    {target : Target} {once : Bool} {kind : InclusionKind}
    {result : Except Error String}
    (included : scene.include runner machine world target once kind =
      some (result, after)) :
    Surfacing result := by
  rcases resolved : target.resolve (machine.view scene world) with
    error | ⟨name, parameters⟩
  · rw [include_of_error resolved] at included
    cases included
    exact (target.surfacing_resolve _).error resolved
  · cases runner with
    | none =>
        rw [include_none resolved] at included
        cases included
        exact .of_surfaces trivial
    | some inner =>
        by_cases again : world.skips once name
        · rw [include_of_skips inner resolved again] at included
          cases included
          exact .ok ""
        · rw [include_some inner resolved again, Option.map_eq_some_iff]
            at included
          obtain ⟨⟨text, last⟩, rendered, same⟩ := included
          cases same
          exact kind.surfacing_recover
            (fetching_renderNested (surfacing inner rfl) rendered)

theorem surfacing_step {instruction : Instruction} {machine : Machine}
    {world after : World} {result : Except Error Machine}
    (step :
      scene.step runner instruction machine world = some (result, after)) :
    Surfacing result := by
  cases instruction with
  | text text | otherwise exit | endBranch | elseBlock id body exit
  | closeBlock id body =>
      cases step
      exact .ok _
  | print expr =>
      cases step
      exact (Expr.surfacing_eval _ expr).map _
  | set name subscripts value =>
      rw [Scene.step] at step
      rcases assigned : machine.assign scene world name subscripts value with
        error | ⟨next, last⟩
      · rw [assigned] at step
        cases step
        exact (machine.surfacing_assign scene world name subscripts value).error
          assigned
      · rw [assigned] at step
        cases step
        exact .ok _
  | branch condition next =>
      cases step
      exact (Scene.surfacing_test _ scene condition).map _
  | elseBranch condition next exit =>
      rw [Scene.step] at step
      dsimp only at step
      split at step
      · cases step
        exact (Scene.surfacing_test _ scene condition).map _
      · cases step
        exact .ok _
  | openBlock id rowAlias source skip =>
      cases step
      exact (source.surfacing_rows _).map _
  | inclusion target once kind =>
      rw [Scene.step] at step
      rcases included : scene.include runner machine world target once kind with
        _ | ⟨error | text, last⟩
      · rw [included] at step
        cases step
      · rw [included] at step
        cases step
        exact (surfacing_include surfacing included).error rfl
      · rw [included] at step
        cases step
        exact .ok _

theorem surfacing_run {program : Program} {steps : Nat} {machine : Machine}
    {world after : World} {result : Except Error Machine}
    (ran :
      scene.run runner program steps machine world = some (result, after)) :
    Surfacing result := by
  induction steps generalizing machine world with
  | zero =>
      cases found : program.instructions[machine.position]? with
      | none =>
          rw [run_of_ended _ _ _ _ found] at ran
          cases ran
          exact .ok _
      | some instruction =>
          rw [run_zero scene runner world found] at ran
          cases ran
  | succ steps induction =>
      cases found : program.instructions[machine.position]? with
      | none =>
          rw [run_of_ended _ _ _ _ found] at ran
          cases ran
          exact .ok _
      | some instruction =>
          rw [run_succ scene runner steps world found] at ran
          rcases stepped : scene.step runner instruction machine world with
            _ | ⟨error | next, middle⟩
          · rw [stepped] at ran
            cases ran
          · rw [stepped] at ran
            cases ran
            exact (surfacing_step surfacing stepped).error rfl
          · rw [stepped] at ran
            exact induction ran

end

/-- Neither an unknown filter nor a missing template makes a run fail. -/
theorem surfacing_runner (scene : Scene) (steps levels : Nat) :
    (scene.runner steps levels).Surfacing := by
  induction levels with
  | zero =>
      intro program vars world result after ran
      apply surfacing_run _ ran
      intro inner none
      cases none
  | succ levels induction =>
      intro program vars world result after ran
      apply surfacing_run _ ran
      intro inner same
      cases same
      exact induction

end Scene
end TemplateEngine
