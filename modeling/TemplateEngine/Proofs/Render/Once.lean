import TemplateEngine.Proofs.Render.Depth
import TemplateEngine.Proofs.Render.Journal

/-!
# Templates that are included at most once

An inclusion that may happen only once marks the place of its template before
the template is rendered.  Where the place is marked already, it renders
nothing.  The marks are those of the whole rendering, however its inclusions are
nested, and no rendering sees the marks of another one.
-/

namespace TemplateEngine

/-- An inclusion that a run comes to before the last level, and whose template
can be told. -/
structure Visit where
  /-- The levels of inclusions that are left for the template. -/
  levels : Nat
  machine : Machine
  world : World
  target : Target
  once : Bool
  kind : InclusionKind
  name : String
  parameters : List (String × Value)

namespace Visit

/-- The place of the template. -/
def place (visit : Visit) : PathKey :=
  PathKey.ofPath (visit.world.store.loader.locate visit.name)

/-- Whether the inclusion is left out because the place of its template is
marked. -/
def isSkipped (visit : Visit) : Bool :=
  visit.once && visit.world.included.contains visit.place

/-- Whether the inclusion marks the place of its template and goes on to render
it. -/
def marks (visit : Visit) : Bool :=
  visit.once && !visit.isSkipped

/-- The marked places behind the opening of the inclusion. -/
def included (visit : Visit) : List PathKey :=
  if visit.marks then visit.place :: visit.world.included
  else visit.world.included

/-- Whether visits come one after the other, from some marked places to others:
each one finds the places marked that the visits before it have left. -/
inductive Chain : List PathKey → List Visit → List PathKey → Prop
  | nil (included : List PathKey) : Chain included [] included
  | cons (visit : Visit) {visits : List Visit} {last : List PathKey} :
      Chain visit.included visits last →
      Chain visit.world.included (visit :: visits) last

end Visit

namespace Scene

/-- The visit of an instruction if it is an inclusion, and the visits inside its
template. -/
def visitsAt (scene : Scene) (levels : Nat)
    (inside : Program → Table Binding → World → List Visit)
    (instruction : Instruction) (machine : Machine) (world : World) :
    List Visit :=
  match instruction with
  | .inclusion target once kind =>
    match target.resolve (machine.view scene world) with
    | .error _ => []
    | .ok (name, parameters) =>
      let visit : Visit :=
        ⟨levels, machine, world, target, once, kind, name, parameters⟩
      let inner := world.marked once name
      visit :: if visit.isSkipped then []
        else
          match scene.environment.program inner.store name with
          | (.error _, _) => []
          | (.ok program, store) =>
            inside program
              (Table.insertAll machine.vars (parameters.map fun (name, value) =>
                (name, Binding.owned value))) { inner with store }
  | _ => []

/-- The visits of a run and of all runs that are nested in it, in the order in
which they come. -/
def visits (scene : Scene) (steps : Nat) :
    (levels : Nat) → Program → Table Binding → World → List Visit
  | 0, _, _, _ => []
  | levels + 1, program, vars, world =>
    scene.journal (some (scene.runner steps levels))
      (scene.visitsAt levels (visits scene steps levels)) program steps { vars }
      world

end Scene

/-- The visits of a rendering. -/
def Environment.visits (environment : Environment) (steps : Nat)
    (program : Program) (context : Context) (world : World) : List Visit :=
  match environment.visibleVars context with
  | .error _ => []
  | .ok vars =>
    Scene.visits ⟨environment, context.constants, context.blocks⟩ steps
      maxInclusions program vars { world with included := [] }

/-! ## Visits leave the marks that the next ones find -/

namespace Visit

theorem Chain.append {first middle last : List PathKey}
    {before after : List Visit} (early : Chain first before middle)
    (late : Chain middle after last) : Chain first (before ++ after) last := by
  induction early with
  | nil => exact late
  | cons visit _ induction => exact .cons visit (induction late)

/-- Whether visits belong to a part of a run: they start with the places that
are marked before it, and end with those that are marked after it if it is not
cut off. -/
def Tracks {α : Type} (visits : List Visit) (outcome : Outcome α)
    (world : World) : Prop :=
  ∃ last, Chain world.included visits last ∧
    ∀ result after, outcome = some (result, after) → after.included = last

namespace Tracks

theorem of_included {α : Type} {outcome : Outcome α} {world : World}
    (same : ∀ result after,
      outcome = some (result, after) → after.included = world.included) :
    Tracks [] outcome world :=
  ⟨world.included, .nil _, same⟩

/-- Which visits belong to a part of a run depends on the world that it leaves
behind. -/
theorem of_worlds {α β : Type} {outcome : Outcome α} {other : Outcome β}
    {visits : List Visit} {world : World} (tracks : Tracks visits outcome world)
    (worlds : ∀ result after,
      other = some (result, after) → ∃ inner, outcome = some (inner, after)) :
    Tracks visits other world := by
  obtain ⟨last, chain, leaves⟩ := tracks
  refine ⟨last, chain, fun result after ended => ?_⟩
  obtain ⟨inner, innerEnded⟩ := worlds result after ended
  exact leaves inner after innerEnded

theorem andThen {α β : Type} {outcome : Outcome α}
    {next : α → World → Outcome β} {visits : List Visit}
    {nextVisits : α → World → List Visit} {world : World}
    (first : Tracks visits outcome world)
    (second :
      ∀ value after, Tracks (nextVisits value after) (next value after) after) :
    Tracks (visits ++ outcome.journal nextVisits) (outcome.andThen next)
      world := by
  obtain ⟨middle, chain, leaves⟩ := first
  rcases outcome with _ | ⟨error | value, after⟩
  · exact ⟨middle, by simpa [Outcome.journal] using chain,
      fun _ _ none => by cases none⟩
  · refine ⟨middle, by simpa [Outcome.journal] using chain,
      fun result last ended => ?_⟩
    cases ended
    exact leaves _ _ rfl
  · obtain ⟨last, nextChain, nextLeaves⟩ := second value after
    rw [leaves _ _ rfl] at nextChain
    exact ⟨last, chain.append nextChain, nextLeaves⟩

end Tracks
end Visit

open Visit (Tracks)

namespace Scene

/-- An assignment marks nothing. -/
theorem included_of_assign {scene : Scene} {machine next : Machine}
    {world after : World} {name : String} {subscripts : List Argument}
    {pieces : List Piece}
    (assigned :
      machine.assign scene world name subscripts pieces = .ok (next, after)) :
    after.included = world.included := by
  unfold Machine.assign at assigned
  dsimp only at assigned
  split at assigned
  · cases assigned
  · split at assigned
    · cases assigned
    · cases assigned
      rfl

section

variable {scene : Scene}

/-- An instruction other than an inclusion marks nothing. -/
theorem included_of_step {runner : Option Runner} {instruction : Instruction}
    {machine : Machine} {world after : World} {result : Except Error Machine}
    (other : ∀ target once kind, instruction ≠ .inclusion target once kind)
    (step :
      scene.step runner instruction machine world = some (result, after)) :
    after.included = world.included := by
  cases instruction with
  | inclusion target once kind => exact absurd rfl (other target once kind)
  | set name subscripts value =>
      rw [Scene.step] at step
      rcases assigned : machine.assign scene world name subscripts value with
        _ | ⟨next, last⟩
      · rw [assigned] at step
        cases step
        rfl
      · rw [assigned] at step
        cases step
        exact included_of_assign assigned
  | elseBranch condition next exit =>
      rw [Scene.step] at step
      dsimp only at step
      split at step
      · cases step
        rfl
      · cases step
        rfl
  | _ =>
      cases step
      rfl

/-- Without levels left, an inclusion marks nothing. -/
theorem included_of_include_none {machine : Machine} {world after : World}
    {target : Target} {once : Bool} {kind : InclusionKind}
    {result : Except Error String}
    (included : scene.include none machine world target once kind =
      some (result, after)) :
    after.included = world.included := by
  rcases resolved : target.resolve (machine.view scene world) with
    error | ⟨name, parameters⟩
  · rw [include_of_error resolved] at included
    cases included
    rfl
  · rw [include_none resolved] at included
    cases included
    rfl

variable {inner : Runner}
  {inside : Program → Table Binding → World → List Visit}
  (tracks : ∀ program vars world,
    Tracks (inside program vars world) (inner program vars world) world)

include tracks

theorem tracks_include (levels : Nat) (machine : Machine) (world : World)
    (target : Target) (once : Bool) (kind : InclusionKind) :
    Tracks
      (scene.visitsAt levels inside (.inclusion target once kind) machine world)
      (scene.include (some inner) machine world target once kind) world := by
  rcases resolved : target.resolve (machine.view scene world) with
    error | ⟨name, parameters⟩
  · rw [include_of_error resolved]
    simp only [visitsAt, resolved]
    apply Tracks.of_included
    intro result after ended
    cases ended
    rfl
  · let visit : Visit :=
      ⟨levels, machine, world, target, once, kind, name, parameters⟩
    by_cases again : visit.isSkipped = true
    · have stays : visit.included = world.included := by
        simp [Visit.included, Visit.marks, again, visit]
      rw [include_of_skips inner resolved again]
      simp only [visitsAt, resolved]
      rw [if_pos again]
      refine ⟨world.included, .cons visit (stays ▸ .nil _),
        fun result after ended => ?_⟩
      cases ended
      rfl
    · have marked : visit.included = (world.marked once name).included := by
        cases once with
        | false => rfl
        | true =>
            simp [Visit.included, Visit.marks, again, World.marked, visit,
              Visit.place]
      rw [include_some inner resolved again]
      simp only [visitsAt, resolved]
      rw [if_neg again]
      rcases found :
          scene.environment.program (world.marked once name).store name with
        ⟨error | program, store⟩
      · rw [renderNested, found]
        refine ⟨visit.included, .cons visit (.nil _),
          fun result after ended => ?_⟩
        cases ended
        exact marked.symm
      · rw [renderNested_of_program scene inner _ _ found]
        obtain ⟨last, chain, leaves⟩ := tracks program
          (Table.insertAll machine.vars
            (parameters.map fun (name, value) => (name, Binding.owned value)))
          { world.marked once name with store }
        rw [← marked] at chain
        refine ⟨last, .cons visit chain, fun result after ended => ?_⟩
        rcases ran : inner program _ { world.marked once name with store } with
          _ | ⟨_ | final, afterRun⟩
        · rw [ran] at ended
          cases ended
        · rw [ran] at ended
          cases ended
          exact leaves _ _ ran
        · rw [ran] at ended
          cases ended
          exact leaves _ _ ran

theorem tracks_step (levels : Nat) (instruction : Instruction)
    (machine : Machine) (world : World) :
    Tracks (scene.visitsAt levels inside instruction machine world)
      (scene.step (some inner) instruction machine world) world := by
  cases instruction with
  | inclusion target once kind =>
      apply
        (tracks_include tracks levels machine world target once kind).of_worlds
      intro result after step
      exact exists_include_of_step step
  | _ =>
      apply Tracks.of_included
      intro result after step
      exact included_of_step (by intro _ _ _ same; cases same) step

omit tracks in
/-- What each step of a run keeps, the whole run keeps. -/
theorem tracks_run {runner : Option Runner}
    {note : Instruction → Machine → World → List Visit}
    (each :
      ∀ instruction machine world,
        Tracks (note instruction machine world)
          (scene.step runner instruction machine world) world)
    (program : Program) (steps : Nat) (machine : Machine) (world : World) :
    Tracks (scene.journal runner note program steps machine world)
      (scene.run runner program steps machine world) world := by
  induction steps generalizing machine world with
  | zero =>
      rw [journal_zero]
      apply Tracks.of_included
      intro result after ended
      cases found : program.instructions[machine.position]? with
      | none =>
          rw [run_of_ended _ _ _ _ found] at ended
          cases ended
          rfl
      | some instruction =>
          rw [run_zero scene runner world found] at ended
          cases ended
  | succ steps induction =>
      cases found : program.instructions[machine.position]? with
      | none =>
          rw [journal_of_ended _ _ _ _ _ found, run_of_ended _ _ _ _ found]
          apply Tracks.of_included
          intro result after ended
          cases ended
          rfl
      | some instruction =>
          rw [journal_succ _ _ _ _ _ found,
            run_succ scene runner steps world found]
          exact (each instruction machine world).andThen induction

end

theorem tracks_visits (scene : Scene) (steps levels : Nat) (program : Program)
    (vars : Table Binding) (world : World) :
    Tracks (scene.visits steps levels program vars world)
      (scene.runner steps levels program vars world) world := by
  induction levels generalizing program vars world with
  | zero =>
      have nothing : ∀ instruction machine world,
          Tracks [] (scene.step none instruction machine world) world := by
        intro instruction machine world
        apply Tracks.of_included
        intro result after step
        cases instruction with
        | inclusion target once kind =>
            obtain ⟨inner, included⟩ := exists_include_of_step step
            exact included_of_include_none included
        | _ => exact included_of_step (by intro _ _ _ same; cases same) step
      have tracks := tracks_run nothing program steps { vars } world
      rwa [journal_nothing] at tracks
  | succ levels induction =>
      exact tracks_run (tracks_step induction levels) program steps { vars }
        world

end Scene

/-! ## The marked places are those of earlier visits -/

namespace Visit.Chain

variable {first last : List PathKey} {visits : List Visit}

theorem append_iff {before after : List Visit} :
    Chain first (before ++ after) last ↔
      ∃ middle, Chain first before middle ∧ Chain middle after last := by
  constructor
  · intro chain
    induction before generalizing first with
    | nil => exact ⟨first, .nil first, chain⟩
    | cons visit before induction =>
        cases chain with
        | cons visit chain =>
            obtain ⟨middle, early, late⟩ := induction chain
            exact ⟨middle, .cons visit early, late⟩
  · rintro ⟨middle, early, late⟩
    exact early.append late

/-- The places that visits mark come in front of those that were marked
before. -/
theorem eq_append (chain : Chain first visits last) :
    last = ((visits.filter marks).map place).reverse ++ first := by
  induction chain with
  | nil => rfl
  | cons visit chain induction =>
      rw [induction, included]
      cases marks : visit.marks <;> simp [marks]

/-- No place is marked twice. -/
theorem nodup (chain : Chain first visits last) (distinct : first.Nodup) :
    last.Nodup := by
  induction chain with
  | nil => exact distinct
  | cons visit chain induction =>
      apply induction
      unfold included
      split
      next marks =>
        have fresh : visit.place ∉ visit.world.included := by
          intro again
          simp [Visit.marks, isSkipped, again] at marks
        exact List.nodup_cons.mpr ⟨fresh, distinct⟩
      next => exact distinct

/-- The marked places are those of the visits that may happen only once. -/
theorem mem_iff (chain : Chain first visits last) {key : PathKey} :
    key ∈ last ↔
      key ∈ first ∨
        ∃ visit ∈ visits, visit.once = true ∧ visit.place = key := by
  induction chain with
  | nil => simp
  | @cons visit visits last chain induction =>
      have here :
          key ∈ visit.included ↔
            key ∈ visit.world.included ∨
              visit.once = true ∧ visit.place = key := by
        cases once : visit.once with
        | false => simp [included, marks, once]
        | true =>
            by_cases again : visit.place ∈ visit.world.included
            · have skipped : visit.included = visit.world.included := by
                simp [included, marks, isSkipped, once, again]
              rw [skipped]
              constructor
              · exact .inl
              · rintro (before | ⟨-, rfl⟩)
                · exact before
                · exact again
            · simp [included, marks, isSkipped, once, again, eq_comm, or_comm]
      rw [induction, here, or_assoc]
      simp

end Visit.Chain

/-! ## What happens at a visit -/

/-- Whether the template of a visit and its parameters are those of its
inclusion. -/
def Visit.Resolves (scene : Scene) (visit : Visit) : Prop :=
  visit.target.resolve (visit.machine.view scene visit.world) =
    .ok (visit.name, visit.parameters)

namespace Scene

theorem resolves_of_mem_visits {scene : Scene} {steps levels : Nat}
    {program : Program} {vars : Table Binding} {world : World} {visit : Visit}
    (member : visit ∈ scene.visits steps levels program vars world) :
    visit.Resolves scene := by
  induction levels generalizing program vars world with
  | zero => cases member
  | succ levels induction =>
      obtain ⟨instruction, machine, inner, noted⟩ :=
        exists_of_mem_journal _ _ _ member
      unfold visitsAt at noted
      split at noted
      next target once kind =>
        split at noted
        next => cases noted
        next name parameters resolved =>
          rcases List.mem_cons.mp noted with rfl | inside
          · exact resolved
          · split at inside
            · cases inside
            · split at inside
              · cases inside
              · exact induction inside
      next => cases noted

/-- A visit that is skipped prints nothing and changes nothing, and any other
one renders its template with the place marked. -/
theorem include_of_resolves {scene : Scene} {visit : Visit}
    (resolves : visit.Resolves scene) (inner : Runner) :
    scene.include (some inner) visit.machine visit.world visit.target visit.once
        visit.kind =
      if visit.isSkipped then some (.ok "", visit.world)
      else
        (scene.renderNested inner visit.machine.vars visit.name visit.parameters
          (visit.world.marked visit.once visit.name)).map
            fun (result, world) => (visit.kind.recover result, world) := by
  split
  next again => exact include_of_skips inner resolves again
  next fresh => exact include_some inner resolves fresh

end Scene

/-! ## Every inclusion is visited -/

namespace Scene

section

variable {scene : Scene}

/-- The journal of a run holds what is noted of a state that the run reaches. -/
theorem Reaches.exists_journal_eq {less : Option Runner} {program : Program}
    {first machine : Machine} {origin world : World}
    (reaches : scene.Reaches less program first origin machine world) :
    ∃ needed, ∀ {Entry : Type}
        (note : Instruction → Machine → World → List Entry)
        (more : Option Runner) (steps : Nat),
      Runner.Extends more less →
        ∃ before,
          scene.journal more note program (needed + steps) first origin =
            before ++ scene.journal more note program steps machine world := by
  induction reaches with
  | start =>
      refine ⟨0, fun note more steps longer => ⟨[], ?_⟩⟩
      rw [Nat.zero_add, List.nil_append]
  | @step machine next world after instruction reaches found stepped
      induction =>
      obtain ⟨needed, holds⟩ := induction
      refine ⟨needed + 1, fun note more steps longer => ?_⟩
      obtain ⟨before, same⟩ := holds note more (steps + 1) longer
      refine ⟨before ++ note instruction machine world, ?_⟩
      have longerStep :=
        scene.step_extends longer instruction machine world _ stepped
      calc
        scene.journal more note program (needed + 1 + steps) first origin
        _ =
            scene.journal more note program (needed + (steps + 1)) first
              origin := by
          congr 1
          omega
        _ =
            before ++
              scene.journal more note program (steps + 1) machine world := same
        _ = before ++ (note instruction machine world ++
              scene.journal more note program steps next after) := by
          rw [journal_succ _ _ _ _ _ found, longerStep]
          rfl
        _ = before ++ note instruction machine world ++
              scene.journal more note program steps next after := by
          rw [List.append_assoc]

/-- With enough steps, what an inclusion notes is noted by the run that comes to
it. -/
theorem ComesTo.exists_mem_visits {fewer levels : Nat} {run : Run}
    {machine : Machine} {world : World} {target : Target} {once : Bool}
    {kind : InclusionKind} {name : String} {parameters : List (String × Value)}
    (comesTo :
      scene.ComesTo (scene.nested fewer (levels + 1)) run machine world target
        once kind name parameters) :
    ∃ enough, ∀ steps, enough ≤ steps →
      ∀ visit ∈ scene.visitsAt levels (scene.visits steps levels)
          (.inclusion target once kind) machine world,
        visit ∈
          scene.visits steps (levels + 1) run.program run.vars run.world := by
  obtain ⟨needed, holds⟩ := comesTo.visited.exists_journal_eq
  refine ⟨max fewer (needed + 1), fun steps many visit noted => ?_⟩
  have longer := scene.nested_extends (show fewer ≤ steps by omega) (levels + 1)
  obtain ⟨rest, rfl⟩ : ∃ rest, steps = needed + (rest + 1) :=
    ⟨steps - needed - 1, by omega⟩
  obtain ⟨before, same⟩ :=
    holds (scene.visitsAt levels (scene.visits (needed + (rest + 1)) levels)) _
      (rest + 1) longer
  rw [nested] at same
  rw [visits, same, journal_succ _ _ _ _ _ comesTo.instruction]
  exact List.mem_append_right before (List.mem_append_left _ noted)

/-- With enough steps, the visits of a run are visits of the run that it is
nested in. -/
theorem Active.exists_mem_visits {fewer depth levels : Nat} {first run : Run}
    (active : scene.Active fewer first depth levels run) :
    ∃ enough, ∀ steps, enough ≤ steps →
      ∀ visit ∈ scene.visits steps levels run.program run.vars run.world,
        visit ∈
          scene.visits steps maxInclusions first.program first.vars
            first.world := by
  induction active with
  | first => exact ⟨0, fun steps _ visit member => member⟩
  | @inclusion depth levels outer inner active includes induction =>
      obtain ⟨enough, outerVisits⟩ := induction
      obtain
        @⟨machine, world, target, once, kind, name, parameters, _, _, comesTo,
          fresh, found⟩ :=
        includes
      obtain ⟨needed, innerVisits⟩ := comesTo.exists_mem_visits
      refine ⟨max enough needed, fun steps many visit member => ?_⟩
      apply outerVisits steps (by omega)
      apply innerVisits steps (by omega)
      let visit : Visit :=
        ⟨levels, machine, world, target, once, kind, name, parameters⟩
      have notSkipped : ¬visit.isSkipped = true := fresh
      simp only [visitsAt, comesTo.resolved]
      apply List.mem_cons_of_mem
      rw [if_neg notSkipped, World.store_marked, found]
      exact member

end

end Scene

/-- The places that renderings mark are marked once in each of them, and no
rendering sees the marks of another one.  An inclusion before the last level
renders nothing exactly if it may happen only once and an earlier inclusion of
the rendering that may happen only once had the same place. -/
theorem Environment.visits_once (environment : Environment) (program : Program)
    (context : Context) (world : World) :
    let scene : Scene := ⟨environment, context.constants, context.blocks⟩
    (∀ steps,
      (((environment.visits steps program context world).filter Visit.marks).map
          Visit.place).Nodup ∧
        (∀ before visit after,
          environment.visits steps program context world =
              before ++ visit :: after →
            (visit.isSkipped = true ↔
              visit.once = true ∧
                ∃ earlier ∈ before,
                  earlier.once = true ∧ earlier.place = visit.place)) ∧
        ∀ visit ∈ environment.visits steps program context world,
          visit.Resolves scene ∧
            scene.include (some (scene.runner steps visit.levels)) visit.machine
                visit.world visit.target visit.once visit.kind =
              if visit.isSkipped then some (.ok "", visit.world)
          else
            (scene.renderNested (scene.runner steps visit.levels)
              visit.machine.vars visit.name visit.parameters
              (visit.world.marked visit.once visit.name)).map
              fun (result, world) => (visit.kind.recover result, world)) ∧
    (∀ vars, environment.visibleVars context = .ok vars →
      ∀ fewer depth levels run machine inside target once kind name parameters,
        scene.Active fewer ⟨program, vars, { world with included := [] }⟩ depth
            (levels + 1) run →
          scene.ComesTo (scene.nested fewer (levels + 1)) run machine inside
            target once kind name parameters →
          ∃ enough, ∀ steps, enough ≤ steps →
            ⟨levels, machine, inside, target, once, kind, name, parameters⟩ ∈
              environment.visits steps program context world) ∧
    ∀ steps places,
      environment.visits steps program context
            { world with included := places } =
          environment.visits steps program context world ∧
        (environment.execute steps program context
            { world with included := places }).map Prod.fst =
          (environment.execute steps program context world).map Prod.fst := by
  intro scene
  refine ⟨fun steps => ?_, ?_, ?_⟩
  · cases visible : environment.visibleVars context with
    | error error => simp [Environment.visits, visible]
    | ok vars =>
        simp only [Environment.visits, visible]
        obtain ⟨last, chain, -⟩ :=
          scene.tracks_visits steps maxInclusions program vars
            { world with included := [] }
        refine ⟨?_, ?_, ?_⟩
        · have distinct := chain.nodup List.nodup_nil
          rw [chain.eq_append, List.append_nil] at distinct
          exact (List.reverse_perm _).nodup_iff.mp distinct
        · intro before visit after split
          rw [split, Visit.Chain.append_iff] at chain
          obtain ⟨middle, early, late⟩ := chain
          cases late with
          | cons visit late =>
              have marked : visit.place ∈ visit.world.included ↔ _ :=
                early.mem_iff
              rw [Visit.isSkipped, Bool.and_eq_true, List.contains_iff_mem,
                marked]
              simp
        · intro visit member
          have resolves := Scene.resolves_of_mem_visits member
          exact ⟨resolves, Scene.include_of_resolves resolves _⟩
  · intro vars visible fewer depth levels run machine inside target once kind
      name parameters active comesTo
    obtain ⟨enough, outerVisits⟩ := active.exists_mem_visits
    obtain ⟨needed, innerVisits⟩ := comesTo.exists_mem_visits
    refine ⟨max enough needed, fun steps many => ?_⟩
    rw [Environment.visits, visible]
    apply outerVisits steps (by omega)
    apply innerVisits steps (by omega)
    simp only [Scene.visitsAt, comesTo.resolved]
    exact List.mem_cons_self
  · intro steps places
    cases visible : environment.visibleVars context with
    | error error => simp [Environment.visits, Environment.execute, visible]
    | ok vars => simp [Environment.visits, Environment.execute, visible]

/-- A template is included by its path, and then once more by a text with a
query that a constant holds. -/
theorem Environment.visits_once_query :
    let again : Target := .dynamic (.access (.const "again") [])
    let program : Program :=
      ⟨[.inclusion (.path "a" []) true .optional,
        .inclusion again true .required]⟩
    let environment : Environment := { preloaded := [("a", ⟨[.text "x"]⟩)] }
    let context : Context := { constants := [("again", .text "a/?n=1")] }
    let store : Store := ⟨.memory [], .memory [], 0, 0⟩
    let first : Visit :=
      ⟨31, { vars := [] }, ⟨{}, store, []⟩, .path "a" [], true, .optional, "a",
        []⟩
    let second : Visit :=
      ⟨31, { position := 1, vars := [], output := "x" },
        ⟨{}, store, [⟨false, ["a"]⟩]⟩, again, true, .required, "a/",
        [("n", .text "1")]⟩
    let world : World := ⟨{}, store, [⟨false, ["a"]⟩]⟩
    let scene : Scene := ⟨environment, context.constants, context.blocks⟩
    environment.visits 2 program context world = [first, second] ∧
    first.isSkipped = false ∧
    second.isSkipped = true ∧
    scene.include (some (scene.runner 2 31)) second.machine second.world again
        true .required =
      some (.ok "", second.world) ∧
    ∃ enough, ∀ steps, enough ≤ steps →
      first ∈ environment.visits steps program context world := by
  intro again program environment context store first second world scene
  obtain ⟨holds, complete, -⟩ :=
    Environment.visits_once environment program context world
  obtain ⟨-, skips, includes⟩ := holds 2
  have visits :
      environment.visits 2 program context world = [first, second] := by cbv
  have fresh : first.isSkipped = false := by
    rw [Bool.eq_false_iff]
    intro skipped
    obtain ⟨-, earlier, member, -⟩ :=
      (skips [] first [second] visits).mp skipped
    cases member
  have skipped : second.isSkipped = true := by
    apply (skips [first] second [] visits).mpr
    exact ⟨rfl, first, List.mem_cons_self, rfl, by cbv⟩
  refine ⟨visits, fresh, skipped, ?_, ?_⟩
  · obtain ⟨-, included⟩ := includes second (by simp [visits])
    rw [if_pos skipped] at included
    exact included
  · exact complete [] rfl 2 0 31 _ _ _ _ _ _ _ _ .first ⟨.start, rfl, rfl⟩

end TemplateEngine
