import TemplateEngine.Proofs.Render.Requests
import TemplateEngine.Proofs.Store.Answered

/-!
# Programs are up to date

With sources and programs in memory, a host changes templates, asks for programs
and renders, and the clock may go on or back in between.  As long as no template
changes at a moment before its program was stored, the cache is never noticed:
every program is that of the current source.

A program that is stored at the very moment of a change is taken for outdated,
which is why a change may come at that moment.
-/

namespace TemplateEngine

/-- What a template stands for, given its source if it has one: what that is
compiled to. -/
def Environment.current (environment : Environment) (name : String) :
    Option String → Except Error Program
  | none => .error (.missingTemplate name)
  | some source => (environment.compile source).map Compiled.program

/-! ## Programs in memory -/

/-- Whether a table of programs has none for a template that was stored after a
moment. -/
def Table.Outdated (programs : Table (Time × Program)) (name : String)
    (modified : Time) : Prop :=
  ∀ stored program,
    Table.get? programs name = some (stored, program) → stored ≤ modified

section

variable {programs : Table (Time × Program)} {loader : Loader} {name : String}
  {modified now reads : Nat}

theorem Environment.cached_memory :
    Environment.cached ⟨loader, .memory programs, now, reads⟩ name modified =
      .ok
        (((Table.get? programs name).filter fun entry => modified < entry.1).map
          Prod.snd) := by
  rcases kept : Table.get? programs name with _ | ⟨stored, program⟩
  · simp [Environment.cached, Cache.isFresh, kept]
  · by_cases later : modified < stored
    · simp [Environment.cached, Cache.isFresh, Cache.load, kept, later,
        Option.filter]
    · simp [Environment.cached, Cache.isFresh, kept, later, Option.filter]

theorem Environment.cached_memory_eq_none_iff :
    Environment.cached ⟨loader, .memory programs, now, reads⟩ name modified =
        .ok none ↔
      programs.Outdated name modified := by
  rw [Environment.cached_memory]
  simp [Table.Outdated, Option.filter_eq_none_iff]

theorem Environment.cached_memory_eq_some_iff {program : Program} :
    Environment.cached ⟨loader, .memory programs, now, reads⟩ name modified =
        .ok (some program) ↔
      ∃ stored, Table.get? programs name = some (stored, program) ∧
        modified < stored := by
  rw [Environment.cached_memory]
  simp [Option.filter_eq_some_iff]

theorem Environment.renews_memory_iff {environment : Environment}
    {templates : Table StoredSource} :
    environment.Renews ⟨.memory templates, .memory programs, now, reads⟩ name ↔
      Table.get? environment.preloaded name = none ∧ ∃ template,
        Table.get? templates name = some template ∧
        programs.Outdated name template.modified := by
  unfold Environment.Renews
  simp only [Loader.lastModified, Loader.locate,
    Environment.cached_memory_eq_none_iff]
  cases Table.get? templates name with
  | none => simp
  | some template => simp

end

/-! ## The history of a host -/

/-- The moment at which a cache in memory stored the program for a path. -/
def Cache.stored? (cache : Cache) (id : String) : Option Time :=
  match cache with
  | memory programs => (Table.get? programs id).map Prod.fst
  | _ => none

/-- Whether a program for a template has been stored at a moment, given the
caches after all calls.  A call makes its stores at one moment, so that the
cache after it shows every one of them. -/
def Cache.Made (past : List Cache) (name : String) (time : Time) : Prop :=
  ∃ cache ∈ past, cache.stored? name = some time

/-- What a host may have done with a store that was empty: the sources that it
stored, the caches after all its calls, last first, and the store it is left
with.  Templates change, programs are asked for and rendered, and the clock is
set, in any order. -/
inductive Environment.History (environment : Environment) :
    Table String → List Cache → Store → Prop
  | start (now : Time) :
      environment.History [] [] ⟨.memory [], .memory [], now, 0⟩
  | clock {sources : Table String} {past : List Cache} {store : Store}
      (now : Time) :
      environment.History sources past store →
      environment.History sources past { store with now }
  | update {sources : Table String} {past : List Cache} {store : Store}
      {name : String} {modified : Time} (content : List UInt8) :
      environment.History sources past store →
      (∀ time, Cache.Made past name time → time ≤ modified) →
      environment.History
        (Table.insert sources name (String.ofList (Text.Utf8.decode content)))
        past { store with loader := store.loader.insert name content modified }
  | program {sources : Table String} {past : List Cache} {store : Store}
      (name : String) :
      environment.History sources past store →
      environment.History sources
        ((environment.program store name).2.cache :: past)
        (environment.program store name).2
  | render {sources : Table String} {past : List Cache} {store : Store}
      {steps : Nat} {name : String} {context : Context} {heap : Heap}
      {included : List PathKey} {result : Except Error String} {after : World} :
      environment.History sources past store →
      environment.render steps name context ⟨heap, store, included⟩ =
        some (result, after) →
      environment.History sources (after.store.cache :: past) after.store

/-- What asking for a program keeps: a program that counts is that of the
current source, and of the stores so far none that would count has been lost. -/
structure Environment.UpToDate (environment : Environment) (past : List Cache)
    (templates : Table StoredSource) (programs : Table (Time × Program)) :
    Prop where
  current :
    ∀ name template stored program, Table.get? templates name = some template →
      Table.get? programs name = some (stored, program) →
      template.modified < stored →
      (environment.compile template.source).map Compiled.program = .ok program
  kept : ∀ name template time, Table.get? templates name = some template →
    Cache.Made past name time → Table.Outdated programs name template.modified →
    time ≤ template.modified

/-- A store in memory that is up to date. -/
def Environment.Keeps (environment : Environment) (past : List Cache)
    (store : Store) : Prop :=
  ∃ templates programs now reads,
    store = ⟨.memory templates, .memory programs, now, reads⟩ ∧
      environment.UpToDate past templates programs

section

variable {environment : Environment} {sources : Table String}
  {past : List Cache} {store : Store}

theorem Environment.Keeps.program (keeps : environment.Keeps past store)
    (name : String) :
    environment.Keeps past (environment.program store name).2 := by
  obtain ⟨templates, programs, now, reads, rfl, upToDate⟩ := keeps
  have answers := environment.answers_program
    ⟨.memory templates, .memory programs, now, reads⟩ name
  generalize (environment.program _ name).1 = answer at answers
  generalize (environment.program _ name).2 = after at answers ⊢
  cases answers with
  | preloaded _ => exact ⟨templates, programs, now, reads, rfl, upToDate⟩
  | unavailable _ _ => exact ⟨templates, programs, now, reads, rfl, upToDate⟩
  | unreadable _ _ _ => exact ⟨templates, programs, now, reads, rfl, upToDate⟩
  | cached _ _ _ => exact ⟨templates, programs, now, reads, rfl, upToDate⟩
  | unread _ _ => exact ⟨templates, programs, now, reads + 1, rfl, upToDate⟩
  | refused _ _ _ => exact ⟨templates, programs, now, reads + 1, rfl, upToDate⟩
  | @renewed source compiled _ _ renews read compiles stored =>
      obtain ⟨-, template, known, outdated⟩ :=
        Environment.renews_memory_iff.mp renews
      simp only [Loader.read, known] at read
      cases read
      cases stored
      refine ⟨templates, Table.insert programs name (now, compiled.program),
        now, reads + 1, rfl, ?_, ?_⟩
      · intro other found stored program foundTemplate foundProgram later
        by_cases same : other = name
        · subst same
          rw [known] at foundTemplate
          rw [Table.get?_insert_same] at foundProgram
          cases foundTemplate
          cases foundProgram
          rw [compiles]
          rfl
        · rw [Table.get?_insert_other _ _ same] at foundProgram
          exact upToDate.current other found stored program foundTemplate
            foundProgram later
      · intro other found time foundTemplate made stale
        apply upToDate.kept other found time foundTemplate made
        by_cases same : other = name
        · subst same
          rw [known] at foundTemplate
          cases foundTemplate
          exact outdated
        · intro stored program foundProgram
          apply stale stored program
          rwa [Table.get?_insert_other _ _ same]

/-- Behind a call, what the cache holds counts among the stores so far. -/
theorem Environment.Keeps.called (keeps : environment.Keeps past store) :
    environment.Keeps (store.cache :: past) store := by
  obtain ⟨templates, programs, now, reads, rfl, upToDate⟩ := keeps
  refine ⟨templates, programs, now, reads, rfl, upToDate.current, ?_⟩
  rintro name template time known ⟨cache, member, held⟩ outdated
  rcases List.mem_cons.mp member with rfl | before
  · obtain ⟨⟨stored, program⟩, found, rfl⟩ := Option.map_eq_some_iff.mp held
    exact outdated stored program found
  · exact upToDate.kept name template time known ⟨cache, before, held⟩ outdated

/-- A template may change at a moment not before any store of its program. -/
theorem Environment.Keeps.update (keeps : environment.Keeps past store)
    (held :
      ∀ id time, store.cache.stored? id = some time → Cache.Made past id time)
    {name : String} {modified : Time} (content : List UInt8)
    (after : ∀ time, Cache.Made past name time → time ≤ modified) :
    environment.Keeps past
      { store with loader := store.loader.insert name content modified } := by
  obtain ⟨templates, programs, now, reads, rfl, upToDate⟩ := keeps
  refine ⟨_, programs, now, reads, rfl, ?_, ?_⟩
  · intro other found stored program foundTemplate foundProgram later
    by_cases same : other = name
    · subst same
      rw [Table.get?_insert_same] at foundTemplate
      cases foundTemplate
      have made : Cache.Made past other stored := by
        apply held
        rw [Cache.stored?, foundProgram]
        rfl
      exact absurd later (Nat.not_lt.mpr (after stored made))
    · rw [Table.get?_insert_other _ _ same] at foundTemplate
      exact upToDate.current other found stored program foundTemplate
        foundProgram later
  · intro other found time foundTemplate made outdated
    by_cases same : other = name
    · subst same
      rw [Table.get?_insert_same] at foundTemplate
      cases foundTemplate
      exact after time made
    · rw [Table.get?_insert_other _ _ same] at foundTemplate
      exact upToDate.kept other found time foundTemplate made outdated

theorem Environment.Keeps.serves {after : Store}
    (keeps : environment.Keeps past store)
    (serves : environment.Serves store after) : environment.Keeps past after :=
  serves.keeps (fun _ name kept => Environment.Keeps.program kept name) keeps

theorem Environment.Serves.loader_eq {after : Store}
    (serves : environment.Serves store after) :
    after.loader = store.loader := by
  induction serves with
  | start => rfl
  | request name _ induction => rw [Environment.loader_program, induction]

namespace Environment.History

/-- Every store so far that the cache still shows is among the stores so far. -/
theorem made_of_stored? (history : environment.History sources past store)
    {id : String} {time : Time} (held : store.cache.stored? id = some time) :
    Cache.Made past id time := by
  induction history with
  | start now => cases held
  | clock now _ induction => exact induction held
  | update content _ _ induction => exact induction held
  | program name _ _ => exact ⟨_, List.mem_cons_self, held⟩
  | render _ _ _ => exact ⟨_, List.mem_cons_self, held⟩

theorem keeps (history : environment.History sources past store) :
    environment.Keeps past store := by
  induction history with
  | start now =>
      refine ⟨[], [], now, 0, rfl, ?_, ?_⟩
      · intro name template stored program known
        cases known
      · intro name template time known
        cases known
  | clock now _ induction =>
      obtain ⟨templates, programs, _, reads, rfl, upToDate⟩ := induction
      exact ⟨templates, programs, now, reads, rfl, upToDate⟩
  | update content history after induction =>
      exact induction.update (fun _ _ held => history.made_of_stored? held)
        content after
  | program name _ induction => exact (induction.program name).called
  | render _ rendered induction =>
      have served :=
        Environment.Keeps.serves induction
          (Environment.serves_of_render rendered)
      exact served.called

/-- The loader holds the sources that the host stored. -/
theorem get?_templates (history : environment.History sources past store) :
    ∃ templates, store.loader = .memory templates ∧
      ∀ name, (Table.get? templates name).map StoredSource.source =
        Table.get? sources name := by
  induction history with
  | start now => exact ⟨[], rfl, fun _ => rfl⟩
  | clock now _ induction => exact induction
  | @update _ _ _ name _ content _ _ induction =>
      obtain ⟨templates, memory, same⟩ := induction
      dsimp only
      rw [memory]
      refine ⟨_, rfl, fun other => ?_⟩
      by_cases own : other = name
      · subst own
        rw [Table.get?_insert_same, Table.get?_insert_same]
        rfl
      · rw [Table.get?_insert_other _ _ own, Table.get?_insert_other _ _ own]
        exact same other
  | program name _ induction =>
      rw [Environment.loader_program]
      exact induction
  | render _ rendered induction =>
      rw [(Environment.serves_of_render rendered).loader_eq]
      exact induction

end Environment.History

end

/-- The cache is never noticed: at any point of a history, asking for a program
that is not compiled ahead of time gives what the last source of the template is
compiled to, or its error, and leaves the cache as it is unless a program
results; and the source is read exactly if there is one and no store made so far
is later than its last change. -/
theorem Environment.program_of_history {environment : Environment}
    {sources : Table String} {past : List Cache} {store : Store}
    (history : environment.History sources past store) {name : String}
    (apart : Table.get? environment.preloaded name = none) :
    (environment.program store name).1 =
        environment.current name (Table.get? sources name) ∧
      ((∀ program, (environment.program store name).1 ≠ .ok program) →
        (environment.program store name).2.cache = store.cache) ∧
      ((environment.program store name).2.reads ≠ store.reads ↔
        ∃ modified, store.loader.lastModified name = .ok modified ∧
          ∀ time, Cache.Made past name time → time ≤ modified) := by
  have held : ∀ time,
      store.cache.stored? name = some time → Cache.Made past name time :=
    fun _ => history.made_of_stored?
  obtain ⟨templates, memory, sameSources⟩ := history.get?_templates
  obtain ⟨loaded, programs, now, reads, rfl, upToDate⟩ := history.keeps
  obtain rfl : templates = loaded := (Loader.memory.inj memory).symm
  have source := sameSources name
  have answers := environment.answers_program
    ⟨.memory templates, .memory programs, now, reads⟩ name
  generalize (environment.program _ name).1 = answer at answers ⊢
  generalize (environment.program _ name).2 = after at answers ⊢
  cases known : Table.get? templates name with
  | none =>
      rw [known] at source
      have missing : Loader.lastModified (.memory templates) name =
          .error (.missingTemplate name) := by
        simp [Loader.lastModified, known]
      rw [← source]
      cases answers with
      | preloaded found => simp [apart] at found
      | unavailable _ unavailable =>
          rw [missing] at unavailable
          cases unavailable
          refine ⟨rfl, fun _ => rfl, ?_⟩
          simp [missing]
      | unreadable _ available _ => simp [missing] at available
      | cached _ available _ => simp [missing] at available
      | unread renews _ => simp [Environment.renews_memory_iff, known] at renews
      | refused renews _ _ =>
          simp [Environment.renews_memory_iff, known] at renews
      | renewed renews _ _ _ =>
          simp [Environment.renews_memory_iff, known] at renews
  | some template =>
      rw [known] at source
      have available :
          Loader.lastModified (.memory templates) name =
            .ok template.modified := by
        simp [Loader.lastModified, known]
      have reading :
          Loader.read (.memory templates) name = .ok template.source := by
        simp [Loader.read, known]
      rw [← source]
      have stale :
          environment.Renews ⟨.memory templates, .memory programs, now, reads⟩
              name →
            ∃ modified,
              Loader.lastModified (.memory templates) name = .ok modified ∧
                ∀ time, Cache.Made past name time → time ≤ modified := by
        intro renews
        simp only [Environment.renews_memory_iff, known, Option.some.injEq]
          at renews
        obtain ⟨-, _, rfl, outdated⟩ := renews
        exact ⟨_, available, fun time made =>
          upToDate.kept name template time known made outdated⟩
      cases answers with
      | preloaded found => simp [apart] at found
      | unavailable _ unavailable => simp [available] at unavailable
      | unreadable _ _ unreadable =>
          rw [Environment.cached_memory] at unreadable
          cases unreadable
      | @cached modified program _ changed found =>
          rw [available] at changed
          cases changed
          obtain ⟨stored, found, later⟩ :=
            Environment.cached_memory_eq_some_iff.mp found
          rw [Loader.locate] at found
          have made : Cache.Made past name stored := by
            apply held
            rw [Cache.stored?, found]
            rfl
          refine ⟨?_, fun _ => rfl, ?_⟩
          · exact (upToDate.current name template stored program known found
              later).symm
          · simp only [available, ne_eq, not_true_eq_false, false_iff,
              Except.ok.injEq]
            rintro ⟨_, rfl, before⟩
            exact absurd later (Nat.not_lt.mpr (before stored made))
      | unread _ unread => simp [reading] at unread
      | refused renews read fails =>
          rw [reading] at read
          cases read
          refine ⟨?_, fun _ => rfl, ?_⟩
          · rw [Option.map_some, Environment.current, fails]
            rfl
          · exact iff_of_true (Nat.succ_ne_self reads) (stale renews)
      | @renewed _ compiled _ _ renews read compiles kept =>
          rw [reading] at read
          cases read
          cases kept
          refine ⟨?_, ?_, ?_⟩
          · rw [Option.map_some, Environment.current, compiles]
            rfl
          · intro failed
            exact absurd rfl (failed compiled.program)
          · exact iff_of_true (Nat.succ_ne_self reads) (stale renews)

/-- A template that changes at the moment of its last store is read again. -/
theorem Environment.program_of_history_update :
    ∃ sources past store, Environment.History {} sources past store ∧
      Cache.Made past "a" 5 ∧
      (({} : Environment).program store "a").1 =
        Environment.current {} "a" (some "2") ∧
      (({} : Environment).program store "a").2.reads ≠ store.reads := by
  have written :
      Environment.History {} _ []
        ⟨Loader.insert (.memory []) "a" [0x31] 3, _, 5, 0⟩ :=
    .clock 5 (.update [0x31] (.start 0) fun _ ⟨_, member, _⟩ =>
      absurd member List.not_mem_nil)
  have asked := Environment.History.program "a" written
  have stored :
      (({} : Environment).program ⟨Loader.insert (.memory []) "a" [0x31] 3,
          .memory [], 5, 0⟩ "a").2.cache.stored? "a" =
        some 5 := by
    decide +kernel
  have onlyStore :
      ∀ time,
        Cache.Made
            [(({} : Environment).program
              ⟨Loader.insert (.memory []) "a" [0x31] 3, .memory [], 5, 0⟩
              "a").2.cache] "a" time →
          time ≤ 5 := by
    rintro time ⟨cache, member, held⟩
    rw [List.mem_singleton.mp member, stored] at held
    exact Nat.le_of_eq (Option.some.inj held).symm
  have updated := asked.update [0x32] onlyStore
  have apart : Table.get? ({} : Environment).preloaded "a" = none := rfl
  obtain ⟨result, -, reads⟩ := Environment.program_of_history updated apart
  refine ⟨_, _, _, updated, ⟨_, List.mem_cons_self, stored⟩, result, ?_⟩
  rw [reads]
  exact ⟨5, rfl, onlyStore⟩

end TemplateEngine
