import Mathlib
import TemplateEngine.Proofs.Render.Alike

/-!
# Programs and changed configurations

A cache tells by times alone whether a program counts.  When the options or the
filters of an environment change, the change takes effect at once for a template
of which no program counts.  A program that counts is returned as it was
compiled: under the configuration of the call that kept it.
-/

namespace TemplateEngine

/-- A newly created environment with the options and the filters of another
one. -/
def Environment.renewed (environment : Environment) : Environment where
  options := environment.options
  filters := environment.filters

theorem Environment.preloaded_renewed (environment : Environment)
    (name : String) : Table.get? environment.renewed.preloaded name = none :=
  rfl

/-! ## Calls under changing configurations -/

/-- A call of a host: the environment as it was then, and the cache behind the
call. -/
structure Call where
  environment : Environment
  cache : Cache

/-- What a host may have done with a store whose cache was empty, while the
sources stayed as they are: its calls, last first, and the store it is left
with.  Every call is made under an environment of its own, and the clock may be
set in between. -/
inductive Store.Called (loader : Loader) : List Call → Store → Prop
  | start (now : Time) : Called loader [] ⟨loader, .memory [], now, 0⟩
  | clock {past : List Call} {store : Store} (now : Time) :
      Called loader past store → Called loader past { store with now }
  | program {past : List Call} {store : Store} (environment : Environment)
      (name : String) :
      Called loader past store →
      Called loader
        (⟨environment, (environment.program store name).2.cache⟩ :: past)
        (environment.program store name).2
  | render {past : List Call} {store : Store} {environment : Environment}
      {steps : Nat} {name : String} {context : Context} {heap : Heap}
      {included : List PathKey} {result : Except Error String} {after : World} :
      Called loader past store →
      environment.render steps name context ⟨heap, store, included⟩ =
        some (result, after) →
      Called loader (⟨environment, after.store.cache⟩ :: past) after.store
  | renderSource {past : List Call} {store : Store} {environment : Environment}
      {steps : Nat} {source : String} {context : Context} {heap : Heap}
      {included : List PathKey} {result : Except Error String} {after : World} :
      Called loader past store →
      environment.renderSource steps source context ⟨heap, store, included⟩ =
        some (result, after) →
      Called loader (⟨environment, after.store.cache⟩ :: past) after.store

/-- Whether an entry is what the source of a path is compiled to under an
environment. -/
def Environment.Compiles (environment : Environment) (loader : Loader)
    (id : String) (program : Program) : Prop :=
  ∃ name source compiled, loader.locate name = id ∧
    loader.read name = .ok source ∧ environment.compile source = .ok compiled ∧
    compiled.program = program

/-- Whether a call was the one since which a cache holds an entry for a path. -/
def Call.Introduces (call : Call) (past : List Call) (id : String)
    (entry : Time × Program) : Prop :=
  ∃ later earlier, past = later ++ call :: earlier ∧
    (∀ other ∈ call :: later, other.cache.entry? id = some entry) ∧
    ∀ before ∈ earlier.head?, before.cache.entry? id ≠ some entry

theorem Call.Introduces.cons {call other : Call} {past : List Call}
    {id : String} {entry : Time × Program}
    (introduces : call.Introduces past id entry)
    (held : other.cache.entry? id = some entry) :
    call.Introduces (other :: past) id entry := by
  obtain ⟨later, earlier, rfl, since, before⟩ := introduces
  refine ⟨other :: later, earlier, rfl, ?_, before⟩
  intro one member
  rcases List.mem_cons.mp member with rfl | member
  · exact since one List.mem_cons_self
  · rcases List.mem_cons.mp member with rfl | member
    · exact held
    · exact since one (List.mem_cons_of_mem _ member)

namespace Environment.Serves

variable {environment : Environment} {first last : Store}

theorem now_eq (serves : environment.Serves first last) :
    last.now = first.now := by
  induction serves with
  | start => rfl
  | request name _ induction => rw [now_program, induction]

theorem inMemory (inMemory : first.InMemory)
    (serves : environment.Serves first last) : last.InMemory :=
  serves.keeps (fun _ name memory => inMemory_program memory name) inMemory

/-- After any number of requests, an entry is as before or was kept by them. -/
theorem entry? (inMemory : first.InMemory)
    (serves : environment.Serves first last) (id : String) :
    last.cache.entry? id = first.cache.entry? id ∨
      ∃ program, last.cache.entry? id = some (first.now, program) ∧
        environment.Compiles first.loader id program := by
  induction serves with
  | start => exact .inl rfl
  | @request store name serves induction =>
      rcases environment.entry?_program (serves.inMemory inMemory) name id with
        same | ⟨-, place, source, compiled, read, compiles, held⟩
      · rw [same]
        exact induction
      · rw [serves.loader_eq] at place read
        rw [serves.now_eq] at held
        exact .inr ⟨compiled.program, held, name, source, compiled, place, read,
          compiles, rfl⟩

end Environment.Serves

namespace Store.Called

variable {loader : Loader} {past : List Call} {store : Store}

/-- What all calls keep that ask for programs only, a host keeps. -/
theorem keeps {holds : List Call → Store → Prop}
    (start : ∀ now, holds [] ⟨loader, .memory [], now, 0⟩)
    (clock : ∀ past store now, holds past store → holds past { store with now })
    (call :
      ∀ past store (environment : Environment) after, Called loader past store →
        holds past store → environment.Serves store after →
        holds (⟨environment, after.cache⟩ :: past) after)
    (called : Called loader past store) : holds past store := by
  induction called with
  | start now => exact start now
  | clock now _ induction => exact clock _ _ now induction
  | program environment name called induction =>
      exact call _ _ _ _ called induction (.request name .start)
  | render called rendered induction =>
      exact call _ _ _ _ called induction
        (Environment.serves_of_render rendered)
  | renderSource called rendered induction =>
      exact call _ _ _ _ called induction
        (Environment.serves_of_renderSource rendered)

theorem inMemory (called : Called loader past store) : store.InMemory := by
  apply keeps _ _ _ called
  · exact fun now => ⟨[], rfl⟩
  · exact fun _ _ _ inMemory => inMemory
  · exact fun _ _ _ _ _ inMemory serves => serves.inMemory inMemory

theorem loader_eq (called : Called loader past store) :
    store.loader = loader := by
  apply keeps _ _ _ called
  · exact fun now => rfl
  · exact fun _ _ _ same => same
  · exact fun _ _ _ _ _ same serves => serves.loader_eq.trans same

theorem cache_of_head? (called : Called loader past store) :
    ∀ call ∈ past.head?, call.cache = store.cache := by
  apply keeps _ _ _ called
  · exact fun _ _ none => by cases none
  · exact fun _ _ _ same => same
  · intro past store environment after _ _ _ call last
    cases last
    rfl

/-- Every entry was introduced by a call, as what the source was compiled to
under its environment. -/
theorem exists_introduces (called : Called loader past store) {id : String}
    {entry : Time × Program} (held : store.cache.entry? id = some entry) :
    ∃ call, Call.Introduces call past id entry ∧
      call.environment.Compiles loader id entry.2 := by
  revert held
  apply keeps _ _ _ called
  · intro now held
    cases held
  · exact fun _ _ _ introduced => introduced
  · intro past store environment after called induction serves held
    -- An entry that was not there before the call is one that the call itself
    -- has kept.
    by_cases before : store.cache.entry? id = some entry
    · obtain ⟨call, introduces, compiles⟩ := induction before
      exact ⟨call, introduces.cons held, compiles⟩
    · rcases serves.entry? called.inMemory id with
        same | ⟨program, kept, compiles⟩
      · exact absurd (same.symm.trans held) before
      · rw [kept] at held
        cases held
        rw [called.loader_eq] at compiles
        refine ⟨⟨environment, after.cache⟩, ⟨[], past, rfl, ?_, ?_⟩, compiles⟩
        · intro other member
          rw [List.mem_singleton.mp member]
          exact kept
        · intro call last
          rw [called.cache_of_head? call last]
          exact before

end Store.Called

/-! ## Answers after a change of configuration -/

/-- Whether a store holds no program of a template that counts: none stored
after its source last changed. -/
def Store.Lacks (store : Store) (name : String) : Prop :=
  ∀ modified entry, store.loader.lastModified name = .ok modified →
    store.cache.entry? (store.loader.locate name) = some entry →
    entry.1 ≤ modified

namespace Environment

variable {environment : Environment} {store : Store} {name source : String}

/-- Where no program counts, a template is answered as by a newly created
environment. -/
theorem program_of_lacks (inMemory : store.InMemory)
    (apart : Table.get? environment.preloaded name = none)
    (lacks : store.Lacks name) (now : Time) (reads : Nat) :
    (environment.program store name).1 =
      (environment.renewed.program ⟨store.loader, .memory [], now, reads⟩
        name).1 := by
  rw [program_eq_answer inMemory, program_eq_answer ⟨[], rfl⟩, answer, answer,
    apart, preloaded_renewed]
  cases changed : store.loader.lastModified name with
  | error error => rfl
  | ok modified =>
      have outdated :
          ((store.cache.entry? (store.loader.locate name)).filter
            fun entry => modified < entry.1) = none := by
        rw [Option.filter_eq_none_iff]
        intro entry held
        simpa using lacks modified entry changed held
      dsimp only
      rw [outdated]
      rfl

/-- A newly created environment compiles the source. -/
theorem program_renewed_of_read {loader : Loader}
    (read : loader.read name = .ok source) (now : Time) (reads : Nat) :
    (environment.renewed.program ⟨loader, .memory [], now, reads⟩ name).1 =
      (environment.compile source).map Compiled.program := by
  obtain ⟨modified, changed⟩ := Loader.exists_lastModified_of_read read
  rw [program_eq_answer ⟨[], rfl⟩]
  refine answer_of_outdated (environment.preloaded_renewed name) changed ?_ read
  rintro entry ⟨⟩

/-- A program that counts is returned, and the store stays as it is. -/
theorem program_of_entry? (inMemory : store.InMemory)
    (apart : Table.get? environment.preloaded name = none) {modified : Time}
    {entry : Time × Program}
    (changed : store.loader.lastModified name = .ok modified)
    (held : store.cache.entry? (store.loader.locate name) = some entry)
    (later : modified < entry.1) :
    environment.program store name = (.ok entry.2, store) := by
  have counts :
      Option.filter (fun entry => modified < entry.1) (some entry) =
        some entry := by
    simp [Option.filter, later]
  rw [program, apart]
  dsimp only
  rw [changed]
  dsimp only
  rw [cached_of_inMemory inMemory, held, counts]
  rfl

/-- A template whose program is that of its source is rendered as the source
is. -/
theorem render_eq_renderSource (inMemory : store.InMemory)
    (answered : (environment.program store name).1 =
      (environment.compile source).map Compiled.program) (steps : Nat)
    (context : Context) (heap : Heap) (included : List PathKey) :
    (environment.render steps name context
        ⟨heap, store, included⟩).withoutStore =
      (environment.renderSource steps source context
        ⟨heap, store, included⟩).withoutStore := by
  have behind := @SameAnswers.behind environment store inMemory name
  rw [render, renderSource]
  rcases asked : environment.program store name with ⟨answer, after⟩
  rw [asked] at answered behind
  dsimp only at answered behind ⊢
  cases compiles : environment.compile source with
  | error error =>
      rw [answered, compiles]
      rfl
  | ok compiled =>
      rw [answered, compiles]
      have alike :
          World.Alike environment ⟨heap, after, included⟩
            ⟨heap, store, included⟩ :=
        ⟨rfl, rfl, behind⟩
      exact (execute_alike alike steps compiled.program context).withoutStore_eq

end Environment

/-- Under any environment and after any calls under others, a template that is
not compiled ahead of time and of which no program counts is answered as by a
newly created environment with the same options and filters, and rendered as its
source is.  A program that counts is returned and rendered as it is: it is what
the source was compiled to under the environment of the call that introduced it,
whatever the environment compiles the source to now. -/
theorem Environment.program_of_called {loader : Loader} {past : List Call}
    {store : Store} (called : Store.Called loader past store)
    {environment : Environment} {name : String}
    (apart : Table.get? environment.preloaded name = none) :
    (store.Lacks name →
        (∀ now reads, (environment.program store name).1 =
            (environment.renewed.program ⟨loader, .memory [], now, reads⟩
              name).1) ∧
          ∀ source, loader.read name = .ok source →
            ∀ steps context heap included,
              (environment.render steps name context
                  ⟨heap, store, included⟩).withoutStore =
                (environment.renderSource steps source context
                  ⟨heap, store, included⟩).withoutStore) ∧
      ∀ modified entry, loader.lastModified name = .ok modified →
        store.cache.entry? (loader.locate name) = some entry →
        modified < entry.1 →
        environment.program store name = (.ok entry.2, store) ∧
          ∃ call source compiled,
            Call.Introduces call past (loader.locate name) entry ∧
              loader.read name = .ok source ∧
              call.environment.compile source = .ok compiled ∧
              entry.2 = compiled.program ∧
              (∀ now reads,
                (environment.renewed.program ⟨loader, .memory [], now, reads⟩
                    name).1 =
                  (environment.compile source).map Compiled.program) ∧
              ∀ steps context heap included,
                environment.render steps name context ⟨heap, store, included⟩ =
                  environment.execute steps compiled.program context
                    ⟨heap, store, included⟩ := by
  have inMemory := called.inMemory
  have sources := called.loader_eq
  refine ⟨fun lacks => ?_, fun modified entry changed held later => ?_⟩
  · have anew := Environment.program_of_lacks inMemory apart lacks
    rw [sources] at anew
    refine ⟨anew, fun source read steps context heap included => ?_⟩
    apply Environment.render_eq_renderSource inMemory
    rw [anew 0 0, Environment.program_renewed_of_read read]
  · obtain ⟨call, introduces, other, source, compiled, place, read, compiles,
      same⟩ :=
      called.exists_introduces held
    have ownRead := Loader.read_of_locate place.symm read
    have returned : environment.program store name = (.ok entry.2, store) :=
      Environment.program_of_entry? inMemory apart
        (by rw [sources]; exact changed) (by rw [sources]; exact held) later
    refine ⟨returned, call, source, compiled, introduces, ownRead, compiles,
      same.symm, Environment.program_renewed_of_read ownRead,
      fun steps context heap included => ?_⟩
    rw [Environment.render, returned, same]

/-- A filter that is registered after a template was rendered is not applied
there; without that rendering it is. -/
theorem Environment.program_of_called_filter :
    let loader : Loader := .memory [("t", ⟨"\x7bX|shout\x7d", 1⟩)]
    let environment : Environment :=
      { filters := Filters.register [] "shout" (.ofText List.reverse) }
    ∃ past store, Store.Called loader past store ∧
      (environment.program store "t").1 =
        .ok ⟨[.print (.access (.var "X") [])]⟩ ∧
      (environment.program ⟨loader, .memory [], 5, 0⟩ "t").1 =
        .ok ⟨[.print (.filter "shout" (.access (.var "X") []) [])]⟩ := by
  intro loader environment
  obtain ⟨rendered, compiled⟩ :
      ({ filters := [] } : Environment).render 1 "t" {}
            ⟨{}, ⟨loader, .memory [], 5, 0⟩, []⟩ =
          some (.ok "",
            ⟨{},
              ⟨loader, .memory [("t", 5, ⟨[.print (.access (.var "X") [])]⟩)],
                5, 1⟩, []⟩) ∧
        environment.compile "\x7bX|shout\x7d" =
          .ok ⟨⟨[.print (.filter "shout" (.access (.var "X") []) [])]⟩, []⟩ :=
    ⟨by cbv, by cbv⟩
  have apart : Table.get? environment.preloaded "t" = none := rfl
  have called := Store.Called.render (.start 5) rendered
  obtain ⟨-, held⟩ := Environment.program_of_called called apart
  obtain ⟨returned, -⟩ := held 1 _ rfl rfl (by decide)
  obtain ⟨anew, -⟩ := Environment.program_of_called (.start 5) apart
  obtain ⟨same, -⟩ := anew (fun _ _ _ none => by cases none)
  refine ⟨_, _, called, by rw [returned], ?_⟩
  rw [same 0 0, Environment.program_renewed_of_read rfl, compiled]
  rfl

/-- A filter that is registered after a template was rendered is not applied
there, although a newly created environment applies it, and so does the
environment itself to the same source. -/
theorem Environment.not_program_renewed :
    let loader : Loader := .memory [("t", ⟨"\x7bX|shout\x7d", 1⟩)]
    let environment : Environment :=
      { filters := Filters.register [] "shout" (.ofText List.reverse) }
    let context : Context := { vars := [("X", .owned (.text "ab"))] }
    ∃ past store, Store.Called loader past store ∧
      Table.get? environment.preloaded "t" = none ∧
      loader.read "t" = .ok "\x7bX|shout\x7d" ∧
      (environment.program store "t").1 ≠
        (environment.renewed.program ⟨loader, .memory [], 5, 0⟩ "t").1 ∧
      (environment.render 1 "t" context ⟨{}, store, []⟩).withoutStore =
        some (.ok "ab", {}, []) ∧
      (environment.renderSource 1 "\x7bX|shout\x7d" context
          ⟨{}, store, []⟩).withoutStore =
        some (.ok "ba", {}, []) := by
  intro loader environment context
  let store : Store :=
    ⟨loader, .memory [("t", 5, ⟨[.print (.access (.var "X") [])]⟩)], 5, 1⟩
  obtain ⟨rendered, returned, anew, again, source⟩ :
      ({ filters := [] } : Environment).render 1 "t" {}
            ⟨{}, ⟨loader, .memory [], 5, 0⟩, []⟩ =
          some (.ok "", ⟨{}, store, []⟩) ∧
        (environment.program store "t").1 =
          .ok ⟨[.print (.access (.var "X") [])]⟩ ∧
        (environment.renewed.program ⟨loader, .memory [], 5, 0⟩ "t").1 =
          .ok ⟨[.print (.filter "shout" (.access (.var "X") []) [])]⟩ ∧
        environment.render 1 "t" context ⟨{}, store, []⟩ =
          some (.ok "ab", ⟨{}, store, []⟩) ∧
        environment.renderSource 1 "\x7bX|shout\x7d" context ⟨{}, store, []⟩ =
          some (.ok "ba", ⟨{}, store, []⟩) :=
    ⟨by cbv, by cbv, by cbv, by cbv, by cbv⟩
  refine ⟨_, store, .render (.start 5) rendered, rfl, rfl, ?_,
    by rw [again]; rfl, by rw [source]; rfl⟩
  rw [returned, anew]
  simp

end TemplateEngine
