import Mathlib
import TemplateEngine.Proofs.Store.Memory

/-!
# Requests while templates change

A request for a program is a row of calls to the loader and to the cache, and
between two of them other requests make theirs and templates change.  A cache
shows when a program was stored, not when its source was read.  A template that
changes in between is therefore taken for older than the program, and the
program of its former source is returned until the template changes again.
-/

namespace TemplateEngine

/-! ## Requests, call by call -/

/-- How far a request for the program of a template has come: it may know when
the source last changed, whether the cache has a program that counts, and what
the source is. -/
inductive Request
  | asked (name : String)
  | dated (name : String) (modified : Time)
  | fresh (name : String)
  | stale (name : String)
  | sourced (name source : String)
  | answered (answer : Except Error Program)

namespace Request

/-- The next call of a request. -/
def step (environment : Environment) (store : Store) : Request → Request × Store
  | asked name =>
    match Table.get? environment.preloaded name with
    | some program => (answered (.ok program), store)
    | none =>
      match store.loader.lastModified name with
      | .error error => (answered (.error error), store)
      | .ok modified => (dated name modified, store)
  | dated name modified =>
    if store.cache.isFresh (store.loader.locate name) modified then
      (fresh name, store)
    else (stale name, store)
  | fresh name =>
    match store.cache.load (store.loader.locate name) with
    | .error error => (answered (.error error), store)
    | .ok (some program) => (answered (.ok program), store)
    | .ok none => (stale name, store)
  | stale name =>
    match store.read name with
    | (.error error, store) => (answered (.error error), store)
    | (.ok source, store) => (sourced name source, store)
  | sourced name source =>
    match environment.compile source with
    | .error error => (answered (.error error), store)
    | .ok compiled =>
      match store.keep (store.loader.locate name) compiled.program with
      | (.error error, store) => (answered (.error error), store)
      | (.ok (), store) => (answered (.ok compiled.program), store)
  | answered answer => (answered answer, store)

/-- Goes through the calls of a request in a row. -/
def run (environment : Environment) :
    (calls : Nat) → Request → Store → Request × Store
  | 0, request, store => (request, store)
  | calls + 1, request, store =>
    let (request, store) := request.step environment store
    run environment calls request store

variable {environment : Environment} {store : Store} {name : String}

/-- A request that is answered makes no more calls. -/
theorem run_answered (calls : Nat) (answer : Except Error Program)
    (store : Store) :
    (answered answer).run environment calls store =
      (answered answer, store) := by
  induction calls with
  | zero => rfl
  | succ calls induction => exact induction

/-- Where no program counts, the source is read, and what it is compiled to is
stored. -/
theorem run_stale (calls : Nat) :
    (stale name).run environment (calls + 2) store =
      (answered (environment.recompile store name (store.loader.locate name)).1,
        (environment.recompile store name (store.loader.locate name)).2) := by
  cases read : store.loader.read name with
  | error error =>
      simp only [run, step, Environment.recompile, Store.read, read,
        run_answered]
  | ok source =>
      cases compiles : environment.compile source with
      | error error =>
          simp only [run, step, Environment.recompile, Store.read, read,
            compiles, run_answered]
      | ok compiled =>
          rcases kept : Store.keep { store with reads := store.reads + 1 }
            (store.loader.locate name) compiled.program with ⟨error | _, after⟩
          · simp only [run, step, Environment.recompile, Store.read, read,
              compiles, kept, run_answered]
          · simp only [run, step, Environment.recompile, Store.read, read,
              compiles, kept, run_answered]

/-- The calls of a request in a row, without others in between, are what asking
for a program is. -/
theorem run_asked :
    (asked name).run environment 5 store =
      (answered (environment.program store name).1,
        (environment.program store name).2) := by
  rw [run, step, Environment.program]
  cases Table.get? environment.preloaded name with
  | some program => exact run_answered ..
  | none =>
      dsimp only
      cases store.loader.lastModified name with
      | error error => exact run_answered ..
      | ok modified =>
          dsimp only
          rw [run, step, Environment.cached]
          cases store.cache.isFresh (store.loader.locate name) modified with
          | false => exact run_stale 1
          | true =>
              rw [if_pos rfl, if_pos rfl]
              dsimp only
              rw [run, step]
              rcases store.cache.load (store.loader.locate name) with
                error | _ | program
              · exact run_answered ..
              · exact run_stale 0
              · exact run_answered ..

/-- The other calls change nothing and read no source. -/
theorem step_quiet (request : Request) (notStale : ∀ name, request ≠ stale name)
    (notSourced : ∀ name source, request ≠ sourced name source) :
    (request.step environment store).2 = store ∧
      ∀ name source,
        (request.step environment store).1 ≠ sourced name source := by
  cases request with
  | asked name =>
      rw [step]
      cases Table.get? environment.preloaded name with
      | some program => simp
      | none => cases store.loader.lastModified name <;> simp
  | dated name modified =>
      rw [step]
      cases store.cache.isFresh (store.loader.locate name) modified <;> simp
  | fresh name =>
      rw [step]
      rcases store.cache.load (store.loader.locate name) with _ | _ | _ <;> simp
  | stale name => exact absurd rfl (notStale name)
  | sourced name source => exact absurd rfl (notSourced name source)
  | answered answer => simp [step]

end Request

/-! ## What happened when -/

/-- What happens to a loader and a cache in memory: a template changes, or a
request makes its next call. -/
inductive Event
  | update (name source : String)
  | call (number : Nat) (request : Request)

/-- What happened so far, each at a moment of its own. -/
abbrev Timeline := List (Time × Event)

/-- What may happen to a loader and a cache that are empty at first, with the
requests that were started.  Nothing happens twice at one moment, and a template
that changes shows the moment of the change. -/
inductive Environment.Interleaved (environment : Environment) :
    Timeline → Store → List Request → Prop
  | start (now : Time) :
      environment.Interleaved [] ⟨.memory [], .memory [], now, 0⟩ []
  | ask {past : Timeline} {store : Store} {requests : List Request}
      (name : String) :
      environment.Interleaved past store requests →
      environment.Interleaved past store (requests ++ [.asked name])
  | update {past : Timeline} {store : Store} {requests : List Request}
      {time : Time} (name : String) (content : List UInt8) :
      environment.Interleaved past store requests → store.now < time →
      environment.Interleaved
        ((time, .update name (String.ofList (Text.Utf8.decode content))) ::
          past)
        { store with
          loader := store.loader.insert name content time, now := time }
        requests
  | call {past : Timeline} {store : Store} {requests : List Request}
      {time : Time} {number : Nat} {request : Request} :
      environment.Interleaved past store requests → store.now < time →
      requests[number]? = some request →
      environment.Interleaved ((time, .call number request) :: past)
        (request.step environment { store with now := time }).2 (requests.set
        number (request.step environment { store with now := time }).1)

namespace Timeline

/-- Whether the last change of a template, as seen at a moment, was to a source
at some moment. -/
structure Shows (past : Timeline) (name source : String)
    (updated moment : Time) : Prop where
  mem : (updated, Event.update name source) ∈ past
  le : updated ≤ moment
  last : ∀ other text, (other, Event.update name text) ∈ past → other ≤ moment →
    other < updated ∨ other = updated ∧ text = source

/-- Whether a request has read a source of a template: the one that it had at
the moment. -/
structure Reads (past : Timeline) (number : Nat) (name source : String)
    (read updated : Time) : Prop where
  mem : (read, Event.call number (.stale name)) ∈ past
  shows : past.Shows name source updated read

/-- Whether a request has stored what a source is compiled to. -/
structure Stores (past : Timeline) (environment : Environment)
    (name source : String) (program : Program) (number : Nat) (stored : Time) :
    Prop where
  mem : (stored, Event.call number (.sourced name source)) ∈ past
  compiles : (environment.compile source).map Compiled.program = .ok program

/-- Whether no store of a template is later than a moment. -/
def LastStore (past : Timeline) (environment : Environment) (name : String)
    (stored : Time) : Prop :=
  ∀ source program number time,
    past.Stores environment name source program number time → time ≤ stored

/-- Whether a template that changed at a moment was read before, and stored
behind it, by the request that was the last to store it. -/
def Overtaken (past : Timeline) (environment : Environment) (name : String)
    (updated : Time) (source : String) : Prop :=
  ∃ number read before stored program,
    past.Reads number name source read before ∧
      past.Stores environment name source program number stored ∧
      past.LastStore environment name stored ∧ read < updated ∧ updated < stored

/-- Whether nothing happened after a moment. -/
def Ends (past : Timeline) (now : Time) : Prop :=
  ∀ moment event, (moment, event) ∈ past → moment ≤ now

variable {past : Timeline} {environment : Environment} {name source : String}
  {time now : Time} {event : Event}

theorem Ends.cons (ends : past.Ends now) (later : now < time) :
    Timeline.Ends ((time, event) :: past) time := by
  intro moment other member
  rcases List.mem_cons.mp member with same | member
  · cases same
    exact Nat.le_refl time
  · exact Nat.le_of_lt (Nat.lt_of_le_of_lt (ends _ _ member) later)

theorem Shows.eq {other : String} {updated again moment : Time}
    (shows : past.Shows name source updated moment)
    (others : past.Shows name other again moment) :
    again = updated ∧ other = source := by
  rcases shows.last again other others.mem others.le with before | same
  · rcases others.last updated source shows.mem shows.le with behind | ⟨same, -⟩
    · exact absurd (Nat.lt_trans before behind) (Nat.lt_irrefl again)
    · exact absurd (same ▸ before) (Nat.lt_irrefl again)
  · exact same

/-- What was shown at a moment stays so. -/
theorem Shows.cons {updated moment : Time}
    (shows : past.Shows name source updated moment) (later : moment < time) :
    Timeline.Shows ((time, event) :: past) name source updated moment where
  mem := List.mem_cons_of_mem _ shows.mem
  le := shows.le
  last other text member before := by
    rcases List.mem_cons.mp member with same | member
    · cases same
      exact absurd before (Nat.not_le.mpr later)
    · exact shows.last other text member before

/-- What is shown now is shown until the template changes. -/
theorem Shows.cons_now {updated : Time}
    (shows : past.Shows name source updated now) (ends : past.Ends now)
    (later : now < time) (apart : ∀ text, event ≠ .update name text) :
    Timeline.Shows ((time, event) :: past) name source updated time where
  mem := List.mem_cons_of_mem _ shows.mem
  le := Nat.le_of_lt (Nat.lt_of_le_of_lt shows.le later)
  last other text member before := by
    rcases List.mem_cons.mp member with same | member
    · cases same
      exact absurd rfl (apart text)
    · exact shows.last other text member (ends _ _ member)

/-- What is shown now was shown since it was updated. -/
theorem Shows.since {updated moment : Time}
    (shows : past.Shows name source updated now) (after : updated ≤ moment)
    (before : moment ≤ now) : past.Shows name source updated moment where
  mem := shows.mem
  le := after
  last other text member early :=
    shows.last other text member (Nat.le_trans early before)

theorem shows_update (ends : past.Ends now) (later : now < time) :
    Timeline.Shows ((time, .update name source) :: past) name source time
      time where
  mem := List.mem_cons_self
  le := Nat.le_refl time
  last other text member _ := by
    rcases List.mem_cons.mp member with same | member
    · cases same
      exact .inr ⟨rfl, rfl⟩
    · exact .inl (Nat.lt_of_le_of_lt (ends _ _ member) later)

/-! ## Templates, requests and programs -/

/-- Templates that are as they were last changed. -/
structure Templates (past : Timeline) (templates : Table StoredSource)
    (now : Time) : Prop where
  shows : ∀ name template, Table.get? templates name = some template →
    past.Shows name template.source template.modified now
  known : ∀ name text moment, (moment, .update name text) ∈ past →
    ∃ template, Table.get? templates name = some template

/-- Requests that have read a source as it was shown, those included that have
stored since then. -/
structure Readers (past : Timeline) (requests : List Request) : Prop where
  reading :
    ∀ number name source, requests[number]? = some (.sourced name source) →
      ∃ read before, past.Reads number name source read before
  stored :
    ∀ moment number name source,
      (moment, .call number (.sourced name source)) ∈ past →
        ∃ read before, past.Reads number name source read before

/-- Programs that are as they were last stored. -/
structure Programs (past : Timeline) (environment : Environment)
    (programs : Table (Time × Program)) : Prop where
  held : ∀ name program time, Table.get? programs name = some (time, program) →
    ∃ source number, past.Stores environment name source program number time
  kept : ∀ name source program number time,
    past.Stores environment name source program number time →
    ∃ stored other, Table.get? programs name = some (stored, other) ∧
      (time < stored ∨ time = stored ∧ program = other)

variable {templates : Table StoredSource} {programs : Table (Time × Program)}
  {requests : List Request} {number : Nat}

theorem Templates.cons (agree : past.Templates templates now)
    (ends : past.Ends now) (later : now < time)
    (apart : ∀ name text, event ≠ .update name text) :
    Timeline.Templates ((time, event) :: past) templates time where
  shows name template known :=
    (agree.shows name template known).cons_now ends later (apart name)
  known name text moment member := by
    rcases List.mem_cons.mp member with same | member
    · cases same
      exact absurd rfl (apart name text)
    · exact agree.known name text moment member

theorem Templates.call (agree : past.Templates templates now)
    (ends : past.Ends now) (later : now < time) (number : Nat)
    (request : Request) :
    Timeline.Templates ((time, .call number request) :: past) templates time :=
  agree.cons ends later (by rintro name text ⟨⟩)

theorem Templates.update (agree : past.Templates templates now)
    (ends : past.Ends now) (later : now < time) (name source : String) :
    Timeline.Templates ((time, .update name source) :: past)
      (Table.insert templates name ⟨source, time⟩) time where
  shows other template known := by
    by_cases same : other = name
    · subst same
      rw [Table.get?_insert_same] at known
      cases known
      exact shows_update ends later
    · rw [Table.get?_insert_other _ _ same] at known
      apply (agree.shows other template known).cons_now ends later
      rintro text ⟨⟩
      exact same rfl
  known other text moment member := by
    by_cases same : other = name
    · subst same
      exact ⟨_, Table.get?_insert_same ..⟩
    · rw [Table.get?_insert_other _ _ same]
      rcases List.mem_cons.mp member with equal | member
      · cases equal
        exact absurd rfl same
      · exact agree.known other text moment member

theorem Readers.cons (readers : past.Readers requests) (ends : past.Ends now)
    (later : now < time)
    (made : ∀ number request,
      event = .call number request → requests[number]? = some request) :
    Timeline.Readers ((time, event) :: past) requests := by
  have still {number name source}
      (had : ∃ read before, past.Reads number name source read before) :
      ∃ read before,
        Timeline.Reads ((time, event) :: past) number name source read
          before := by
    obtain ⟨read, before, reads⟩ := had
    have early := Nat.lt_of_le_of_lt (ends _ _ reads.mem) later
    exact ⟨read, before, List.mem_cons_of_mem _ reads.mem,
      reads.shows.cons early⟩
  refine ⟨fun number name source known =>
      still (readers.reading number name source known), ?_⟩
  intro moment number name source member
  apply still
  rcases List.mem_cons.mp member with same | member
  · cases same
    exact readers.reading number name source (made number _ rfl)
  · exact readers.stored moment number name source member

theorem Readers.call (readers : past.Readers requests) (ends : past.Ends now)
    (later : now < time) {request : Request}
    (known : requests[number]? = some request) :
    Timeline.Readers ((time, .call number request) :: past) requests :=
  readers.cons ends later (by
    rintro other again ⟨⟩
    exact known)

/-- A request goes on. -/
theorem Readers.set (readers : past.Readers requests) {request : Request}
    (reads : ∀ name source, request = .sourced name source →
      ∃ read before, past.Reads number name source read before) :
    past.Readers (requests.set number request) where
  reading other name source known := by
    rw [List.getElem?_set] at known
    split at known
    next same =>
      subst same
      split at known
      · exact reads name source (Option.some.inj known)
      · cases known
    · exact readers.reading other name source known
  stored := readers.stored

/-- A request is started. -/
theorem Readers.ask (readers : past.Readers requests) (name : String) :
    past.Readers (requests ++ [.asked name]) where
  reading number other source known := by
    apply readers.reading number other source
    rw [List.getElem?_append] at known
    split at known
    · exact known
    · rw [List.getElem?_singleton] at known
      split at known
      · cases known
      · cases known
  stored := readers.stored

theorem Programs.cons (agree : past.Programs environment programs)
    (quiet :
      ∀ number name source, event = .call number (.sourced name source) →
        ∀ program,
          (environment.compile source).map Compiled.program ≠ .ok program) :
    Timeline.Programs ((time, event) :: past) environment programs where
  held name program time known := by
    obtain ⟨source, number, stores⟩ := agree.held name program time known
    exact ⟨source, number, List.mem_cons_of_mem _ stores.mem, stores.compiles⟩
  kept name source program number time stores := by
    rcases List.mem_cons.mp stores.mem with same | member
    · cases same
      exact absurd stores.compiles (quiet number name source rfl program)
    · exact agree.kept name source program number time ⟨member, stores.compiles⟩

theorem Programs.store (agree : past.Programs environment programs)
    (ends : past.Ends now) (later : now < time) {program : Program}
    (compiles :
      (environment.compile source).map Compiled.program = .ok program) :
    Timeline.Programs ((time, .call number (.sourced name source)) :: past)
      environment (Table.insert programs name (time, program)) where
  held other held stored known := by
    by_cases same : other = name
    · subst same
      rw [Table.get?_insert_same] at known
      cases known
      exact ⟨source, number, List.mem_cons_self, compiles⟩
    · rw [Table.get?_insert_other _ _ same] at known
      obtain ⟨source, number, stores⟩ := agree.held other held stored known
      exact ⟨source, number, List.mem_cons_of_mem _ stores.mem, stores.compiles⟩
  kept other text own number moment stores := by
    rcases List.mem_cons.mp stores.mem with same | member
    · cases same
      have same := Except.ok.inj (stores.compiles.symm.trans compiles)
      exact ⟨time, program, Table.get?_insert_same .., .inr ⟨rfl, same⟩⟩
    · by_cases same : other = name
      · subst same
        have before := Nat.lt_of_le_of_lt (ends _ _ member) later
        exact ⟨time, program, Table.get?_insert_same .., .inl before⟩
      · rw [Table.get?_insert_other _ _ same]
        exact agree.kept other text own number moment ⟨member, stores.compiles⟩

theorem Programs.lastStore (agree : past.Programs environment programs)
    {stored : Time} {program : Program}
    (held : Table.get? programs name = some (stored, program)) :
    past.LastStore environment name stored := by
  intro source other number moment stores
  obtain ⟨_, _, again, notBefore⟩ := agree.kept _ _ _ _ _ stores
  rw [held] at again
  cases again
  rcases notBefore with before | ⟨same, -⟩
  · exact Nat.le_of_lt before
  · exact Nat.le_of_eq same

end Timeline

/-- A store in memory, and requests, that are as what happened so far has left
them. -/
def Environment.Reflects (environment : Environment) (past : Timeline)
    (store : Store) (requests : List Request) : Prop :=
  ∃ templates programs now reads,
    store = ⟨.memory templates, .memory programs, now, reads⟩ ∧ past.Ends now ∧
      past.Templates templates now ∧ past.Readers requests ∧
      past.Programs environment programs

namespace Environment.Interleaved

variable {environment : Environment} {past : Timeline} {store : Store}
  {requests : List Request}

/-- A call that neither reads nor stores. -/
theorem reflects_quiet (reflects : environment.Reflects past store requests)
    {time : Time} {number : Nat} {request : Request} (later : store.now < time)
    (known : requests[number]? = some request)
    (notStale : ∀ name, request ≠ .stale name)
    (notSourced : ∀ name source, request ≠ .sourced name source) :
    environment.Reflects ((time, .call number request) :: past)
      (request.step environment { store with now := time }).2 (requests.set
      number (request.step environment { store with now := time }).1) := by
  obtain ⟨templates, programs, now, reads, rfl, ends, sources, readers, kept⟩ :=
    reflects
  obtain ⟨same, apart⟩ :=
    @Request.step_quiet environment
      ⟨.memory templates, .memory programs, time, reads⟩ request notStale
      notSourced
  rw [same]
  refine ⟨_, _, _, _, rfl, ends.cons later,
    sources.call ends later number request,
    (readers.call ends later known).set ?_, kept.cons ?_⟩
  · exact fun name source sourced => absurd sourced (apart name source)
  · rintro other name source ⟨⟩
    exact absurd rfl (notSourced name source)

/-- A call that reads a source. -/
theorem reflects_read (reflects : environment.Reflects past store requests)
    {time : Time} {number : Nat} {name : String} (later : store.now < time)
    (known : requests[number]? = some (.stale name)) :
    environment.Reflects ((time, .call number (.stale name)) :: past)
      (Request.step environment { store with now := time } (.stale name)).2
      (requests.set number (Request.step environment { store with now := time }
        (.stale name)).1) := by
  obtain ⟨templates, programs, now, reads, rfl, ends, sources, readers, kept⟩ :=
    reflects
  have shown := sources.call ends later number (.stale name)
  have read := readers.call ends later known
  have quiet :
      Timeline.Programs ((time, .call number (.stale name)) :: past) environment
        programs := kept.cons (by rintro other text source ⟨⟩)
  simp only [Request.step, Store.read, Loader.read]
  cases found : Table.get? templates name with
  | none =>
      exact ⟨_, _, _, _, rfl, ends.cons later, shown,
        read.set (by rintro other text ⟨⟩), quiet⟩
  | some template =>
      refine ⟨_, _, _, _, rfl, ends.cons later, shown, read.set ?_, quiet⟩
      rintro other text ⟨⟩
      exact ⟨time, template.modified, List.mem_cons_self,
        shown.shows name template found⟩

/-- A call that stores a program, if the source is compiled to one. -/
theorem reflects_store (reflects : environment.Reflects past store requests)
    {time : Time} {number : Nat} {name source : String}
    (later : store.now < time)
    (known : requests[number]? = some (.sourced name source)) :
    environment.Reflects ((time, .call number (.sourced name source)) :: past)
      (Request.step environment { store with now := time }
        (.sourced name source)).2 (requests.set number (Request.step environment
      { store with now := time } (.sourced name source)).1) := by
  obtain ⟨templates, programs, now, reads, rfl, ends, sources, readers, kept⟩ :=
    reflects
  have shown := sources.call ends later number (.sourced name source)
  have read := readers.call ends later known
  cases compiles : environment.compile source with
  | error error =>
      have quiet :
          Timeline.Programs
            ((time, .call number (.sourced name source)) :: past) environment
            programs := kept.cons (by
        rintro other text again ⟨⟩ program
        rw [compiles]
        rintro ⟨⟩)
      simp only [Request.step, compiles]
      exact ⟨_, _, _, _, rfl, ends.cons later, shown,
        read.set (by rintro other text ⟨⟩), quiet⟩
  | ok compiled =>
      have stores :
          Timeline.Programs
            ((time, .call number (.sourced name source)) :: past) environment
            (Table.insert programs name (time, compiled.program)) :=
        kept.store ends later (by rw [compiles]; rfl)
      simp only [Request.step, compiles, Store.keep, Cache.store]
      exact ⟨_, _, _, _, rfl, ends.cons later, shown,
        read.set (by rintro other text ⟨⟩), stores⟩

theorem reflects (interleaved : environment.Interleaved past store requests) :
    environment.Reflects past store requests := by
  induction interleaved with
  | start now =>
      refine ⟨[], [], now, 0, rfl, ?_, ⟨?_, ?_⟩, ⟨?_, ?_⟩, ⟨?_, ?_⟩⟩
      · exact fun _ _ none => absurd none List.not_mem_nil
      · rintro name template ⟨⟩
      · exact fun _ _ _ none => absurd none List.not_mem_nil
      · rintro number name source ⟨⟩
      · exact fun _ _ _ _ none => absurd none List.not_mem_nil
      · rintro name program time ⟨⟩
      · exact fun _ _ _ _ _ stores => absurd stores.mem List.not_mem_nil
  | ask name _ induction =>
      obtain ⟨templates, programs, now, reads, rfl, ends, sources, readers,
        kept⟩ := induction
      exact ⟨_, _, _, _, rfl, ends, sources, readers.ask name, kept⟩
  | update name content _ later induction =>
      obtain ⟨templates, programs, now, reads, rfl, ends, sources, readers,
        kept⟩ := induction
      exact ⟨_, _, _, _, rfl, ends.cons later, sources.update ends later name _,
        readers.cons ends later (by rintro number request ⟨⟩),
        kept.cons (by rintro number other source ⟨⟩)⟩
  | @call _ _ _ _ _ request _ later known induction =>
      cases request with
      | stale name => exact reflects_read induction later known
      | sourced name source => exact reflects_store induction later known
      | _ =>
          apply reflects_quiet induction later known
          · rintro name ⟨⟩
          · rintro name source ⟨⟩

end Environment.Interleaved

/-- Whatever requests and changes come in between, the next request for a
template that is not compiled ahead of time is answered with what its current
source is compiled to, unless the last request to store it had read it before
its last change and stored it behind.  Then it is answered with what the former
source is compiled to that this request had read. -/
theorem Environment.program_of_interleaved {environment : Environment}
    {past : Timeline} {store : Store} {requests : List Request}
    (interleaved : environment.Interleaved past store requests)
    {name source : String}
    (apart : Table.get? environment.preloaded name = none) {updated : Time}
    (shows : past.Shows name source updated store.now) :
    ((∀ former, ¬past.Overtaken environment name updated former) →
        (environment.program store name).1 =
          (environment.compile source).map Compiled.program) ∧
      ∀ former, past.Overtaken environment name updated former →
        (environment.program store name).1 =
          (environment.compile former).map Compiled.program := by
  obtain ⟨templates, programs, now, reads, rfl, ends, sources, readers, kept⟩ :=
    interleaved.reflects
  obtain ⟨template, found⟩ := sources.known name source updated shows.mem
  obtain ⟨rfl, rfl⟩ := shows.eq (sources.shows name template found)
  have changed :
      Loader.lastModified (.memory templates) name = .ok template.modified := by
    rw [Loader.lastModified, found]
  have read : Loader.read (.memory templates) name = .ok template.source := by
    rw [Loader.read, found]
  rw [program_eq_answer ⟨programs, rfl⟩]
  simp only [Loader.locate, Cache.entry?]
  cases held : Table.get? programs name with
  | none =>
      refine ⟨fun _ =>
          answer_of_outdated apart changed (by rintro entry ⟨⟩) read, ?_⟩
      rintro former ⟨_, _, _, _, _, -, stores, -⟩
      obtain ⟨_, _, again, -⟩ := kept.kept _ _ _ _ _ stores
      rw [held] at again
      cases again
  | some entry =>
      obtain ⟨stored, program⟩ := entry
      obtain ⟨text, number, stores⟩ := kept.held name program stored held
      have isLast := kept.lastStore held
      -- What counts was stored after the last change; it is current if its
      -- source was read after that change too.
      by_cases counts : template.modified < stored
      · rw [answer_of_later apart changed counts]
        refine ⟨fun noOther => ?_, ?_⟩
        · obtain ⟨read, before, reads⟩ := readers.stored _ _ _ _ stores.mem
          have readAfter : template.modified ≤ read := by
            apply Nat.le_of_not_lt
            intro early
            exact noOther text ⟨number, read, before, stored, program, reads,
              stores, isLast, early, counts⟩
          have current := shows.since readAfter (ends _ _ reads.mem)
          obtain ⟨-, rfl⟩ := current.eq reads.shows
          exact stores.compiles.symm
        · rintro former ⟨_, _, _, last, other, -, otherStores, otherLast, -, -⟩
          obtain ⟨_, _, again, same⟩ := kept.kept _ _ _ _ _ otherStores
          rw [held] at again
          cases again
          rcases same with before | ⟨-, rfl⟩
          · exact absurd (otherLast _ _ _ _ stores) (Nat.not_le.mpr before)
          · exact otherStores.compiles.symm
      · refine ⟨fun _ => answer_of_outdated apart changed ?_ read, ?_⟩
        · rintro entry ⟨⟩
          exact Nat.le_of_not_lt counts
        · rintro former ⟨_, _, _, last, _, -, otherStores, -, -, behind⟩
          exact absurd (Nat.lt_of_lt_of_le behind (isLast _ _ _ _ otherStores))
            counts

/-- A template that changes between the reading and the storing of a request is
not noticed once all requests are answered. -/
theorem Environment.program_of_interleaved_overtaken :
    ∃ past store requests, Environment.Interleaved {} past store requests ∧
      (∀ request ∈ requests, ∃ answer, request = .answered answer) ∧
      Table.get? ({} : Environment).preloaded "t" = none ∧
      past.Shows "t" "2" 5 store.now ∧
      (({} : Environment).program store "t").1 = .ok ⟨[.text "1"]⟩ ∧
      (({} : Environment).compile "2").map Compiled.program =
        .ok ⟨[.text "2"]⟩ := by
  obtain ⟨first, second⟩ :
      (({} : Environment).compile "1") = .ok ⟨⟨[.text "1"]⟩, []⟩ ∧
        (({} : Environment).compile "2") = .ok ⟨⟨[.text "2"]⟩, []⟩ :=
    ⟨by cbv, by cbv⟩
  have written : Environment.Interleaved {} [(1, .update "t" "1")]
      ⟨.memory [("t", ⟨"1", 1⟩)], .memory [], 1, 0⟩ [] :=
    .update "t" [0x31] (.start 0) (by decide)
  have dated :
      Environment.Interleaved {} [(2, .call 0 (.asked "t")),
        (1, .update "t" "1")] ⟨.memory [("t", ⟨"1", 1⟩)], .memory [], 2, 0⟩
        [.dated "t" 1] :=
    .call (written.ask "t") (by decide) rfl
  have stale :
      Environment.Interleaved {} [(3, .call 0 (.dated "t" 1)),
        (2, .call 0 (.asked "t")), (1, .update "t" "1")]
        ⟨.memory [("t", ⟨"1", 1⟩)], .memory [], 3, 0⟩ [.stale "t"] :=
    .call dated (by decide) rfl
  have sourced :
      Environment.Interleaved {} [(4, .call 0 (.stale "t")),
        (3, .call 0 (.dated "t" 1)), (2, .call 0 (.asked "t")),
        (1, .update "t" "1")] ⟨.memory [("t", ⟨"1", 1⟩)], .memory [], 4, 1⟩
        [.sourced "t" "1"] :=
    .call stale (by decide) rfl
  have changed :
      Environment.Interleaved {} [(5, .update "t" "2"),
        (4, .call 0 (.stale "t")), (3, .call 0 (.dated "t" 1)),
        (2, .call 0 (.asked "t")), (1, .update "t" "1")]
        ⟨.memory [("t", ⟨"2", 5⟩)], .memory [], 5, 1⟩ [.sourced "t" "1"] :=
    .update "t" [0x32] sourced (by decide)
  have step :
      Request.step {} ⟨.memory [("t", ⟨"2", 5⟩)], .memory [], 6, 1⟩
          (.sourced "t" "1") =
        (.answered (.ok ⟨[.text "1"]⟩),
          ⟨.memory [("t", ⟨"2", 5⟩)], .memory [("t", 6, ⟨[.text "1"]⟩)], 6,
            1⟩) := by
    rw [Request.step, first]
    rfl
  have answered :=
    @Environment.Interleaved.call {} _ _ _ 6 0 _ changed (by decide) rfl
  dsimp only at answered
  rw [step] at answered
  let past : Timeline :=
    [(6, .call 0 (.sourced "t" "1")), (5, .update "t" "2"),
      (4, .call 0 (.stale "t")), (3, .call 0 (.dated "t" 1)),
      (2, .call 0 (.asked "t")), (1, .update "t" "1")]
  have updates (time : Time) (text : String)
      (member : (time, .update "t" text) ∈ past) :
      time = 5 ∧ text = "2" ∨ time = 1 ∧ text = "1" := by
    simpa [past] using member
  have shows : past.Shows "t" "2" 5 6 := by
    refine ⟨by simp [past], by decide, fun other text member _ => ?_⟩
    rcases updates other text member with ⟨rfl, rfl⟩ | ⟨rfl, rfl⟩
    · exact .inr ⟨rfl, rfl⟩
    · exact .inl (by decide)
  have shown : past.Shows "t" "1" 1 4 := by
    refine ⟨by simp [past], by decide, fun other text member before => ?_⟩
    rcases updates other text member with ⟨rfl, rfl⟩ | ⟨rfl, rfl⟩
    · exact absurd before (by decide)
    · exact .inr ⟨rfl, rfl⟩
  have last : past.LastStore {} "t" 6 := by
    intro source program number time stores
    have member : (time, Event.call number (.sourced "t" source)) ∈ past :=
      stores.mem
    have same : time = 6 ∧ number = 0 ∧ source = "1" := by
      simpa [past] using member
    exact Nat.le_of_eq same.1
  have overtaken : past.Overtaken {} "t" 5 "1" :=
    ⟨0, 4, 1, 6, ⟨[.text "1"]⟩, ⟨by simp [past], shown⟩,
      ⟨by simp [past], by rw [first]; rfl⟩, last, by decide, by decide⟩
  obtain ⟨-, former⟩ := Environment.program_of_interleaved answered rfl shows
  refine ⟨past, _, _, answered, ?_, rfl, shows, ?_, by rw [second]; rfl⟩
  · intro request member
    exact ⟨_, List.mem_singleton.mp member⟩
  · rw [former "1" overtaken, first]
    rfl

end TemplateEngine
