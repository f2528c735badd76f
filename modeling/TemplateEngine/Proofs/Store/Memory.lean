import TemplateEngine.Proofs.Store.History

/-!
# Programs in memory

What a cache in memory holds is changed by asking for a program only where that
program is kept, and asking for one program does not change what is answered for
another.
-/

namespace TemplateEngine

/-! ## Names of one place -/

namespace Loader

theorem head?_relativeName (name : String) :
    (relativeName name).toList.head? ≠ some '/' := by
  intro rooted
  rw [relativeName, String.toList_ofList] at rooted
  have slashless := List.head?_dropWhile_not (· == '/') name.toList
  rw [rooted] at slashless
  simp at slashless

end Loader

/-- A relative path is told from its place below a folder. -/
theorem joinPath_inj {folder first second : String}
    (relativeFirst : first.toList.head? ≠ some '/')
    (relativeSecond : second.toList.head? ≠ some '/')
    (same : joinPath folder first = joinPath folder second) :
    first = second := by
  simp only [joinPath, Bool.or_eq_true, beq_iff_eq, relativeFirst,
    relativeSecond, or_false] at same
  split at same
  · exact same
  · split at same
    · simpa using same
    · simpa using same

namespace Loader

variable {loader : Loader} {name other : String}

/-- Names of one place lead to the same file. -/
theorem access_of_locate {root : String} {tree found : FileTree}
    (place : (files root tree).locate other = (files root tree).locate name)
    (leads : access root tree name = .ok found) :
    access root tree other = .ok found := by
  have path :=
    joinPath_inj (head?_relativeName other) (head?_relativeName name) place
  rw [access, path]
  rw [access] at leads
  cases followed : tree.access root (relativeName name) with
  | found place =>
      rw [followed] at leads
      exact leads
  | missing =>
      rw [followed] at leads
      cases leads
  | refused =>
      rw [followed] at leads
      cases leads

/-- Names of one place have the same source. -/
theorem read_of_locate (place : loader.locate other = loader.locate name)
    {source : String} (read : loader.read name = .ok source) :
    loader.read other = .ok source := by
  cases loader with
  | memory templates =>
      obtain rfl : other = name := place
      exact read
  | files root tree =>
      rw [Loader.read] at read ⊢
      cases leads : access root tree name with
      | error error =>
          rw [leads] at read
          cases read
      | ok found =>
          rw [leads] at read
          rw [access_of_locate place leads]
          exact read

/-- Names of one place last changed at the same moment. -/
theorem lastModified_of_locate
    (place : loader.locate other = loader.locate name) {modified : Time}
    (changed : loader.lastModified name = .ok modified) :
    loader.lastModified other = .ok modified := by
  cases loader with
  | memory templates =>
      obtain rfl : other = name := place
      exact changed
  | files root tree =>
      rw [Loader.lastModified] at changed ⊢
      cases leads : access root tree name with
      | error error =>
          rw [leads] at changed
          cases changed
      | ok found =>
          rw [leads] at changed
          rw [access_of_locate place leads]
          exact changed

/-- What can be read has a moment at which it last changed. -/
theorem exists_lastModified_of_read {source : String}
    (read : loader.read name = .ok source) :
    ∃ modified, loader.lastModified name = .ok modified := by
  cases loader with
  | memory templates =>
      simp only [Loader.read] at read
      cases known : Table.get? templates name with
      | none =>
          rw [known] at read
          cases read
      | some template =>
          exact ⟨template.modified, by rw [Loader.lastModified, known]⟩
  | files root tree =>
      simp only [Loader.read] at read
      simp only [Loader.lastModified]
      rcases found : access root tree name with _ | ⟨⟨⟩ | ⟨⟩⟩
      · rw [found] at read
        cases read
      · exact ⟨_, rfl⟩
      · exact ⟨_, rfl⟩

end Loader

/-! ## Entries -/

/-- The program that a cache in memory holds for a path, with the moment of
storing. -/
def Cache.entry? (cache : Cache) (id : String) : Option (Time × Program) :=
  match cache with
  | memory programs => Table.get? programs id
  | _ => none

def Store.InMemory (store : Store) : Prop :=
  ∃ programs, store.cache = .memory programs

namespace Environment

variable {environment : Environment} {store : Store}

theorem cached_of_inMemory (inMemory : store.InMemory) (id : String)
    (modified : Time) :
    cached store id modified =
      .ok (((store.cache.entry? id).filter fun entry => modified < entry.1).map
        Prod.snd) := by
  obtain ⟨loader, cache, now, reads⟩ := store
  obtain ⟨programs, rfl⟩ := inMemory
  exact cached_memory

theorem inMemory_program (inMemory : store.InMemory) (name : String) :
    (environment.program store name).2.InMemory := by
  have answers := environment.answers_program store name
  generalize (environment.program store name).1 = answer at answers
  generalize (environment.program store name).2 = after at answers ⊢
  obtain ⟨programs, memory⟩ := inMemory
  cases answers with
  | renewed _ _ _ stored =>
      rw [memory] at stored
      cases stored
      exact ⟨_, rfl⟩
  | _ => exact ⟨programs, memory⟩

/-- Asking for a program leaves what is held for a path, unless the source of
that place is compiled and kept. -/
theorem entry?_program (inMemory : store.InMemory) (name id : String) :
    (environment.program store name).2.cache.entry? id = store.cache.entry? id ∨
      environment.Renews store name ∧ store.loader.locate name = id ∧
        ∃ source compiled, store.loader.read name = .ok source ∧
          environment.compile source = .ok compiled ∧
          (environment.program store name).2.cache.entry? id =
            some (store.now, compiled.program) := by
  have answers := environment.answers_program store name
  generalize (environment.program store name).1 = answer at answers
  generalize (environment.program store name).2 = after at answers ⊢
  obtain ⟨programs, memory⟩ := inMemory
  cases answers with
  | @renewed source compiled _ _ renews read compiles stored =>
      rw [memory] at stored
      cases stored
      by_cases place : store.loader.locate name = id
      · subst place
        exact .inr ⟨renews, rfl, source, compiled, read, compiles,
          Table.get?_insert_same ..⟩
      · left
        rw [memory]
        exact Table.get?_insert_other _ _ (Ne.symm place)
  | _ => exact .inl rfl

/-! ## Answers -/

/-- What is answered for a template, given what a cache in memory holds for its
path. -/
def answer (environment : Environment) (loader : Loader)
    (held : Option (Time × Program)) (name : String) : Except Error Program :=
  match Table.get? environment.preloaded name with
  | some program => .ok program
  | none =>
    match loader.lastModified name with
    | .error error => .error error
    | .ok modified =>
      match held.filter fun entry => modified < entry.1 with
      | some (_, program) => .ok program
      | none =>
        match loader.read name with
        | .error error => .error error
        | .ok source => (environment.compile source).map Compiled.program

section

variable {loader : Loader} {name source : String} {modified : Time}
  (apart : Table.get? environment.preloaded name = none)
  (changed : loader.lastModified name = .ok modified)

include apart changed

theorem answer_of_later {entry : Time × Program} (later : modified < entry.1) :
    environment.answer loader (some entry) name = .ok entry.2 := by
  have counts :
      (some entry).filter (fun entry => modified < entry.1) = some entry := by
    simp [Option.filter, later]
  rw [answer, apart]
  dsimp only
  rw [changed]
  dsimp only
  rw [counts]

theorem answer_of_outdated {held : Option (Time × Program)}
    (outdated : ∀ entry, held = some entry → entry.1 ≤ modified)
    (read : loader.read name = .ok source) :
    environment.answer loader held name =
      (environment.compile source).map Compiled.program := by
  have none : held.filter (fun entry => modified < entry.1) = none := by
    rw [Option.filter_eq_none_iff]
    intro entry known
    simpa using outdated entry known
  rw [answer, apart]
  dsimp only
  rw [changed]
  dsimp only
  rw [none, read]

end

theorem program_eq_answer (inMemory : store.InMemory) (name : String) :
    (environment.program store name).1 =
      environment.answer store.loader
        (store.cache.entry? (store.loader.locate name)) name := by
  rw [program, answer]
  cases Table.get? environment.preloaded name with
  | some program => rfl
  | none =>
      dsimp only
      cases store.loader.lastModified name with
      | error error => rfl
      | ok modified =>
          dsimp only
          rw [cached_of_inMemory inMemory]
          rcases Option.filter _
            (store.cache.entry? (store.loader.locate name)) with
            _ | ⟨stored, program⟩
          · simp only [Option.map_none, recompile, Store.read]
            cases store.loader.read name with
            | error error => rfl
            | ok source =>
                dsimp only
                cases environment.compile source with
                | error error => rfl
                | ok compiled =>
                    obtain ⟨programs, memory⟩ := inMemory
                    simp only [Store.keep, memory, Cache.store]
                    rfl
          · rfl

/-- Asking for one program does not change what is answered for another. -/
theorem program_program (inMemory : store.InMemory) (other name : String) :
    (environment.program (environment.program store other).2 name).1 =
      (environment.program store name).1 := by
  rw [program_eq_answer (inMemory_program inMemory other),
    program_eq_answer inMemory, loader_program]
  rcases environment.entry?_program inMemory other
    (store.loader.locate name) with
    same |
      ⟨⟨_, modified, changed, outdated⟩, place, source, compiled, read,
        compiles, held⟩
  · rw [same]
  · rw [cached_of_inMemory inMemory, place, Except.ok.injEq,
      Option.map_eq_none_iff, Option.filter_eq_none_iff] at outdated
    have sameChange := Loader.lastModified_of_locate place.symm changed
    have sameSource := Loader.read_of_locate place.symm read
    rw [held]
    cases apart : Table.get? environment.preloaded name with
    | some program => simp only [answer, apart]
    | none =>
        have before : environment.answer store.loader
            (store.cache.entry? (store.loader.locate name)) name =
              (environment.compile source).map Compiled.program :=
          answer_of_outdated apart sameChange
            (fun entry known => by simpa using outdated entry known) sameSource
        rw [before]
        by_cases later : modified < store.now
        · rw [answer_of_later apart sameChange later, compiles]
          rfl
        · refine answer_of_outdated apart sameChange ?_ sameSource
          rintro entry ⟨⟩
          exact Nat.le_of_not_lt later

end Environment
end TemplateEngine
