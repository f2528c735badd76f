import TemplateEngine.Render.Environment

/-!
# What asking for a program does

The ways in which an environment comes by the program of a template, or fails
to, and what becomes of the store.
-/

namespace TemplateEngine

/-- Whether asking for a program goes back to the source: it is not compiled
ahead of time, and the cache has none that counts. -/
def Environment.Renews (environment : Environment) (store : Store)
    (name : String) : Prop :=
  Table.get? environment.preloaded name = none ∧ ∃ modified,
    store.loader.lastModified name = .ok modified ∧
    Environment.cached store (store.loader.locate name) modified = .ok none

inductive Environment.Answers (environment : Environment) (store : Store)
    (name : String) : Except Error Program → Store → Prop
  | preloaded {program : Program} :
      Table.get? environment.preloaded name = some program →
      Answers environment store name (.ok program) store
  | unavailable {error : Error} :
      Table.get? environment.preloaded name = none →
      store.loader.lastModified name = .error error →
      Answers environment store name (.error error) store
  | unreadable {modified : Time} {error : Error} :
      Table.get? environment.preloaded name = none →
      store.loader.lastModified name = .ok modified →
      Environment.cached store (store.loader.locate name) modified =
        .error error →
      Answers environment store name (.error error) store
  | cached {modified : Time} {program : Program} :
      Table.get? environment.preloaded name = none →
      store.loader.lastModified name = .ok modified →
      Environment.cached store (store.loader.locate name) modified =
        .ok (some program) →
      Answers environment store name (.ok program) store
  | unread {error : Error} :
      environment.Renews store name → store.loader.read name = .error error →
      Answers environment store name (.error error)
        { store with reads := store.reads + 1 }
  | refused {source : String} {error : Error} :
      environment.Renews store name → store.loader.read name = .ok source →
      environment.compile source = .error error →
      Answers environment store name (.error error)
        { store with reads := store.reads + 1 }
  | renewed {source : String} {compiled : Compiled} {result : Except Error Unit}
      {cache : Cache} :
      environment.Renews store name → store.loader.read name = .ok source →
      environment.compile source = .ok compiled →
      store.cache.store (store.loader.locate name) compiled.program store.now =
        (result, cache) →
      Answers environment store name (result.map fun _ => compiled.program)
        { store with cache, reads := store.reads + 1 }

theorem Environment.answers_program (environment : Environment) (store : Store)
    (name : String) :
    environment.Answers store name (environment.program store name).1
      (environment.program store name).2 := by
  rcases asked : environment.program store name with ⟨answer, after⟩
  unfold Environment.program at asked
  cases apart : Table.get? environment.preloaded name with
  | some program =>
      rw [apart] at asked
      cases asked
      exact .preloaded apart
  | none =>
      rw [apart] at asked
      cases modified : store.loader.lastModified name with
      | error error =>
          rw [modified] at asked
          cases asked
          exact .unavailable apart modified
      | ok moment =>
          rw [modified] at asked
          rcases kept :
              Environment.cached store (store.loader.locate name) moment with
            error | _ | program
          · simp only [kept] at asked
            cases asked
            exact .unreadable apart modified kept
          · have renews : environment.Renews store name :=
              ⟨apart, moment, modified, kept⟩
            simp only [kept, Environment.recompile, Store.read] at asked
            cases read : store.loader.read name with
            | error error =>
                rw [read] at asked
                cases asked
                exact .unread renews read
            | ok source =>
                rw [read] at asked
                cases compiles : environment.compile source with
                | error error =>
                    simp only [compiles] at asked
                    cases asked
                    exact .refused renews read compiles
                | ok compiled =>
                    rcases stored :
                      store.cache.store (store.loader.locate name)
                        compiled.program store.now with
                      ⟨error | _, cache⟩
                    · simp only [compiles, Store.keep, stored] at asked
                      cases asked
                      exact .renewed renews read compiles stored
                    · simp only [compiles, Store.keep, stored] at asked
                      cases asked
                      exact .renewed renews read compiles stored
          · simp only [kept] at asked
            cases asked
            exact .cached apart modified kept

/-- Asking for a program changes no source. -/
theorem Environment.loader_program (environment : Environment) (store : Store)
    (name : String) :
    (environment.program store name).2.loader = store.loader := by
  have answers := environment.answers_program store name
  generalize (environment.program store name).1 = answer at answers
  generalize (environment.program store name).2 = after at answers
  cases answers with
  | _ => rfl

/-- Asking for a program takes no time. -/
theorem Environment.now_program (environment : Environment) (store : Store)
    (name : String) : (environment.program store name).2.now = store.now := by
  have answers := environment.answers_program store name
  generalize (environment.program store name).1 = answer at answers
  generalize (environment.program store name).2 = after at answers
  cases answers with
  | _ => rfl

end TemplateEngine
