import TemplateEngine.Store.Cache
import TemplateEngine.Store.Loader

/-!
# Stores

A loader and a cache together, with the time at which programs are stored and
the number of sources read so far.
-/

namespace TemplateEngine

structure Store where
  loader : Loader
  cache : Cache
  now : Time
  reads : Nat := 0

namespace Store

/-- Reads the source of a template and counts that. -/
def read (store : Store) (name : String) : Except Error String × Store :=
  (store.loader.read name, { store with reads := store.reads + 1 })

def keep (store : Store) (id : String) (program : Program) :
    Except Error Unit × Store :=
  let (result, cache) := store.cache.store id program store.now
  (result, { store with cache })

end Store
end TemplateEngine
