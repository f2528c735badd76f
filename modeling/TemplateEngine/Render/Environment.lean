import TemplateEngine.Condition.Evaluation
import TemplateEngine.Context
import TemplateEngine.Filter.Builtin
import TemplateEngine.Store.Basic
import TemplateEngine.Template.Compiled

/-!
# Environments

What a host decides about rendering: the options of the template language, the
filters, how conditions are decided, the filters that apply to all variables,
and the programs that were compiled ahead of time.

The program of a template is the one compiled ahead of time, if there is one.
Otherwise it is the one in the cache, if that was stored after the source last
changed; and otherwise the source is read and compiled and its program stored.
-/

namespace TemplateEngine

/-- What a host decides about rendering. -/
structure Environment where
  options : Options := {}
  filters : Filters := Filters.builtin
  conditions : Evaluator := Evaluator.standard
  autoFilters : List String := []
  preloaded : Table Program := []

namespace Environment

/-- Lets a filter apply to every text that a context owns, before each
rendering. -/
def autoFilter (environment : Environment) (name : String) :
    Except Error Environment :=
  if environment.filters.has name then
    .ok { environment with autoFilters := environment.autoFilters ++ [name] }
  else .error (.unknownFilter name)

/-- Takes in a program that was compiled ahead of time. -/
def preload (environment : Environment) (name artifact : String) :
    Except Error Environment :=
  match Program.ofArtifact? artifact with
  | some program =>
    .ok { environment with
      preloaded := Table.insert environment.preloaded name program }
  | none => .error .artifact

def compile (environment : Environment) (source : String) :
    Except Error Compiled :=
  match TemplateEngine.compile environment.options environment.filters.has
    source with
  | .ok compiled => .ok compiled
  | .error error => .error (.template error)

/-- The program that the cache has for a template that last changed at a moment,
if it counts. -/
def cached (store : Store) (id : String) (modified : Time) :
    Except Error (Option Program) :=
  if store.cache.isFresh id modified then store.cache.load id else .ok none

/-- Reads and compiles a template and keeps its program. -/
def recompile (environment : Environment) (store : Store) (name id : String) :
    Except Error Program × Store :=
  let (source, store) := store.read name
  match source with
  | .error error => (.error error, store)
  | .ok source =>
    match environment.compile source with
    | .error error => (.error error, store)
    | .ok compiled =>
      let (kept, store) := store.keep id compiled.program
      match kept with
      | .error error => (.error error, store)
      | .ok () => (.ok compiled.program, store)

def program (environment : Environment) (store : Store) (name : String) :
    Except Error Program × Store :=
  match Table.get? environment.preloaded name with
  | some program => (.ok program, store)
  | none =>
    match store.loader.lastModified name with
    | .error error => (.error error, store)
    | .ok modified =>
      let id := store.loader.locate name
      match cached store id modified with
      | .error error => (.error error, store)
      | .ok (some program) => (.ok program, store)
      | .ok none => environment.recompile store name id

/-- Applies filters to every text of a value, one filter after the other. -/
def filterTexts (filters : Filters) : List String → Value → Except Error Value
  | [], value => .ok value
  | name :: names, value =>
    match value.mapTexts fun text => filters.invoke name (.text text) [] with
    | .error error => .error error
    | .ok value => filterTexts filters names value

/-- Applies filters to the variables that hold their value on their own. -/
def filterVars (filters : Filters) (names : List String) :
    Table Binding → Except Error (Table Binding)
  | [] => .ok []
  | (name, .owned value) :: vars =>
    match filterTexts filters names value with
    | .error error => .error error
    | .ok value =>
      (filterVars filters names vars).map ((name, .owned value) :: ·)
  | (name, .shared cell) :: vars =>
    (filterVars filters names vars).map ((name, .shared cell) :: ·)

/-- The variables of a context as templates see them. -/
def visibleVars (environment : Environment) (context : Context) :
    Except Error (Table Binding) :=
  filterVars environment.filters environment.autoFilters context.vars

end Environment
end TemplateEngine
