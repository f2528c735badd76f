import TemplateEngine.Proofs.Template.Storable
import TemplateEngine.Render.Environment

/-!
# Compiled templates that are stored are read back

An artifact of a compiled template is read back as the program it was made of,
unless it has more levels of nesting than the reader of JSON takes.  Every
filter takes two levels, and nothing bounds the number of filters in a row, so
that a template may be compiled and rendered but not read back.
-/

namespace TemplateEngine

open Json (limited)

/-- A compiled template is restored, from its artifact, from a directory and
when it is compiled ahead of time, exactly if its JSON form is not nested too
deeply.  The positions of a program, and so its size, are counts of 64 bits. -/
theorem Compiled.restored_of_compile {options : Options} {known : Catalog}
    {source : String} {compiled : Compiled}
    (compiles : compile options known source = .ok compiled)
    (counts : Number.isCount compiled.program.size = true) :
    Program.ofArtifact? compiled.program.artifact =
        (if compiled.program.toJson.depth ≤ Json.levels then some
            compiled.program
          else none) ∧
      (∀ isThere files id now, Cache.isFileName (Cache.fileName id) = true →
        ((Cache.directory isThere files).store id compiled.program now).2.load
            id =
          if compiled.program.toJson.depth ≤ Json.levels then .ok
            (some compiled.program)
          else .error .artifact) ∧
      ∀ (environment : Environment) name,
        environment.preload name compiled.program.artifact =
          if compiled.program.toJson.depth ≤ Json.levels then
            .ok { environment with
              preloaded :=
                Table.insert environment.preloaded name compiled.program }
          else .error .artifact := by
  have restored :=
    Program.ofArtifact?_artifact (Program.storable_of_compile compiles counts)
  rw [limited] at restored
  refine ⟨restored, fun isThere files id now named => ?_,
    fun environment name => ?_⟩
  · simp only [Cache.store, named, if_true, Cache.load, Table.get?_insert_same,
      restored]
    by_cases shallow : compiled.program.toJson.depth ≤ Json.levels
    · simp [shallow]
    · simp [shallow]
  · rw [Environment.preload, restored]
    by_cases shallow : compiled.program.toJson.depth ≤ Json.levels
    · simp [shallow]
    · simp [shallow]

theorem Compiled.exists_of_any {result : Except SyntaxError Compiled}
    {holds : Compiled → Bool} (computed : result.toOption.any holds = true) :
    ∃ compiled, result = .ok compiled ∧ holds compiled = true := by
  cases result with
  | error error => cases computed
  | ok compiled => exact ⟨compiled, rfl, computed⟩

/-- Sixty-one filters in a row are too many. -/
theorem Compiled.restored_of_compile_filters :
    ∃ compiled, compile {} Catalog.deferred (String.ofList (('\x7b' :: 'X' ::
        (List.replicate 61 ['|', 'a']).flatten) ++ ['\x7d'])) = .ok compiled ∧
      Number.isCount compiled.program.size = true ∧
      Program.ofArtifact? compiled.program.artifact = none := by
  have computed : (compile {} Catalog.deferred (String.ofList (('\x7b' :: 'X' ::
        (List.replicate 61 ['|', 'a']).flatten) ++ ['\x7d']))).toOption.any
      (fun compiled => Number.isCount compiled.program.size &&
        decide (¬compiled.program.toJson.depth ≤ Json.levels)) = true := by
    decide +kernel
  obtain ⟨compiled, compiles, facts⟩ := Compiled.exists_of_any computed
  rw [Bool.and_eq_true] at facts
  obtain ⟨counts, deep⟩ := facts
  obtain ⟨restored, -, -⟩ := Compiled.restored_of_compile compiles counts
  rw [if_neg (of_decide_eq_true deep)] at restored
  exact ⟨compiled, compiles, counts, restored⟩

end TemplateEngine
