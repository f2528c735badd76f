import TemplateEngine.Proofs.Text.Percent
import TemplateEngine.Store.Cache

/-!
# Files of a directory cache

The name of the file for a program is read back as the path of the template, and
is one part of a path.  So every template has a file of its own right below the
directory, whatever the directory is.
-/

namespace TemplateEngine

/-! ## Parts of paths -/

/-- Whether a name is a single part of any path it stands in, and leads neither
out of the folder it stands in nor back to it. -/
structure IsPart (name : String) : Prop where
  noSlash : '/' ∉ name.toList
  noBackslash : '\\' ∉ name.toList
  nonempty : name ≠ ""
  notDot : name ≠ "."
  notDots : name ≠ ".."

namespace PathKey

/-- The place of a name below a path. -/
def child (key : PathKey) (name : String) : PathKey :=
  ⟨key.isRooted, key.parts ++ [name]⟩

/-- The parts of a path that count; a dot counts in front only. -/
def counted : List String → List String
  | [] => []
  | first :: others =>
    [first].filter (· != "") ++
      others.filter fun part => part != "" && part != "."

theorem ofPath_eq (path : String) :
    ofPath path =
      ⟨path.toList.head? == some '/', counted (pathParts path)⟩ := by
  rw [ofPath]
  dsimp only
  split
  next dotted =>
    rw [dotted]
    rfl
  next notDotted =>
    cases parts : pathParts path with
    | nil => rfl
    | cons first others =>
        have notDot : first ≠ "." :=
          fun dot => notDotted others (by rw [parts, dot])
        by_cases empty : first = ""
        · simp [counted, empty]
        · simp [counted, empty, notDot]

theorem counted_append_empty {parts : List String} (filled : parts ≠ []) :
    counted (parts ++ [""]) = counted parts := by
  obtain ⟨first, others, rfl⟩ := List.exists_cons_of_ne_nil filled
  simp [counted]

theorem counted_append_part {parts : List String} {name : String}
    (isPart : IsPart name) (filled : parts ≠ []) :
    counted (parts ++ [name]) = counted parts ++ [name] := by
  obtain ⟨first, others, rfl⟩ := List.exists_cons_of_ne_nil filled
  simp [counted, isPart.nonempty, isPart.notDot]

end PathKey

/-! ## Paths below a folder -/

theorem pathParts_ne_nil (path : String) : pathParts path ≠ [] := by
  simp [pathParts, List.splitOn_ne_nil]

/-- What stands after a slash are further parts. -/
theorem pathParts_append_slash (folder path : String) :
    pathParts (folder ++ "/" ++ path) = pathParts folder ++ pathParts path := by
  have slash :
      (folder ++ "/" ++ path).toList = folder.toList ++ '/' :: path.toList := by
    simp
  rw [pathParts, slash, List.splitOn_append_cons_self, List.map_append]
  rfl

/-- A slash at the end does not count. -/
theorem counted_slash (folder : String) :
    PathKey.counted (pathParts (folder ++ "/")) =
      PathKey.counted (pathParts folder) := by
  have parts : pathParts (folder ++ "/") = pathParts folder ++ [""] := by
    have inside := pathParts_append_slash folder ""
    rwa [String.append_empty] at inside
  rw [parts, PathKey.counted_append_empty (pathParts_ne_nil folder)]

theorem head?_toList_append {folder : String} (path : String)
    (filled : folder ≠ "") :
    (folder ++ path).toList.head? = folder.toList.head? := by
  have nonempty : folder.toList ≠ [] :=
    fun empty => filled (String.toList_inj.mp empty)
  obtain ⟨first, others, spelled⟩ := List.exists_cons_of_ne_nil nonempty
  rw [String.toList_append, spelled]
  rfl

namespace IsPart

variable {name : String} (isPart : IsPart name)

include isPart

theorem pathParts_eq : pathParts name = [name] := by
  rw [pathParts, List.splitOn_eq_singleton isPart.noSlash, List.map_singleton,
    String.ofList_toList]

theorem isRooted_eq : (name.toList.head? == some '/') = false := by
  simpa using fun starts => isPart.noSlash (List.mem_of_head? starts)

theorem counted_below (folder : String) :
    PathKey.counted (pathParts (folder ++ "/" ++ name)) =
      PathKey.counted (pathParts folder) ++ [name] := by
  rw [pathParts_append_slash, isPart.pathParts_eq,
    PathKey.counted_append_part isPart (pathParts_ne_nil folder)]

/-- A part below a folder names the place of that name in the folder. -/
theorem ofPath_joinPath (folder : String) :
    PathKey.ofPath (joinPath folder name) =
      (PathKey.ofPath folder).child name := by
  rw [joinPath, isPart.isRooted_eq, Bool.or_false]
  simp only [beq_iff_eq, PathKey.ofPath_eq, PathKey.child, PathKey.mk.injEq]
  split
  next empty =>
    subst empty
    rw [isPart.isRooted_eq, isPart.pathParts_eq]
    simp [PathKey.counted, isPart.nonempty, pathParts, List.splitOn]
  next filled =>
    split
    next slash =>
      -- the slash at the end of the folder is the one between the folder and
      -- the name
      obtain ⟨start, ends⟩ := List.getLast?_eq_some_iff.mp slash
      have whole : folder = String.ofList start ++ "/" := by
        rw [← String.toList_inj, ends, String.toList_append,
          String.toList_ofList]
        rfl
      refine ⟨by rw [head?_toList_append name filled], ?_⟩
      rw [whole, isPart.counted_below, counted_slash]
    next =>
      refine ⟨?_, isPart.counted_below folder⟩
      rw [String.append_assoc, head?_toList_append _ filled]

end IsPart

namespace Cache

/-! ## Names of files -/

theorem toList_fileName (id : String) :
    (fileName id).toList =
      Text.Percent.fileName id.toList ++ ".json".toList := by
  rw [fileName, String.toList_append, String.toList_ofList]

theorem fileName_injective : Function.Injective fileName := by
  intro first second same
  have names := congrArg String.toList same
  rw [toList_fileName, toList_fileName] at names
  exact String.toList_inj.mp
    (Text.Percent.encode_injective rfl (List.append_cancel_right names))

/-- Beside the characters that file names keep, they hold percent signs only. -/
theorem isFileNameCharacter_of_mem {id : String} {character : Char}
    (member : character ∈ (fileName id).toList) :
    Text.Percent.isFileNameCharacter character = true ∨ character = '%' := by
  rw [toList_fileName, List.mem_append] at member
  rcases member with inName | atEnd
  · have writes :=
      Text.Percent.writes_encode Text.Percent.isFileNameCharacter id.toList
    rcases Text.Percent.keep_or_isEncoded_of_writes writes character inName with
      kept | letter | sign
    · exact .inl kept
    · exact .inl (by simp [Text.Percent.isFileNameCharacter, letter])
    · exact .inr sign
  · have ending :
        ".json".toList.all Text.Percent.isFileNameCharacter = true := by decide
    exact .inl (List.all_eq_true.mp ending character atEnd)

theorem isPart_fileName (id : String) : IsPart (fileName id) := by
  have long : 5 ≤ (fileName id).toList.length := by
    rw [toList_fileName, List.length_append]
    exact Nat.le_add_left _ _
  have other {name : String} (short : name.toList.length < 5) :
      fileName id ≠ name := by
    rintro rfl
    exact Nat.not_lt.mpr long short
  exact {
    noSlash :=
      fun member => absurd (isFileNameCharacter_of_mem member) (by decide)
    noBackslash :=
      fun member => absurd (isFileNameCharacter_of_mem member) (by decide)
    nonempty := other (by decide)
    notDot := other (by decide)
    notDots := other (by decide) }

/-- Storing a program changes nothing for the other templates. -/
theorem load_store_of_ne {id other : String} (different : other ≠ id)
    (isThere : Bool) (files : Table (Time × String)) (program : Program)
    (now modified : Time) :
    ((directory isThere files).store id program now).2.load other =
        (directory true files).load other ∧
      ((directory isThere files).store id program now).2.isFresh other
          modified =
        (directory isThere files).isFresh other modified := by
  have apart : fileName other ≠ fileName id := fileName_injective.ne different
  rw [store]
  split
  next =>
    simp only [load, isFresh, Table.get?_insert_other files _ apart, and_self]
  next => exact ⟨rfl, rfl⟩

/-- Every template has a file of its own right below the directory. -/
theorem fileName_separates (folder first second : String) :
    (PathKey.ofPath (joinPath folder (fileName first)) =
        PathKey.ofPath (joinPath folder (fileName second)) ↔ first = second) ∧
      PathKey.ofPath (joinPath folder (fileName first)) =
        (PathKey.ofPath folder).child (fileName first) ∧
      IsPart (fileName first) := by
  have place (id : String) := (isPart_fileName id).ofPath_joinPath folder
  refine ⟨⟨fun same => ?_, fun same => by rw [same]⟩, place first,
    isPart_fileName first⟩
  rw [place, place] at same
  have parts := congrArg PathKey.parts same
  exact fileName_injective
    (List.singleton_inj.mp (List.append_cancel_left parts))

/-- A path that leads out of a folder becomes a name in it. -/
example : fileName "../a b" = "..%2Fa%20b.json" := by decide

end Cache
end TemplateEngine
