import TemplateEngine.Error
import TemplateEngine.Program.Artifact
import TemplateEngine.Store.FileTree
import TemplateEngine.Text.Percent

/-!
# Caches

Where compiled programs are kept.  A cache tells whether a program was stored
after its source last changed; a program stored at the same moment does not
count.  In a directory every program is a file of its own, named by its encoded
path.
-/

namespace TemplateEngine

inductive Cache
  /-- In memory, with the time of storing. -/
  | memory (programs : Table (Time × Program))
  /-- As files of a directory, which may not exist yet, with the time of
  writing. -/
  | directory (isThere : Bool) (files : Table (Time × String))
  /-- In a directory that cannot exist. -/
  | blocked

namespace Cache

/-- The name of the file for a path. -/
def fileName (id : String) : String :=
  String.ofList (Text.Percent.fileName id.toList) ++ ".json"

/-- Whether a file may have a name. -/
def isFileName (name : String) : Bool :=
  Text.Utf8.size name.toList ≤ 255

/-- Whether a program for a path was stored after a moment. -/
def isFresh (cache : Cache) (id : String) (modified : Time) : Bool :=
  match cache with
  | memory programs =>
    match Table.get? programs id with
    | some (stored, _) => modified < stored
    | none => false
  | directory _ files =>
    match Table.get? files (fileName id) with
    | some (written, _) => modified < written
    | none => false
  | blocked => false

/-- The program for a path, if there is one. -/
def load (cache : Cache) (id : String) : Except Error (Option Program) :=
  match cache with
  | memory programs => .ok ((Table.get? programs id).map Prod.snd)
  | directory isThere files =>
    if isThere && !isFileName (fileName id) then .error .io
    else
      match Table.get? files (fileName id) with
      | none => .ok none
      | some (_, content) =>
        match Program.ofArtifact? content with
        | some program => .ok (some program)
        | none => .error .artifact
  | blocked => .error .io

/-- Stores a program for a path at a moment.  A directory comes into being with
the first attempt. -/
def store (cache : Cache) (id : String) (program : Program) (now : Time) :
    Except Error Unit × Cache :=
  match cache with
  | memory programs =>
    (.ok (), memory (Table.insert programs id (now, program)))
  | directory _ files =>
    if isFileName (fileName id) then
      (.ok (),
        directory true
          (Table.insert files (fileName id) (now, program.artifact)))
    else (.error .io, directory true files)
  | blocked => (.error .io, blocked)

end Cache
end TemplateEngine
