import TemplateEngine.Error
import TemplateEngine.Store.FileTree

/-!
# Loaders

Where the sources of templates come from: a table in memory, or the files below
a folder.
-/

namespace TemplateEngine

structure StoredSource where
  source : String
  modified : Time

inductive Loader
  | memory (templates : Table StoredSource)
  /-- The files below a folder with a given path. -/
  | files (root : String) (tree : FileTree)

namespace Loader

/-- A name without the slashes at its start. -/
def relativeName (name : String) : String :=
  String.ofList (name.toList.dropWhile (· == '/'))

/-- The path that a name stands for. -/
def locate (loader : Loader) (name : String) : String :=
  match loader with
  | memory _ => name
  | files root _ => joinPath root (relativeName name)

/-- What a name stands for among files. -/
def access (root : String) (tree : FileTree) (name : String) :
    Except Error FileTree :=
  match tree.access root (relativeName name) with
  | .found place => .ok place
  | .missing => .error (.missingTemplate name)
  | .refused => .error .io

def read (loader : Loader) (name : String) : Except Error String :=
  match loader with
  | memory templates =>
    match Table.get? templates name with
    | some template => .ok template.source
    | none => .error (.missingTemplate name)
  | files root tree =>
    match access root tree name with
    | .error error => .error error
    | .ok (.folder _) => .error .io
    | .ok (.file content _) =>
      match Text.Utf8.decode? content with
      | some text => .ok (String.ofList text)
      | none => .error .io

/-- When the source of a template last changed.  Folders count as unchanged. -/
def lastModified (loader : Loader) (name : String) : Except Error Time :=
  match loader with
  | memory templates =>
    match Table.get? templates name with
    | some template => .ok template.modified
    | none => .error (.missingTemplate name)
  | files root tree =>
    match access root tree name with
    | .error error => .error error
    | .ok (.folder _) => .ok 0
    | .ok (.file _ modified) => .ok modified

/-- Stores the source of a template. -/
def insert (loader : Loader) (name : String) (content : List UInt8)
    (modified : Time) : Loader :=
  match loader with
  | memory templates =>
    memory (Table.insert templates name
      ⟨String.ofList (Text.Utf8.decode content), modified⟩)
  | files root tree =>
    files root (FileTree.put (.file content modified)
      (pathParts (relativeName name)) tree)

end Loader
end TemplateEngine
