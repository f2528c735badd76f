
/-!
# Paths

Two paths name the same place if their parts agree: empty parts do not count,
nor does a dot, except in front of a path that does not start at the root.  Two
dots are a part like any other.
-/

namespace TemplateEngine

/-- The parts of a path by which it is compared with others. -/
structure PathKey where
  isRooted : Bool
  parts : List String
  deriving DecidableEq

/-- The parts of a path between its slashes. -/
def pathParts (path : String) : List String :=
  (List.splitOn '/' path.toList).map String.ofList

def PathKey.ofPath (path : String) : PathKey :=
  let parts := pathParts path
  let isRooted := path.toList.head? == some '/'
  let proper (parts : List String) : List String :=
    parts.filter fun part => part != "" && part != "."
  match parts with
  | "." :: rest => ⟨isRooted, "." :: proper rest⟩
  | parts => ⟨isRooted, proper parts⟩

/-- The path of a relative path below a folder, with one slash between them; a
path that starts at the root, or stands below an empty one, is taken as it
is. -/
def joinPath (folder path : String) : String :=
  if folder == "" || path.toList.head? == some '/' then path
  else if folder.toList.getLast? == some '/' then folder ++ path
  else folder ++ "/" ++ path

end TemplateEngine
