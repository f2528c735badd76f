import TemplateEngine.Store.Path
import TemplateEngine.Table
import TemplateEngine.Text.Utf8

/-!
# Files and folders

A folder and what is in it, as a file system shows it.  A path is followed part
by part: a file has nothing below it, two dots lead to the folder around, and
names and paths are bounded in length.
-/

namespace TemplateEngine

abbrev Time := Nat

/-- A file with its last modification, or a folder. -/
inductive FileTree
  | file (content : List UInt8) (modified : Time)
  | folder (entries : List (String × FileTree))

/-- What following a path leads to. -/
inductive FileAccess
  | found (tree : FileTree)
  | missing
  /-- The path is none, or leads through a file. -/
  | refused

namespace FileTree

def entries : FileTree → Table FileTree
  | file _ _ => []
  | folder entries => entries

/-- Follows the parts of a path from a place, given the folders around it,
innermost first.  Outside of all of them nothing is found. -/
def follow : (around : List FileTree) → FileTree → List String → FileAccess
  | _, place, [] => .found place
  | _, file _ _, _ :: _ => .refused
  | around, folder entries, part :: parts =>
    if part = "" || part = "." then follow around (folder entries) parts
    else if part = ".." then
      match around with
      | [] => follow [] (folder []) parts
      | up :: around => follow around up parts
    else if 255 < Text.Utf8.size part.toList then .refused
    else
      match Table.get? entries part with
      | none => .missing
      | some place => follow (folder entries :: around) place parts

/-- Follows a path below a folder.  The whole path, which starts with the name
of the folder, is shorter than 4096 bytes and holds no null character. -/
def access (tree : FileTree) (root path : String) : FileAccess :=
  if path.toList.contains '\x00' then .refused
  else if 4096 ≤ Text.Utf8.size (joinPath root path).toList then .refused
  else follow [] tree (pathParts path)

/-- Puts a file at the parts of a path, with the folders that lead to it. -/
def put (added : FileTree) : List String → FileTree → FileTree
  | [], _ => added
  | part :: parts, tree =>
    if part = "" || part = "." then put added parts tree
    else
      folder (Table.alter part (folder []) (put added parts) tree.entries)

end FileTree
end TemplateEngine
