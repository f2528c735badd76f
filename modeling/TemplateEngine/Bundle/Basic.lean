import TemplateEngine.Bundle.FunctionName
import TemplateEngine.Program.Artifact
import TemplateEngine.Store.FileTree
import TemplateEngine.Template.Compiled
import TemplateEngine.Text.Quoted

/-!
# Bundles

Templates that are compiled ahead of time: one given as text, one in a file, or
all in a folder and the folders below it.  They are compiled with the default
options and without a look at the filters, which are known only when rendering.
-/

namespace TemplateEngine.Bundle

/-- A template compiled ahead of time. -/
structure Entry where
  function : String
  name : String
  artifact : String

/-- Why a bundle cannot be made. -/
inductive Failure
  /-- Two templates whose functions would have the same name. -/
  | collision (earlier name : String)
  /-- A template that is not well structured. -/
  | template (name : String) (error : SyntaxError)
  | folderMissing (path : String)
  | fileMissing (path : String)
  | unreadable (path : String)
  /-- A template whose name makes no name for a function. -/
  | nameless

def Failure.message : Failure → String
  | collision earlier name =>
    "templates \"" ++ earlier ++ "\" and \"" ++ name ++
      "\" both expand to `fn " ++ functionName name ++ "`"
  | template name error => "template \"" ++ name ++ "\": " ++ error.message
  | folderMissing path =>
    "Directory not found: " ++ String.ofList (Text.quotePath path.toList)
  | fileMissing path =>
    "File not found: " ++ String.ofList (Text.quotePath path.toList)
  | unreadable path =>
    "cannot read " ++ String.ofList (Text.quotePath path.toList)
  | nameless => "no name for a function"

/-- Fails if two functions would have the same name. -/
def checkNames (names : List String) : Except Failure Unit :=
  match collision? names with
  | none => .ok ()
  | some (earlier, name) => .error (.collision earlier name)

/-- Compiles a template given as text. -/
def ofText (name source : String) : Except Failure Entry :=
  match compile {} Catalog.deferred source with
  | .error error => .error (.template name error)
  | .ok compiled =>
    let function := functionName name
    if isIdentifier function then .ok
      ⟨function, name, compiled.program.artifact⟩
    else .error .nameless

/-- Compiles a template in a file. -/
def ofContent (name path : String) (content : List UInt8) :
    Except Failure Entry :=
  match Text.Utf8.decode? content with
  | none => .error (.unreadable path)
  | some text => ofText name (String.ofList text)

/-- Whether a file is a template by its name: an extension follows a name that
is not empty. -/
def isTemplateName (name : String) : Bool :=
  let characters := name.toList
  let extension := characters.reverse.takeWhile (· != '.')
  let base := characters.reverse.drop (extension.length + 1)
  !base.isEmpty &&
    (extension.reverse == "html".toList || extension.reverse == "tpl".toList)

mutual

/-- The templates in a folder and below it, by their paths, folders in the order
of names. -/
def templatesIn (path : List String) : FileTree → List (String × List UInt8)
  | .file content _ =>
    match path.getLast? with
    | some name =>
      if isTemplateName name then [(String.intercalate "/" path, content)]
      else []
    | none => []
  | .folder entries =>
    (templatesOf path entries).mergeSort before |>.flatMap Prod.snd
where
  /-- The order of names. -/
  before (left right : String × List (String × List UInt8)) : Bool :=
    left.1 ≤ right.1

/-- The templates in each of the entries of a folder. -/
def templatesOf (path : List String) :
    List (String × FileTree) → List (String × List (String × List UInt8))
  | [] => []
  | (name, tree) :: entries =>
    (name, templatesIn (path ++ [name]) tree) :: templatesOf path entries

end

/-- Compiles templates one after the other. -/
def ofContents (folder : String) :
    List (String × List UInt8) → Except Failure (List Entry)
  | [] => .ok []
  | (name, content) :: templates =>
    match ofContent name (joinPath folder name) content with
    | .error failure => .error failure
    | .ok entry => (ofContents folder templates).map (entry :: ·)

/-- Compiles all templates of the folder at a path. -/
def ofFolder (tree : FileTree) (root path : String) :
    Except Failure (List Entry) :=
  let folder := joinPath root path
  match place path with
  | .found (.folder entries) =>
    let templates := templatesIn [] (.folder entries)
    match checkNames (templates.map Prod.fst) with
    | .error failure => .error failure
    | .ok () => ofContents folder templates
  | _ => .error (.folderMissing folder)
where
  /-- What a path leads to; one that starts at the root leads nowhere. -/
  place (path : String) : FileAccess :=
    if path.toList.head? == some '/' then .missing else tree.access root path

/-- Compiles the template in the file at a path. -/
def ofFile (tree : FileTree) (root path : String) : Except Failure Entry :=
  let file := joinPath root path
  match ofFolder.place tree root path with
  | .found (.file content _) =>
    let parts := (pathParts path).filter fun part => part != "" && part != "."
    ofContent (parts.getLast?.getD path) file content
  | _ => .error (.fileMissing file)

end TemplateEngine.Bundle
