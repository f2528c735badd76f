import TemplateEngine.Markup.SyntaxError

/-!
# Errors

What goes wrong while templates are fetched, compiled and rendered, and the
wording of each error.
-/

namespace TemplateEngine

def maxInclusions : Nat := 32

/-- Errors about the block tree. -/
inductive BlockError
  /-- A block is opened before one of the blocks around it has a row. -/
  | noParentRow (path : String)
  /-- A field that the last row of a block does not have. -/
  | undefined (path field : String)
  deriving DecidableEq

def BlockError.message : BlockError → String
  | noParentRow path =>
    "cannot open block \"" ++ path ++ "\": its parent block has no row"
  | undefined path field =>
    "block variable \"" ++ field ++ "\" is not defined in block \"" ++ path ++
      "\""

inductive Error
  /-- A template is not well structured. -/
  | template (error : SyntaxError)
  | missingTemplate (name : String)
  /-- A template that another requires is missing. -/
  | requiredTemplate (name : String)
  | unknownFilter (name : String)
  | block (error : BlockError)
  | undefinedConstant (name : String)
  /-- A filter refuses its input or its arguments. -/
  | filter (name message : String)
  /-- A condition cannot be evaluated. -/
  | condition (condition message : String)
  | inclusionDepth
  /-- The file system refuses to read or write. -/
  | io
  /-- A stored program cannot be read. -/
  | artifact
  deriving DecidableEq

def Error.message : Error → String
  | template error => error.message
  | missingTemplate name => "the template \"" ++ name ++ "\" doesn't exist"
  | requiredTemplate name =>
    "the required template \"" ++ name ++
      "\" doesn't exist, rendering is interrupted"
  | unknownFilter name => "the filter \"" ++ name ++ "\" doesn't exist"
  | block error => error.message
  | undefinedConstant name => "the constant \"" ++ name ++ "\" is not defined"
  | filter name reason => "filter \"" ++ name ++ "\" failed: " ++ reason
  | condition text reason =>
    "cannot evaluate condition \"" ++ text ++ "\": " ++ reason
  | inclusionDepth => "inclusions nested deeper than 32 levels"
  | io => "the file system refuses access"
  | artifact => "invalid compiled template"

end TemplateEngine
