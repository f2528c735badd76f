/-!
# Errors in templates

A template that is not well structured cannot be compiled.  The error names its
cause and shows the start of the markup where it was found.
-/

namespace TemplateEngine

/-- The deepest nesting of constructs, of placeholders, and of the parts of a
condition. -/
def maxDepth : Nat := 64

/-- The tags that errors speak of. -/
inductive TagName
  | foreach
  | foreachElse
  | block
  | condition
  | elseIf
  | otherwise
  deriving DecidableEq

/-- The name of a tag as it is written. -/
def TagName.text : TagName → String
  | foreach => "foreach"
  | foreachElse => "foreachelse"
  | block => "block"
  | condition => "if"
  | elseIf => "elseif"
  | otherwise => "else"

namespace SyntaxError

/-- Why a template is not well structured. -/
inductive Cause
  /-- An opening tag without its closing tag. -/
  | unclosed (tag : TagName)
  /-- A closing tag without its opening tag. -/
  | unexpected (tag : TagName)
  /-- A tag that separates the parts of a construct, outside of one. -/
  | misplaced (tag : TagName)
  /-- Constructs or placeholders nested too deeply. -/
  | tooDeep
  deriving DecidableEq

def Cause.message : Cause → String
  | unclosed tag => "unclosed <" ++ tag.text ++ "> tag"
  | unexpected tag => "unexpected </" ++ tag.text ++ "> tag"
  | misplaced tag => "<" ++ tag.text ++ " /> not expected here"
  | tooDeep => "nesting deeper than 64 levels"

end SyntaxError

/-- The start of a markup text, as errors and warnings show it. -/
def excerpt (markup : List Char) : String :=
  String.ofList (markup.take 32)

structure SyntaxError where
  cause : SyntaxError.Cause
  near : String
  deriving DecidableEq

namespace SyntaxError

/-- The error of a cause at a markup text. -/
def of (cause : Cause) (markup : List Char) : SyntaxError :=
  ⟨cause, excerpt markup⟩

def message (error : SyntaxError) : String :=
  error.cause.message ++ " near \"" ++ error.near ++ "\""

end SyntaxError

/-- A filter that is called in a template and does not exist. -/
structure Warning where
  filter : String
  near : String
  deriving DecidableEq

def Warning.message (warning : Warning) : String :=
  "the filter \"" ++ warning.filter ++
    "\" does not exist, and thus shall be ignored (near \"" ++ warning.near ++
    "\")"

end TemplateEngine
