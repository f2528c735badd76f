/-!
# Options of the template language

Every feature can be switched off; its markup is then literal text.  With a
namespace, tags and attributes count as such only if their names carry it.
-/

namespace TemplateEngine

/-- What the template language recognises, and how programs are compacted. -/
structure Options where
  /-- Filter chains in placeholders. -/
  filters : Bool := true
  /-- Inclusion tags. -/
  inclusion : Bool := true
  /-- Condition tags. -/
  conditions : Bool := true
  /-- Placeholders for host constants. -/
  constants : Bool := true
  /-- Assignment tags. -/
  sets : Bool := true
  /-- What stands before the colon in front of tag and attribute names. -/
  namespacePrefix : Option String := none
  /-- Whether blank text between two directives is dropped. -/
  compactWhitespace : Bool := false
  deriving DecidableEq

/-- What every tag and attribute name starts with: nothing, or the namespace and
a colon. -/
def Options.tagNamespace (options : Options) : List Char :=
  match options.namespacePrefix with
  | none => []
  | some name => if name = "" then [] else name.toList ++ [':']

end TemplateEngine
