/-!
# Kinds of inclusion

A template may include another or require it.
-/

namespace TemplateEngine

/-- What happens if the template to include is missing. -/
inductive InclusionKind
  /-- A notice is printed and rendering goes on. -/
  | optional
  /-- Rendering ends with an error. -/
  | required
  deriving DecidableEq

end TemplateEngine
