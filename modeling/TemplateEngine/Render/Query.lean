import TemplateEngine.Text.Percent
import TemplateEngine.Text.Search
import TemplateEngine.Value.Basic

/-!
# Query strings

A query string holds parameters, with `&` between them and `=` between a name
and its value.  Plus signs and percent signs are decoded after it has been
split.
-/

namespace TemplateEngine.Query

/-- A name or value without its encoding. -/
def decode (component : List Char) : String :=
  String.ofList (Text.Percent.decodeComponent component)

/-- A parameter; one without an equals sign is empty. -/
def parameter (pair : List Char) : String × Value :=
  match Text.splitFirst? '=' pair with
  | some (name, value) => (decode name, .text (decode value))
  | none => (decode pair, .text "")

/-- The parameters of a query string; empty ones do not count. -/
def parse (query : List Char) : List (String × Value) :=
  ((List.splitOn '&' query).filter fun pair => !pair.isEmpty).map parameter

end TemplateEngine.Query
