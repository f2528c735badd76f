import TemplateEngine.Template.Compaction
import TemplateEngine.Template.Flattened
import TemplateEngine.Template.Nesting

/-!
# Compiled templates

A source is normalized and split into tokens, its tags are matched into a tree,
and the tree is laid out as a program.  Either the whole program is produced or
none.
-/

namespace TemplateEngine

/-- A program and the warnings about its source, in the order of what they are
about. -/
structure Compiled where
  program : Program
  warnings : List Warning

def compile (options : Options) (known : Catalog) (source : String) :
    Except SyntaxError Compiled :=
  match Markup.tokenize options
    (Markup.normalize options.tagNamespace source.toList) with
  | .error error => .error error
  | .ok tokens =>
    match Node.ofTokens known tokens with
    | .error error => .error error
    | .ok nodes =>
      .ok {
        program :=
          ⟨Compaction.compact options.compactWhitespace
            (Node.flattenAll 0 nodes)⟩
        warnings := tokens.flatMap (Markup.Token.warnings known) }

end TemplateEngine
