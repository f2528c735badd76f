import TemplateEngine.Markup.Normalized
import TemplateEngine.Markup.Tag

/-!
# Tokens

A normalized source is split, from left to right, into literal text,
placeholders that print and tags.  A brace with a backslash after it is a
literal brace.
-/

namespace TemplateEngine.Markup

inductive Token
  | text (text : String)
  | print (placeholder : Placeholder)
  /-- A tag with its text in the source. -/
  | tag (tag : Tag) (raw : String)

/-- Reads an escaped brace, a placeholder or a tag. -/
def Token.scan (options : Options) : Scanner Token :=
  fun text =>
    match text with
    | '\x7b' :: '\\' :: rest => .ok (some (.text "\x7b", rest))
    | '\x7b' :: _ =>
      (return .print (← Placeholder.scanPrint options) : Scanner Token) text
    | '<' :: _ =>
      (do
        let (found, raw) ← Scanner.withText (Tag.scan options)
        return .tag found (String.ofList raw) : Scanner Token) text
    | _ => .ok none

/-- The tokens of a normalized source. -/
def tokenize (options : Options) (source : List Char) :
    Except SyntaxError (List Token) :=
  (Scanner.split (Token.scan options) source).map fun pieces =>
    pieces.map fun
      | .plain text => .text (String.ofList text)
      | .construct token => token

end TemplateEngine.Markup
