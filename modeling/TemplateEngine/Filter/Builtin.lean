import TemplateEngine.Filter.Basic
import TemplateEngine.Filter.Markup
import TemplateEngine.Filter.Shape

/-!
# The standard filters

    ceil, floor        round a number up or down
    protect, safe      escape HTML, and undo it
    ucfirst, lcfirst   change the case of the first character
    invertCase         swap the case of every character
    maximize, upper    upper case
    minimize, lower    lower case
    trim               drop blanks at both ends
    nl2br, paragraphy  mark up line breaks, or paragraphs too
    slugify            make a text fit for an address
    cut:max:finish     shorten at the end of a word
    void               change nothing
    defaults:value     replace an input that does not count as true
-/

namespace TemplateEngine.Filter

/-- Rounds the number of a value; what is no number counts as zero. -/
def rounded (round : Number.Binary64 → Number.Binary64) : Filter :=
  fun input _ =>
    .ok (.text (String.ofList (Number.Layout.plain.write
      (round (input.number?.getD Number.Binary64.zero)))))

/-- Shortens the text of its input: to 50 characters, with three dots at the
end, unless the arguments say otherwise. -/
def cut : Filter := fun input arguments =>
  let finish := (arguments[1]?.map Value.print).getD "...".toList
  match arguments.head? with
  | none => .ok (.text (String.ofList (cutAt 50 finish input.print)))
  | some limit =>
    match limit.number? with
    | some number =>
      .ok (.text (String.ofList (cutAt number.toCount finish input.print)))
    | none => .error ("expected a length, got \"" ++ limit.toText ++ "\"")

/-- The input, or the first argument in place of an input that does not count as
true. -/
def defaults : Filter := fun input arguments =>
  .ok (if input.isTruthy then input else (arguments.head?).getD (.text ""))

end TemplateEngine.Filter

namespace TemplateEngine

open TemplateEngine.Filter in
def Filters.builtin : Filters := [
  ("ceil", rounded Number.Binary64.ceil),
  ("floor", rounded Number.Binary64.floor),
  ("protect", ofText protect),
  ("safe", ofText safe),
  ("ucfirst", ofText (changeFirst Text.upper)),
  ("lcfirst", ofText (changeFirst Text.lower)),
  ("invertCase", ofText fun text => text.flatMap otherCase),
  ("maximize", ofText Text.upperText),
  ("upper", ofText Text.upperText),
  ("minimize", ofText Text.lowerText),
  ("lower", ofText Text.lowerText),
  ("trim", ofText Text.trim),
  ("nl2br", ofText breakLines),
  ("slugify", ofText slug),
  ("cut", cut),
  ("paragraphy", ofText markParagraphs),
  ("void", fun input _ => .ok input),
  ("defaults", defaults)]

/-- The names of the standard filters. -/
def Filters.builtinNames : List String :=
  Table.names Filters.builtin

end TemplateEngine
