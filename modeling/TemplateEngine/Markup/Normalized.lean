import TemplateEngine.Markup.Options
import TemplateEngine.Text.Search

/-!
# Normalized sources

Before a template is read, its comments are dropped and two older spellings of
tags are replaced by those in use.  A comment that is not closed is text.
-/

namespace TemplateEngine.Markup

/-- Whether a comment is closed somewhere in a text. -/
def closesComment : List Char → Bool
  | [] => false
  | '*' :: '/' :: _ => true
  | _ :: text => closesComment text

/-- Drops comments from a text that starts outside or inside a closed
comment. -/
def dropCommentsFrom : (inside : Bool) → List Char → List Char
  | _, [] => []
  | false, '/' :: '*' :: text =>
    if closesComment text then dropCommentsFrom true text
    else '/' :: '*' :: text
  | true, '*' :: '/' :: text => dropCommentsFrom false text
  | false, character :: text => character :: dropCommentsFrom false text
  | true, _ :: text => dropCommentsFrom true text

def dropComments (text : List Char) : List Char :=
  dropCommentsFrom false text

/-- A source without comments and older spellings. -/
def normalize (tagNamespace source : List Char) : List Char :=
  Text.replaceAll ("</".toList ++ tagNamespace ++ "block>".toList)
    ("</".toList ++ tagNamespace ++ "foreach>".toList)
    (Text.replaceAll ("<".toList ++ tagNamespace ++ "blockelse />".toList)
      ("<".toList ++ tagNamespace ++ "foreachelse />".toList)
      (dropComments source))

end TemplateEngine.Markup
