import TemplateEngine.Text.Search

/-!
# Filters for markup

Escaping for HTML and back, and line breaks as markup.
-/

namespace TemplateEngine.Filter

/-- A character that is written as an entity in HTML. -/
def entity : Char → List Char
  | '&' => "&amp;".toList
  | '<' => "&lt;".toList
  | '>' => "&gt;".toList
  | '"' => "&quot;".toList
  | character => [character]

/-- Replaces the characters with a meaning in HTML by entities. -/
def protect (text : List Char) : List Char :=
  text.flatMap entity

/-- Replaces entities by the characters they stand for, the ampersand last. -/
def safe (text : List Char) : List Char :=
  Text.replaceAll "&amp;".toList ['&']
    (Text.replaceAll "&gt;".toList ['>']
      (Text.replaceAll "&lt;".toList ['<']
        (Text.replaceAll "&quot;".toList ['"'] text)))

/-- The tag of a line break. -/
def lineBreak : List Char := "<br />".toList

/-- Puts a tag in front of every line break.  A carriage return and a line feed,
in either order, are one line break. -/
def breakLines : List Char → List Char
  | [] => []
  | '\r' :: '\n' :: text => lineBreak ++ '\r' :: '\n' :: breakLines text
  | '\n' :: '\r' :: text => lineBreak ++ '\n' :: '\r' :: breakLines text
  | '\r' :: text => lineBreak ++ '\r' :: breakLines text
  | '\n' :: text => lineBreak ++ '\n' :: breakLines text
  | character :: text => character :: breakLines text

/-- The parts of a text between runs of at least two line feeds, read inside
such a run or outside. -/
def paragraphsFrom : (inside : Bool) → List Char → List (List Char)
  | _, [] => [[]]
  | true, '\n' :: text => paragraphsFrom true text
  | false, '\n' :: '\n' :: text => [] :: paragraphsFrom true text
  | _, character :: text =>
    match paragraphsFrom false text with
    | [] => [[character]]
    | paragraph :: paragraphs => (character :: paragraph) :: paragraphs

/-- Marks up paragraphs, which empty lines separate, and the line breaks inside
them. -/
def markParagraphs (text : List Char) : List Char :=
  let paragraphs :=
    paragraphsFrom false (Text.replaceAll ['\r', '\n'] ['\n'] text)
  "<p>".toList ++
    List.intercalate "</p>\n\n<p>".toList
      (paragraphs.map (Text.replaceAll ['\n'] (lineBreak ++ ['\n']))) ++
    "</p>".toList

end TemplateEngine.Filter
