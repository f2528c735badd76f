/-!
# Finding and replacing in a text

The small searches that templates, query strings and filters share.  All of them
go from left to right and take the first match.
-/

namespace TemplateEngine.Text

/-- Splits a text at the first occurrence of `pattern`: what stands before and
what stands after it. -/
def splitAround? (pattern : List Char) :
    List Char → Option (List Char × List Char)
  | [] => (List.isPrefixOf? pattern []).map fun rest => ([], rest)
  | character :: text =>
    match List.isPrefixOf? pattern (character :: text) with
    | some rest => some ([], rest)
    | none =>
      (splitAround? pattern text).map fun (before, after) =>
        (character :: before, after)

/-- Replaces the occurrences of `pattern` in a text of which the first `skip`
characters belong to an occurrence that is already replaced. -/
def replaceFrom (pattern replacement : List Char) :
    (skip : Nat) → List Char → List Char
  | _, [] => []
  | skip + 1, _ :: text => replaceFrom pattern replacement skip text
  | 0, character :: text =>
    match List.isPrefixOf? pattern (character :: text) with
    | some _ =>
      replacement ++ replaceFrom pattern replacement (pattern.length - 1) text
    | none => character :: replaceFrom pattern replacement 0 text

/-- Replaces every occurrence of a non-empty `pattern`. -/
def replaceAll (pattern replacement text : List Char) : List Char :=
  replaceFrom pattern replacement 0 text

/-- Splits a text at the first `separator`. -/
def splitFirst? (separator : Char) :
    List Char → Option (List Char × List Char)
  | [] => none
  | character :: text =>
    if character = separator then some ([], text)
    else
      (splitFirst? separator text).map fun (before, after) =>
        (character :: before, after)

end TemplateEngine.Text
