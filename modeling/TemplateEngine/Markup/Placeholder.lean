import TemplateEngine.Markup.Options
import TemplateEngine.Markup.Scanner

/-!
# Placeholders

A placeholder stands between braces and names a variable, a field or a constant,
with subscripts and filters.  No blank is allowed inside.  With a dollar sign
after the brace it is a value, as attributes, subscripts and filter arguments
use it; without one it prints.

    {NAME}  {$NAME}  {item.value}  {__VERSION__}
    {NAME[0]['key'][{$K}]}  {NAME|cut:20:'...'|upper}

What does not have this form is no placeholder.
-/

namespace TemplateEngine.Markup

mutual

/-- A placeholder as it is written. -/
structure Placeholder where
  /-- The whole text with its braces. -/
  raw : String
  /-- Whether it is a value and not something to print. -/
  isValue : Bool
  /-- Whether it names a host constant. -/
  isConstant : Bool
  /-- The first of the names joined by dots. -/
  first : String
  /-- The further names. -/
  rest : List String
  subscripts : List Argument
  filters : List FilterCall

/-- A subscript or an argument of a filter as it is written. -/
inductive Argument
  /-- A text without quotes, which may be an integer. -/
  | bare (text : String)
  /-- A text between quotes. -/
  | quoted (text : String)
  /-- A value between braces. -/
  | value (placeholder : Placeholder)

structure FilterCall where
  name : String
  arguments : List Argument

end

/-- A constant has two underscores at both ends and something between them. -/
def Placeholder.namesConstant (name : String) : Bool :=
  let characters := name.toList
  4 < characters.length && characters.take 2 == ['_', '_'] &&
    characters.drop (characters.length - 2) == ['_', '_']

/-- Reads an argument: a value if a brace follows, a quoted text if a quote
follows, and otherwise a bare text up to a character of a kind. -/
def Argument.scan (nested : Scanner Placeholder) (stop : Char → Bool) :
    Scanner Argument :=
  fun text =>
    match text with
    | '\x7b' :: _ =>
      (do
        let placeholder ← nested
        Scanner.ensure placeholder.isValue
        return .value placeholder : Scanner Argument) text
    | '\'' :: _ => (return .quoted (← Scanner.quoted) : Scanner Argument) text
    | '"' :: _ => (return .quoted (← Scanner.quoted) : Scanner Argument) text
    | _ => (return .bare (← Scanner.bare stop) : Scanner Argument) text

def Argument.endsSubscript (character : Char) : Bool :=
  character == ']' || character == '[' || character == '\x7b' ||
    character == '\x7d' || character == '\'' || character == '"'

/-- Where a bare argument of a filter ends. -/
def Argument.endsFilterArgument (character : Char) : Bool :=
  character == ':' || character == '|' || character == '\x7b' ||
    character == '\x7d'

def Placeholder.scanSubscripts (nested : Scanner Placeholder) :
    Scanner (List Argument) :=
  Scanner.manyAfter '[' do
    let subscript ← Argument.scan nested Argument.endsSubscript
    Scanner.exactly [']']
    return subscript

/-- Reads filters after bars, with arguments after colons. -/
def Placeholder.scanFilters (nested : Scanner Placeholder) :
    Scanner (List FilterCall) :=
  Scanner.manyAfter '|' do
    let name ← Scanner.name
    let arguments ← Scanner.manyAfter ':'
      (Argument.scan nested Argument.endsFilterArgument)
    return ⟨name, arguments⟩

/-- Reads a placeholder, given how the placeholders inside it are read. -/
def Placeholder.scanAround (options : Options) (nested : Scanner Placeholder) :
    Scanner Placeholder := do
  let (placeholder, raw) ← Scanner.withText do
    Scanner.exactly ['\x7b']
    let isValue ← Scanner.takes ['$']
    let first ← Scanner.name
    let rest ← Scanner.manyAfter '.' Scanner.name
    let subscripts ← Placeholder.scanSubscripts nested
    let filters ←
      if options.filters then Placeholder.scanFilters nested else pure []
    Scanner.exactly ['\x7d']
    return ({
      raw := ""
      isValue
      isConstant :=
        options.constants && rest.isEmpty && Placeholder.namesConstant first
      first, rest, subscripts, filters } : Placeholder)
  return { placeholder with raw := String.ofList raw }

/-- Reads a placeholder that may be nested within a number of levels. -/
def Placeholder.scan (options : Options) : (levels : Nat) → Scanner Placeholder
  | 0 => Scanner.fail .tooDeep
  | levels + 1 =>
    Placeholder.scanAround options (Placeholder.scan options levels)

def Placeholder.scanPrint (options : Options) : Scanner Placeholder := do
  let placeholder ← Placeholder.scan options (maxDepth + 1)
  Scanner.ensure !placeholder.isValue
  return placeholder

/-- Reads a placeholder that is a value.  It counts as nested in the tag that
holds it. -/
def Placeholder.scanValue (options : Options) : Scanner Placeholder := do
  let placeholder ← Placeholder.scan options maxDepth
  Scanner.ensure placeholder.isValue
  return placeholder

/-- A piece of free text with values in it. -/
inductive Part
  | text (text : String)
  | value (placeholder : Placeholder)

/-- Splits free text at its values. -/
def Part.split (options : Options) (text : List Char) :
    Except SyntaxError (List Part) :=
  (Scanner.split (Placeholder.scanValue options) text).map fun pieces =>
    pieces.map fun
      | .plain text => .text (String.ofList text)
      | .construct placeholder => .value placeholder

/-- Reads the target of an assignment: a name with subscripts. -/
def Placeholder.scanTarget (options : Options) :
    Scanner (String × List Argument) := do
  let name ← Scanner.name
  let subscripts ← Placeholder.scanSubscripts
    (Placeholder.scan options (maxDepth - 1))
  return (name, subscripts)

end TemplateEngine.Markup
