import TemplateEngine.Markup.InclusionKind
import TemplateEngine.Markup.Placeholder
import TemplateEngine.Text.Search

/-!
# Tags

A tag counts as one only if its name, its form and all its attributes are those
of a tag of the language and the feature it belongs to is switched on.  Every
other tag is literal text.  The recognised tags are

    <foreach ary="{$ITEMS}" as="item"> <foreachelse /> </foreach>
    <block name="child" parent="parent">
    <if cond="{$A} > 1"> <elseif cond="{$B}" /> <else /> </if>
    <include tpl="header.html?title=Home" once="true" />
    <require tpl="{$PAGE}" />
    <set var="TITLE[main]">Home of {$USER}</set>

where a block ends with the closing tag of `foreach`.
-/

namespace TemplateEngine.Markup

/-- The template that an inclusion names. -/
inductive Destination
  /-- A literal path with the parameters of its query string. -/
  | path (path : String) (query : List (String × Part))
  /-- A path that is computed when rendering. -/
  | dynamic (placeholder : Placeholder)

/-- A tag of the template language. -/
inductive Tag
  | foreach (collection : Placeholder) (rowAlias : Option String)
  | foreachElse
  | endForeach
  | block (name : String) (parent : Option String)
  | condition (parts : List Part)
  | elseIf (parts : List Part)
  | otherwise
  | endCondition
  | inclusion (kind : InclusionKind) (destination : Destination) (once : Bool)
  | set (name : String) (subscripts : List Argument) (body : List Part)

/-- The attributes of a tag in their order. -/
abbrev Attributes := List (String × List Char)

/-- Takes out the first attribute that has one of some names. -/
def Attributes.take (names : List String) (attributes : Attributes) :
    Option (List Char) × Attributes :=
  ((attributes.find? fun entry => names.contains entry.1).map Prod.snd,
    attributes.eraseP fun entry => names.contains entry.1)

/-- Takes out an attribute that must be there. -/
def Attributes.require (names : List String) (attributes : Attributes) :
    Scanner (List Char × Attributes) := do
  let (value, others) := attributes.take names
  return (← Scanner.some? value, others)

/-- The name of a tag, its attributes, and whether it closes itself. -/
structure Head where
  name : String
  attributes : Attributes
  selfClosing : Bool

/-- Reads attributes up to the end of a tag, each after a blank: what they are
and whether the tag closes itself.  The fuel bounds their number. -/
def Head.scanAttributes (tagNamespace : List Char) :
    Nat → Scanner (Attributes × Bool)
  | 0 => Scanner.nothing
  | fuel + 1 => do
    let spaced ← Scanner.skipBlanks
    if ← Scanner.takes ['/', '>'] then
      return ([], true)
    else if ← Scanner.takes ['>'] then
      return ([], false)
    else
      Scanner.ensure spaced
      Scanner.exactly tagNamespace
      let name ← Scanner.name
      Scanner.exactly ['=', '"']
      let value ← Scanner.takeUntil (· == '"')
      Scanner.exactly ['"']
      let (others, selfClosing) ← Head.scanAttributes tagNamespace fuel
      return ((name, value) :: others, selfClosing)

/-- Reads a tag that opens something or closes itself. -/
def Head.scan (tagNamespace : List Char) : Scanner Head := do
  Scanner.exactly ['<']
  Scanner.exactly tagNamespace
  let name ← Scanner.name
  let (attributes, selfClosing) ← fun text =>
    Head.scanAttributes tagNamespace (text.length + 1) text
  return ⟨name, attributes, selfClosing⟩

namespace Tag

def scanClosing (options : Options) : Scanner Tag := do
  Scanner.exactly ['<', '/']
  Scanner.exactly options.tagNamespace
  if ← Scanner.takes "foreach>".toList then
    return endForeach
  else
    Scanner.ensure options.conditions
    Scanner.exactly "if>".toList
    return endCondition

/-- The iteration over a collection; its alias is a name without dots. -/
def foreachOf (options : Options) (attributes : Attributes) :
    Scanner (Tag × Attributes) := do
  let (collection, attributes) ← attributes.require ["ary", "array"]
  let collection ← Scanner.within collection (Placeholder.scanValue options)
  let (rowAlias, attributes) := attributes.take ["as", "name"]
  Scanner.ensure (rowAlias.all Text.isName)
  return (foreach collection (rowAlias.map String.ofList), attributes)

/-- The iteration over the rows of a block; its name has no dots, the path of
its parent may. -/
def blockOf (attributes : Attributes) : Scanner (Tag × Attributes) := do
  let (name, attributes) ← attributes.require ["name"]
  let (parent, attributes) := attributes.take ["parent"]
  Scanner.ensure (Text.isName name && parent.all Text.isDottedName)
  return (block (String.ofList name) (parent.map String.ofList), attributes)

/-- The text of a condition, which is not blank. -/
def conditionOf (options : Options) (attributes : Attributes) :
    Scanner (List Part × Attributes) := do
  let (text, attributes) ← attributes.require ["cond", "condition"]
  Scanner.ensure !Text.isAllBlank text
  return (← Scanner.lift (Part.split options text), attributes)

/-- Splits a path at its query string.  The path is not empty and holds no
question mark, brace or quote, the query string no line break. -/
def splitPath? (text : List Char) : Option (List Char × List Char) :=
  let isPathCharacter (character : Char) : Bool :=
    !(character == '?' || character == '\x7b' || character == '\x7d' ||
      character == '"')
  let path := text.takeWhile isPathCharacter
  if path.isEmpty then none
  else
    match text.dropWhile isPathCharacter with
    | [] => some (path, [])
    | '?' :: query => if query.contains '\n' then none else some (path, query)
    | _ => none

/-- A parameter of a query string: a name that is not empty, and a value or a
literal text. -/
def parameterOf (options : Options) (pair : List Char) :
    Scanner (String × Part) := do
  let (name, value) := (Text.splitFirst? '=' pair).getD (pair, [])
  Scanner.ensure !name.isEmpty
  let value ← fun text =>
    match Scanner.within value (Placeholder.scanValue options) text with
    | .ok none => .ok (some (Part.text (String.ofList value), text))
    | .ok (some (placeholder, text)) =>
      .ok (some (Part.value placeholder, text))
    | .error error => .error error
  return (String.ofList name, value)

/-- The parameters of a query string, in their order. -/
def parametersOf (options : Options) :
    List (List Char) → Scanner (List (String × Part))
  | [] => pure []
  | pair :: pairs => do
    let parameter ← parameterOf options pair
    let parameters ← parametersOf options pairs
    return parameter :: parameters

/-- The template an inclusion names: a single value, or a literal path. -/
def destinationOf (options : Options) (template : List Char) :
    Scanner Destination :=
  fun text =>
    match Scanner.within template (Placeholder.scanValue options) text with
    | .error error => .error error
    | .ok (some (placeholder, text)) => .ok (some (.dynamic placeholder, text))
    | .ok none =>
      (do
        let (path, query) ← Scanner.some? (splitPath? template)
        let pairs := (List.splitOn '&' query).filter fun pair => !pair.isEmpty
        let parameters ← parametersOf options pairs
        return .path (String.ofList path) parameters : Scanner Destination) text

/-- The inclusion of a template, at most once if it says so. -/
def inclusionOf (options : Options) (kind : InclusionKind)
    (attributes : Attributes) : Scanner (Tag × Attributes) := do
  let (template, attributes) ← attributes.require ["tpl"]
  let (once, attributes) := attributes.take ["once"]
  let once ← Scanner.some? <|
    match once with
    | none => some false
    | some value =>
      if value = "false".toList then some false
      else if value = "true".toList then some true
      else none
  let destination ← destinationOf options template
  return (inclusion kind destination once, attributes)

/-- The assignment of the text up to its closing tag, which is not empty.  The
target is the only attribute. -/
def setOf (options : Options) (attributes : Attributes) : Scanner Tag := do
  let (target, attributes) ← attributes.require ["var"]
  Scanner.ensure attributes.isEmpty
  let (name, subscripts) ← Scanner.within target
    (Placeholder.scanTarget options)
  let body ← fun text =>
    match Text.splitAround?
      ("</".toList ++ options.tagNamespace ++ "set>".toList) text with
    | none => .ok none
    | some (body, rest) => .ok (some (body, rest))
  Scanner.ensure !body.isEmpty
  return set name subscripts (← Scanner.lift (Part.split options body))

/-- The tag that a name and attributes make, after which no attribute is left
over. -/
def complete (tag : Scanner (Tag × Attributes)) : Scanner Tag := do
  let (tag, attributes) ← tag
  Scanner.ensure attributes.isEmpty
  return tag

/-- The tag with a given head. -/
def ofHead (options : Options) (head : Head) : Scanner Tag :=
  match head.name, head.selfClosing with
  | "foreach", false => complete (foreachOf options head.attributes)
  | "foreachelse", true => complete (pure (foreachElse, head.attributes))
  | "block", false => complete (blockOf head.attributes)
  | "if", false => do
    Scanner.ensure options.conditions
    complete do
      let (parts, attributes) ← conditionOf options head.attributes
      return (condition parts, attributes)
  | "elseif", true => elseIfOf
  | "elif", true => elseIfOf
  | "else", true => do
    Scanner.ensure options.conditions
    complete (pure (otherwise, head.attributes))
  | "include", true => do
    Scanner.ensure options.inclusion
    complete (inclusionOf options .optional head.attributes)
  | "require", true => do
    Scanner.ensure options.inclusion
    complete (inclusionOf options .required head.attributes)
  | "set", false => do
    Scanner.ensure options.sets
    setOf options head.attributes
  | _, _ => Scanner.nothing
where
  /-- A further condition, under either of its two names. -/
  elseIfOf : Scanner Tag := do
    Scanner.ensure options.conditions
    complete do
      let (parts, attributes) ← conditionOf options head.attributes
      return (elseIf parts, attributes)

def scan (options : Options) : Scanner Tag :=
  fun text =>
    match text with
    | '<' :: '/' :: _ => scanClosing options text
    | _ =>
      (do
        let head ← Head.scan options.tagNamespace
        ofHead options head : Scanner Tag) text

end Tag
end TemplateEngine.Markup
