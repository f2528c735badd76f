import TemplateEngine.Markup.Token
import TemplateEngine.Number.Whole
import TemplateEngine.Program.Basic

/-!
# Resolved placeholders

A name with dots belongs to an enclosing iteration if its first part is the
alias of one, and to the block tree otherwise.  The filters of a placeholder
become calls around its access, the first filter innermost.  A filter that the
catalog does not know is left out, with its arguments; each one left out is
reported.
-/

namespace TemplateEngine

/-- The names of the filters that exist. -/
abbrev Catalog := String → Bool

/-- The catalog in which every filter exists: whether one does is then decided
when rendering. -/
def Catalog.deferred : Catalog := fun _ => true

/-- The aliases and numbers of the open iterations, innermost first. -/
abbrev Scope := List (String × Nat)

/-- Rows of collections hold their item in the field `value`; `val` is accepted
for it. -/
def fieldName (name : String) : String :=
  if name = "val" then "value" else name

/-- What a name with dots refers to. -/
def Scope.reference (scope : Scope) (first : String) (rest : List String) :
    Reference :=
  match rest.getLast? with
  | none => .var first
  | some last =>
    match scope.lookup first with
    | some id => .frame id first rest.dropLast (fieldName last)
    | none => .block (first :: rest.dropLast) (fieldName last)

/-- The name of a constant without the underscores around it. -/
def constantName (name : String) : String :=
  let characters := name.toList
  String.ofList ((characters.take (characters.length - 2)).drop 2)

/-- A bare argument: an integer if it is the usual spelling of one, and a text
otherwise. -/
def Argument.ofBare (text : String) : Argument :=
  let digits :=
    match text.toList with
    | '+' :: digits => digits
    | '-' :: digits => digits
    | digits => digits
  if digits.head? == some '0' && digits.length != 1 then .text text
  else
    match Number.integer? text.toList with
    | some number => .int number
    | none => .text text

namespace Markup

mutual

def Placeholder.resolve (known : Catalog) (scope : Scope) : Placeholder → Expr
  | ⟨_, _, isConstant, first, rest, subscripts, filters⟩ =>
    FilterCall.applyAll known scope
      (.access
        (if isConstant then .const (constantName first)
          else scope.reference first rest)
        (Argument.resolveAll known scope subscripts)) filters

def Argument.resolve (known : Catalog) (scope : Scope) :
    Argument → TemplateEngine.Argument
  | .bare text => .ofBare text
  | .quoted text => .text text
  | .value placeholder => .expr (placeholder.resolve known scope)

def Argument.resolveAll (known : Catalog) (scope : Scope) :
    List Argument → List TemplateEngine.Argument
  | [] => []
  | argument :: others =>
    Argument.resolve known scope argument ::
      Argument.resolveAll known scope others

/-- The calls of known filters around an expression. -/
def FilterCall.applyAll (known : Catalog) (scope : Scope) :
    Expr → List FilterCall → Expr
  | input, [] => input
  | input, ⟨name, arguments⟩ :: calls =>
    FilterCall.applyAll known scope
      (if known name then .filter name input
        (Argument.resolveAll known scope arguments)
        else input)
      calls

end

mutual

/-- The warnings about a placeholder: first those about its subscripts, then
those about the arguments of all its filters, then its own unknown filters. -/
def Placeholder.warnings (known : Catalog) : Placeholder → List Warning
  | ⟨raw, _, _, _, _, subscripts, filters⟩ =>
    Argument.allWarnings known subscripts ++
      FilterCall.allWarnings known filters ++
      (filters.filter fun call => !known call.name).map fun call =>
        ⟨call.name, excerpt raw.toList⟩

/-- The warnings about a subscript or an argument. -/
def Argument.warnings (known : Catalog) : Argument → List Warning
  | .bare _ => []
  | .quoted _ => []
  | .value placeholder => placeholder.warnings known

/-- The warnings about subscripts or arguments. -/
def Argument.allWarnings (known : Catalog) : List Argument → List Warning
  | [] => []
  | argument :: others =>
    Argument.warnings known argument ++ Argument.allWarnings known others

/-- The warnings about the arguments of filters. -/
def FilterCall.allWarnings (known : Catalog) : List FilterCall → List Warning
  | [] => []
  | ⟨_, arguments⟩ :: calls =>
    Argument.allWarnings known arguments ++ FilterCall.allWarnings known calls

end

def Part.resolve (known : Catalog) (scope : Scope) : Part → Piece
  | .text content => .text content
  | .value placeholder => .expr (placeholder.resolve known scope)

/-- The warnings about a piece of text. -/
def Part.warnings (known : Catalog) : Part → List Warning
  | .text _ => []
  | .value placeholder => placeholder.warnings known

/-- The template that an inclusion names. -/
def Destination.resolve (known : Catalog) (scope : Scope) : Destination → Target
  | .path name query =>
    .path name
      (query.map fun (field, value) => (field, value.resolve known scope))
  | .dynamic placeholder => .dynamic (placeholder.resolve known scope)

/-- The warnings about the template that an inclusion names. -/
def Destination.warnings (known : Catalog) : Destination → List Warning
  | .path _ query => query.flatMap fun (_, value) => value.warnings known
  | .dynamic placeholder => placeholder.warnings known

def Tag.warnings (known : Catalog) : Tag → List Warning
  | .foreach collection _ => collection.warnings known
  | .condition parts => parts.flatMap (Part.warnings known)
  | .elseIf parts => parts.flatMap (Part.warnings known)
  | .inclusion _ destination _ => destination.warnings known
  | .set _ subscripts body =>
    Argument.allWarnings known subscripts ++ body.flatMap (Part.warnings known)
  | _ => []

def Token.warnings (known : Catalog) : Token → List Warning
  | .text _ => []
  | .print placeholder => placeholder.warnings known
  | .tag found _ => found.warnings known

end Markup
end TemplateEngine
