import TemplateEngine.Template.Node
import TemplateEngine.Template.Resolved

/-!
# Matching tags

Tokens are read one after the other.  An opening tag opens a construct, into
which the following nodes go until its closing tag; the constructs that are open
at a time form a stack, innermost first.  Iterations are numbered from 1 in the
order of their opening tags.
-/

namespace TemplateEngine

open Markup (Token Tag Part)

/-- A construct that is not closed yet, with the nodes of the part that is being
read. -/
inductive OpenConstruct
  /-- An iteration in its part for each row. -/
  | rows (tag : TagName) (raw : String) (id : Nat) (rowAlias : String)
      (source : Source) (nodes : List Node)
  /-- An iteration in its part for no rows. -/
  | noRows (tag : TagName) (raw : String) (id : Nat) (rowAlias : String)
      (source : Source) (body nodes : List Node)
  /-- A condition in a branch, with the branches before, last first. -/
  | branch (raw : String) (earlier : List (Condition × List Node))
      (condition : Condition) (nodes : List Node)
  /-- A condition in the branch for the case that no condition holds. -/
  | otherwise (raw : String) (earlier : List (Condition × List Node))
      (condition : Condition) (body nodes : List Node)

namespace OpenConstruct

/-- Adds a node to the part that is being read. -/
def add (node : Node) : OpenConstruct → OpenConstruct
  | rows tag raw id rowAlias source nodes =>
    rows tag raw id rowAlias source (nodes ++ [node])
  | noRows tag raw id rowAlias source body nodes =>
    noRows tag raw id rowAlias source body (nodes ++ [node])
  | branch raw earlier condition nodes =>
    branch raw earlier condition (nodes ++ [node])
  | otherwise raw earlier condition body nodes =>
    otherwise raw earlier condition body (nodes ++ [node])

/-- The alias and number that an iteration gives to the placeholders in its part
for each row. -/
def binding? : OpenConstruct → Option (String × Nat)
  | rows _ _ id rowAlias _ _ => some (rowAlias, id)
  | _ => none

/-- The error for a construct without its closing tag. -/
def unclosed : OpenConstruct → SyntaxError
  | rows tag raw _ _ _ _ => .of (.unclosed tag) raw.toList
  | noRows tag raw _ _ _ _ _ => .of (.unclosed tag) raw.toList
  | branch raw _ _ _ => .of (.unclosed .condition) raw.toList
  | otherwise raw _ _ _ _ => .of (.unclosed .condition) raw.toList

end OpenConstruct

/-- How far a template has been read: the open constructs, innermost first, the
nodes outside of all, and the number of the next iteration. -/
structure Nesting where
  stack : List OpenConstruct
  nodes : List Node
  nextId : Nat

namespace Nesting

def start : Nesting := ⟨[], [], 1⟩

/-- The aliases and numbers of the open iterations, innermost first. -/
def scope (nesting : Nesting) : Scope :=
  nesting.stack.filterMap OpenConstruct.binding?

/-- Adds a node to the innermost construct. -/
def add (nesting : Nesting) (node : Node) : Nesting :=
  match nesting.stack with
  | [] => { nesting with nodes := nesting.nodes ++ [node] }
  | top :: stack => { nesting with stack := top.add node :: stack }

/-- Closes the innermost construct, of which `node` has been made. -/
def close (nesting : Nesting) (stack : List OpenConstruct) (node : Node) :
    Nesting :=
  { nesting with stack }.add node

def openRows (nesting : Nesting) (tag : TagName) (raw rowAlias : String)
    (source : Source) : Except SyntaxError Nesting :=
  if maxDepth ≤ nesting.stack.length then .error (.of .tooDeep raw.toList)
  else
    .ok { nesting with
      stack := .rows tag raw nesting.nextId rowAlias source [] :: nesting.stack
      nextId := nesting.nextId + 1 }

/-- The rows of a block: those of an enclosing iteration if its parent is the
alias of one, and those at the path below its parent otherwise. -/
def blockSource (nesting : Nesting) (name : String) : Option String → Source
  | none => .path [name]
  | some parent =>
    match nesting.scope.lookup parent with
    | some id => .nested id name
    | none =>
      .path ((List.splitOn '.' parent.toList).map String.ofList ++ [name])

def readTag (known : Catalog) (nesting : Nesting) (tag : Tag) (raw : String) :
    Except SyntaxError Nesting :=
  let pieces (parts : List Part) : List Piece :=
    parts.map (Part.resolve known nesting.scope)
  match tag with
  | .foreach collection rowAlias =>
    nesting.openRows .foreach raw (rowAlias.getD collection.first)
      (.collection (collection.resolve known nesting.scope))
  | .block name parent =>
    nesting.openRows .block raw name (nesting.blockSource name parent)
  | .condition parts =>
    if maxDepth ≤ nesting.stack.length then .error (.of .tooDeep raw.toList)
    else .ok { nesting with
      stack := .branch raw [] ⟨pieces parts⟩ [] :: nesting.stack }
  | .foreachElse =>
    match nesting.stack with
    | .rows tag raw id rowAlias source body :: stack =>
      .ok { nesting with
        stack := .noRows tag raw id rowAlias source body [] :: stack }
    | _ => .error (.of (.misplaced .foreachElse) raw.toList)
  | .endForeach =>
    match nesting.stack with
    | .rows _ _ id rowAlias source body :: stack =>
      .ok (nesting.close stack (.each id rowAlias source body none))
    | .noRows _ _ id rowAlias source body empty :: stack =>
      .ok (nesting.close stack (.each id rowAlias source body (some empty)))
    | _ => .error (.of (.unexpected .foreach) raw.toList)
  | .elseIf parts =>
    match nesting.stack with
    | .branch raw earlier condition body :: stack =>
      .ok { nesting with
        stack :=
          .branch raw ((condition, body) :: earlier) ⟨pieces parts⟩ [] ::
            stack }
    | _ => .error (.of (.misplaced .elseIf) raw.toList)
  | .otherwise =>
    match nesting.stack with
    | .branch raw earlier condition body :: stack =>
      .ok { nesting with
        stack := .otherwise raw earlier condition body [] :: stack }
    | _ => .error (.of (.misplaced .otherwise) raw.toList)
  | .endCondition =>
    match nesting.stack with
    | .branch _ earlier condition body :: stack =>
      .ok (nesting.close stack (.ofBranches earlier condition body .done))
    | .otherwise _ earlier condition body last :: stack =>
      .ok (nesting.close stack
        (.ofBranches earlier condition body (.otherwise last)))
    | _ => .error (.of (.unexpected .condition) raw.toList)
  | .inclusion kind destination once =>
    .ok (nesting.add
      (.inclusion (destination.resolve known nesting.scope) once kind))
  | .set name subscripts body =>
    .ok (nesting.add (.set name
      (Markup.Argument.resolveAll known nesting.scope subscripts)
      (pieces body)))

def read (known : Catalog) (nesting : Nesting) :
    Token → Except SyntaxError Nesting
  | .text text => .ok (nesting.add (.text text))
  | .print placeholder =>
    .ok (nesting.add (.print (placeholder.resolve known nesting.scope)))
  | .tag tag raw => nesting.readTag known tag raw

/-- Reads tokens one after the other. -/
def readAll (known : Catalog) :
    Nesting → List Token → Except SyntaxError Nesting
  | nesting, [] => .ok nesting
  | nesting, token :: tokens =>
    match nesting.read known token with
    | .error error => .error error
    | .ok nesting => readAll known nesting tokens

/-- The nodes of a template that has been read to its end. -/
def finish (nesting : Nesting) : Except SyntaxError (List Node) :=
  match nesting.stack with
  | [] => .ok nesting.nodes
  | top :: _ => .error top.unclosed

end Nesting

/-- The nodes of a template with given tokens. -/
def Node.ofTokens (known : Catalog) (tokens : List Token) :
    Except SyntaxError (List Node) :=
  match Nesting.start.readAll known tokens with
  | .error error => .error error
  | .ok nesting => nesting.finish

end TemplateEngine
