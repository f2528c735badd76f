import TemplateEngine.Json.Decode
import TemplateEngine.Program.Basic

/-!
# Programs as JSON

Caches and bundles hold programs as JSON.  A choice is an object with the name
of its alternative, a record an object with its fields in a fixed order.
-/

namespace TemplateEngine

/-! ## Writing -/

/-- The JSON form of a reference. -/
def Reference.toJson : Reference → Json
  | .var name => .tagged "Var" (.text name)
  | .const name => .tagged "Const" (.text name)
  | .frame id rowAlias path field =>
    .tagged "Frame" (.record [("frame", .count id), ("alias", .text rowAlias),
      ("path", .texts path), ("field", .text field)])
  | .block path field =>
    .tagged "Block" (.record [("path", .texts path), ("field", .text field)])

mutual

/-- The JSON form of an expression. -/
def Expr.toJson : Expr → Json
  | .access reference subscripts =>
    .tagged "Access" (.record [("reference", reference.toJson),
      ("subscripts", .array (Argument.allToJson subscripts))])
  | .filter name input arguments =>
    .tagged "Filter" (.record [("name", .text name), ("input", input.toJson),
      ("args", .array (Argument.allToJson arguments))])

/-- The JSON form of a subscript or an argument. -/
def Argument.toJson : Argument → Json
  | .int number => .tagged "Int" (.int number)
  | .text content => .tagged "Str" (.text content)
  | .expr inner => .tagged "Expr" inner.toJson

/-- The JSON forms of subscripts or arguments. -/
def Argument.allToJson : List Argument → List Json
  | [] => []
  | argument :: others => argument.toJson :: Argument.allToJson others

end

/-- The JSON form of a piece. -/
def Piece.toJson : Piece → Json
  | .text content => .tagged "Text" (.text content)
  | .expr inner => .tagged "Expr" inner.toJson

/-- The JSON form of a condition. -/
def Condition.toJson (condition : Condition) : Json :=
  .record [("pieces", .array (condition.pieces.map Piece.toJson))]

/-- The JSON form of the rows of an iteration. -/
def Source.toJson : Source → Json
  | .collection expr => .tagged "Collection" expr.toJson
  | .nested frame name =>
    .tagged "Nested" (.record [("frame", .count frame), ("name", .text name)])
  | .path segments => .tagged "Path" (.texts segments)

/-- The JSON form of the template of an inclusion. -/
def Target.toJson : Target → Json
  | .path name query =>
    .tagged "Path" (.record [("path", .text name),
      ("query",
        .array (query.map fun (field, value) =>
          .array [.text field, value.toJson]))])
  | .dynamic expr => .tagged "Dynamic" expr.toJson

/-- The JSON form of a kind of inclusion. -/
def InclusionKind.toJson : InclusionKind → Json
  | .optional => .text "Include"
  | .required => .text "Require"

/-- The JSON form of an instruction. -/
def Instruction.toJson : Instruction → Json
  | .text content => .tagged "Text" (.text content)
  | .print expr => .tagged "Print" expr.toJson
  | .set name subscripts value =>
    .tagged "Set" (.record [("name", .text name),
      ("subscripts", .array (Argument.allToJson subscripts)),
      ("value", .array (value.map Piece.toJson))])
  | .branch condition next =>
    .tagged "If" (.record [("cond", condition.toJson), ("next", .count next)])
  | .elseBranch condition next exit =>
    .tagged "ElseIf" (.record [("cond", condition.toJson),
      ("next", .count next), ("end", .count exit)])
  | .otherwise exit => .tagged "Else" (.record [("end", .count exit)])
  | .endBranch => .text "EndIf"
  | .openBlock id rowAlias source skip =>
    .tagged "BlockOpen" (.record [("id", .count id), ("alias", .text rowAlias),
      ("source", source.toJson), ("skip", .count skip)])
  | .elseBlock id body exit =>
    .tagged "BlockElse" (.record [("id", .count id), ("body", .count body),
      ("end", .count exit)])
  | .closeBlock id body =>
    .tagged "BlockClose" (.record [("id", .count id), ("body", .count body)])
  | .inclusion target once kind =>
    .tagged "Include" (.record [("target", target.toJson), ("once", .bool once),
      ("kind", kind.toJson)])

/-- The JSON form of a program. -/
def Program.toJson (program : Program) : Json :=
  .record
    [("instructions", .array (program.instructions.map Instruction.toJson))]

/-- The JSON text of a program. -/
def Program.artifact (program : Program) : String :=
  String.ofList program.toJson.write

/-! ## Reading -/

open Json (Decoder)

def Reference.ofJson? : Decoder Reference := fun levels json =>
  match Decoder.alternative levels json with
  | some ("Var", levels, some data) => (Decoder.text levels data).map .var
  | some ("Const", levels, some data) => (Decoder.text levels data).map .const
  | some ("Frame", levels, some data) =>
    match Decoder.fields ["frame", "alias", "path", "field"] levels data with
    | some (levels, [id, rowAlias, path, field]) => do
      return .frame (← Decoder.count levels id) (← Decoder.text levels rowAlias)
        (← Decoder.list Decoder.text levels path) (← Decoder.text levels field)
    | _ => none
  | some ("Block", levels, some data) =>
    match Decoder.fields ["path", "field"] levels data with
    | some (levels, [path, field]) => do
      return .block (← Decoder.list Decoder.text levels path)
        (← Decoder.text levels field)
    | _ => none
  | _ => none

mutual

/-- Reads an expression, with fuel for the expressions in it. -/
def Expr.ofJsonWithin? : Nat → Decoder Expr
  | 0, _, _ => none
  | fuel + 1, levels, json =>
    match Decoder.alternative levels json with
    | some ("Access", levels, some data) =>
      match Decoder.fields ["reference", "subscripts"] levels data with
      | some (levels, [reference, subscripts]) => do
        return .access (← Reference.ofJson? levels reference)
          (← Decoder.list (Argument.ofJsonWithin? fuel) levels subscripts)
      | _ => none
    | some ("Filter", levels, some data) =>
      match Decoder.fields ["name", "input", "args"] levels data with
      | some (levels, [name, input, arguments]) => do
        return .filter (← Decoder.text levels name)
          (← Expr.ofJsonWithin? fuel levels input)
          (← Decoder.list (Argument.ofJsonWithin? fuel) levels arguments)
      | _ => none
    | _ => none

/-- Reads a subscript or an argument, with fuel for the expressions in it. -/
def Argument.ofJsonWithin? : Nat → Decoder Argument
  | 0, _, _ => none
  | fuel + 1, levels, json =>
    match Decoder.alternative levels json with
    | some ("Int", levels, some data) => (Decoder.int levels data).map .int
    | some ("Str", levels, some data) => (Decoder.text levels data).map .text
    | some ("Expr", levels, some data) =>
      (Expr.ofJsonWithin? fuel levels data).map .expr
    | _ => none

end

/-- Reads an expression.  Every expression inside another takes a level. -/
def Expr.ofJson? : Decoder Expr := fun levels json =>
  Expr.ofJsonWithin? (levels + 1) levels json

/-- Reads a subscript or an argument. -/
def Argument.ofJson? : Decoder Argument := fun levels json =>
  Argument.ofJsonWithin? (levels + 1) levels json

def Piece.ofJson? : Decoder Piece := fun levels json =>
  match Decoder.alternative levels json with
  | some ("Text", levels, some data) => (Decoder.text levels data).map .text
  | some ("Expr", levels, some data) => (Expr.ofJson? levels data).map .expr
  | _ => none

def Condition.ofJson? : Decoder Condition := fun levels json =>
  match Decoder.fields ["pieces"] levels json with
  | some (levels, [pieces]) =>
    (Decoder.list Piece.ofJson? levels pieces).map .mk
  | _ => none

/-- Reads the rows of an iteration. -/
def Source.ofJson? : Decoder Source := fun levels json =>
  match Decoder.alternative levels json with
  | some ("Collection", levels, some data) =>
    (Expr.ofJson? levels data).map .collection
  | some ("Nested", levels, some data) =>
    match Decoder.fields ["frame", "name"] levels data with
    | some (levels, [frame, name]) => do
      return .nested (← Decoder.count levels frame) (← Decoder.text levels name)
    | _ => none
  | some ("Path", levels, some data) =>
    (Decoder.list Decoder.text levels data).map .path
  | _ => none

/-- Reads the template of an inclusion. -/
def Target.ofJson? : Decoder Target := fun levels json =>
  match Decoder.alternative levels json with
  | some ("Path", levels, some data) =>
    match Decoder.fields ["path", "query"] levels data with
    | some (levels, [name, query]) => do
      return .path (← Decoder.text levels name)
        (← Decoder.list (Decoder.pair Decoder.text Piece.ofJson?) levels query)
    | _ => none
  | some ("Dynamic", levels, some data) =>
    (Expr.ofJson? levels data).map .dynamic
  | _ => none

def InclusionKind.ofJson? : Decoder InclusionKind := fun levels json =>
  match Decoder.alternative levels json with
  | some ("Include", _, data) => Decoder.unit .optional data
  | some ("Require", _, data) => Decoder.unit .required data
  | _ => none

def Instruction.ofJson? : Decoder Instruction := fun levels json =>
  match Decoder.alternative levels json with
  | some ("Text", levels, some data) => (Decoder.text levels data).map .text
  | some ("Print", levels, some data) => (Expr.ofJson? levels data).map .print
  | some ("Set", levels, some data) =>
    match Decoder.fields ["name", "subscripts", "value"] levels data with
    | some (levels, [name, subscripts, value]) => do
      return .set (← Decoder.text levels name)
        (← Decoder.list Argument.ofJson? levels subscripts)
        (← Decoder.list Piece.ofJson? levels value)
    | _ => none
  | some ("If", levels, some data) =>
    match Decoder.fields ["cond", "next"] levels data with
    | some (levels, [condition, next]) => do
      return .branch (← Condition.ofJson? levels condition)
        (← Decoder.count levels next)
    | _ => none
  | some ("ElseIf", levels, some data) =>
    match Decoder.fields ["cond", "next", "end"] levels data with
    | some (levels, [condition, next, exit]) => do
      return .elseBranch (← Condition.ofJson? levels condition)
        (← Decoder.count levels next) (← Decoder.count levels exit)
    | _ => none
  | some ("Else", levels, some data) =>
    match Decoder.fields ["end"] levels data with
    | some (levels, [exit]) => (Decoder.count levels exit).map .otherwise
    | _ => none
  | some ("EndIf", _, data) => Decoder.unit .endBranch data
  | some ("BlockOpen", levels, some data) =>
    match Decoder.fields ["id", "alias", "source", "skip"] levels data with
    | some (levels, [id, rowAlias, source, skip]) => do
      return .openBlock (← Decoder.count levels id)
        (← Decoder.text levels rowAlias) (← Source.ofJson? levels source)
        (← Decoder.count levels skip)
    | _ => none
  | some ("BlockElse", levels, some data) =>
    match Decoder.fields ["id", "body", "end"] levels data with
    | some (levels, [id, body, exit]) => do
      return .elseBlock (← Decoder.count levels id)
        (← Decoder.count levels body) (← Decoder.count levels exit)
    | _ => none
  | some ("BlockClose", levels, some data) =>
    match Decoder.fields ["id", "body"] levels data with
    | some (levels, [id, body]) => do
      return .closeBlock (← Decoder.count levels id)
        (← Decoder.count levels body)
    | _ => none
  | some ("Include", levels, some data) =>
    match Decoder.fields ["target", "once", "kind"] levels data with
    | some (levels, [target, once, kind]) => do
      return .inclusion (← Target.ofJson? levels target)
        (← Decoder.bool levels once) (← InclusionKind.ofJson? levels kind)
    | _ => none
  | _ => none

def Program.ofJson? : Decoder Program := fun levels json =>
  match Decoder.fields ["instructions"] levels json with
  | some (levels, [instructions]) =>
    (Decoder.list Instruction.ofJson? levels instructions).map .mk
  | _ => none

/-- Reads a program from JSON text. -/
def Program.ofArtifact? (text : String) : Option Program :=
  (Json.read? text.toList).bind (Program.ofJson? Json.levels)

end TemplateEngine
