import TemplateEngine.Number.Whole
import TemplateEngine.Program.Basic
import TemplateEngine.Text.Quoted

/-!
# Listings of programs

A listing shows a program on one line, here broken after its first two parts:
filters as calls, iterations with their number and alias, and the branches of
conditions and iterations between braces.

    text("Hello ");print(trim(upper(NAME)));
    each#1(ITEMS as item){print(item#1.value);}
-/

namespace TemplateEngine

/-- A text between single quotes, in which quotes and backslashes get a
backslash. -/
def Argument.quote (text : List Char) : List Char :=
  '\'' ::
    text.flatMap (fun c => if c = '\'' || c = '\\' then ['\\', c] else [c]) ++
    ['\'']

def joinNames (names : List String) : List Char :=
  List.intercalate ['.'] (names.map String.toList)

def Reference.listing : Reference → List Char
  | .var name => name.toList
  | .const name => "const(".toList ++ name.toList ++ [')']
  | .frame id rowAlias path field =>
    rowAlias.toList ++ '#' :: Number.naturalText id ++
      path.flatMap (fun segment => '.' :: segment.toList) ++ '.' :: field.toList
  | .block path field => joinNames path ++ '.' :: field.toList

mutual

def Expr.listing : Expr → List Char
  | .access reference subscripts =>
    reference.listing ++ Argument.listSubscripts subscripts
  | .filter name input arguments =>
    name.toList ++ '(' :: input.listing ++ Argument.listArguments arguments ++
      [')']

/-- The text of a subscript or an argument. -/
def Argument.listing : Argument → List Char
  | .int number => Number.integerText number
  | .text content => Argument.quote content.toList
  | .expr inner => '\x7b' :: inner.listing ++ ['\x7d']

/-- The text of subscripts, each between brackets. -/
def Argument.listSubscripts : List Argument → List Char
  | [] => []
  | argument :: others =>
    '[' :: argument.listing ++ ']' :: Argument.listSubscripts others

/-- The text of arguments, each after a comma. -/
def Argument.listArguments : List Argument → List Char
  | [] => []
  | argument :: others =>
    ',' :: ' ' :: argument.listing ++ Argument.listArguments others

end

/-- The text of a piece, an expression standing between braces. -/
def Piece.listing : Piece → List Char
  | .text content => content.toList
  | .expr inner => '\x7b' :: inner.listing ++ ['\x7d']

def Condition.listing (condition : Condition) : List Char :=
  condition.pieces.flatMap Piece.listing

/-- The text of the rows of an iteration. -/
def Source.listing : Source → List Char
  | .collection expr => expr.listing
  | .nested frame name => '#' :: Number.naturalText frame ++ '.' :: name.toList
  | .path segments => joinNames segments

/-- The text of the parameters of an inclusion, the first after a question
mark. -/
def Target.listQuery (mark : Char) : List (String × Piece) → List Char
  | [] => []
  | (name, value) :: query =>
    mark :: name.toList ++ '=' :: value.listing ++ Target.listQuery '&' query

/-- The text of the template of an inclusion. -/
def Target.listing : Target → List Char
  | .path name query => name.toList ++ Target.listQuery '?' query
  | .dynamic expr => '\x7b' :: expr.listing ++ ['\x7d']

/-- The text of a piece that is assigned, literal text standing between
quotes. -/
def Piece.listValue : Piece → List Char
  | .text content => Text.quote content.toList
  | .expr inner => inner.listing

def Instruction.listing : Instruction → List Char
  | .text content => "text(".toList ++ Text.quote content.toList ++ ");".toList
  | .print expr => "print(".toList ++ expr.listing ++ ");".toList
  | .set name subscripts value =>
    "set(".toList ++ name.toList ++ Argument.listSubscripts subscripts ++
      " = ".toList ++
      List.intercalate " . ".toList (value.map Piece.listValue) ++ ");".toList
  | .branch condition _ => "if(".toList ++ condition.listing ++ ")\x7b".toList
  | .elseBranch condition _ _ =>
    "\x7delseif(".toList ++ condition.listing ++ ")\x7b".toList
  | .otherwise _ => "\x7delse\x7b".toList
  | .endBranch => "\x7d".toList
  | .openBlock id rowAlias source _ =>
    "each#".toList ++ Number.naturalText id ++ '(' :: source.listing ++
      " as ".toList ++ rowAlias.toList ++ ")\x7b".toList
  | .elseBlock _ _ _ => "\x7dempty\x7b".toList
  | .closeBlock _ _ => "\x7d".toList
  | .inclusion target once kind =>
    (match kind with
      | .optional => "include(".toList
      | .required => "require(".toList) ++
      target.listing ++ (if once then ", once".toList else []) ++ ");".toList

def Program.listing (program : Program) : List Char :=
  program.instructions.flatMap Instruction.listing

end TemplateEngine
