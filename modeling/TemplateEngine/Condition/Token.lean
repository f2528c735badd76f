import TemplateEngine.Text.Case
import TemplateEngine.Value.Described

/-!
# Tokens of conditions

A condition is text with values in it.  The text holds symbols, words, quoted
texts and numbers, with blanks between them; a value is one token, whatever it
holds.
-/

namespace TemplateEngine

/-- A piece of a condition that is evaluated. -/
inductive Operand
  /-- Text as the template has it. -/
  | text (text : String)
  | value (value : Value)

namespace Condition

inductive Comparison
  | equal
  | unequal
  | less
  | lessOrEqual
  | greater
  | greaterOrEqual
  deriving DecidableEq

/-- The symbols and the words with their meaning. -/
inductive Symbol
  | compare (comparison : Comparison)
  | not
  | and
  | or
  | opening
  | closing
  deriving DecidableEq

inductive Token
  | value (value : Value)
  | symbol (symbol : Symbol)

/-- Why a condition cannot be evaluated. -/
inductive Fault
  /-- A quoted text without its closing quote. -/
  | unterminated (text : String)
  | invalidNumber (text : String)
  | unexpectedText (text : String)
  /-- A token where the condition should have ended. -/
  | unexpectedToken (token : Token)
  /-- A symbol where a value should be. -/
  | unexpectedSymbol (symbol : Symbol)
  | missingClose
  | unexpectedEnd
  | empty
  | tooDeep

/-- The name of a comparison in messages. -/
def Comparison.describe : Comparison → String
  | equal => "Eq"
  | unequal => "Ne"
  | less => "Lt"
  | lessOrEqual => "Le"
  | greater => "Gt"
  | greaterOrEqual => "Ge"

/-- The name of a symbol in messages. -/
def Symbol.describe : Symbol → String
  | compare comparison => "Compare(" ++ comparison.describe ++ ")"
  | not => "Not"
  | and => "And"
  | or => "Or"
  | opening => "Open"
  | closing => "Close"

def Token.describe : Token → String
  | value content => "Value(" ++ String.ofList content.describe ++ ")"
  | symbol content => "Symbol(" ++ content.describe ++ ")"

def Fault.message : Fault → String
  | unterminated text => "unterminated string " ++ text
  | invalidNumber text => "invalid number \"" ++ text ++ "\""
  | unexpectedText text => "unexpected \"" ++ text ++ "\""
  | unexpectedToken token => "unexpected " ++ token.describe
  | unexpectedSymbol symbol => "unexpected " ++ symbol.describe
  | missingClose => "missing \")\""
  | unexpectedEnd => "unexpected end of condition"
  | empty => "empty condition"
  | tooDeep => "condition nested too deeply"

/-- The spellings of symbols; one that starts another comes after it. -/
def symbols : List (List Char × Symbol) := [
  ("===".toList, .compare .equal),
  ("!==".toList, .compare .unequal),
  ("==".toList, .compare .equal),
  ("!=".toList, .compare .unequal),
  ("<>".toList, .compare .unequal),
  ("<=".toList, .compare .lessOrEqual),
  (">=".toList, .compare .greaterOrEqual),
  ("&&".toList, .and),
  ("||".toList, .or),
  ("<".toList, .compare .less),
  (">".toList, .compare .greater),
  ("!".toList, .not),
  ("(".toList, .opening),
  (")".toList, .closing)]

/-- Reads the symbol at the start of a text. -/
def readSymbol? (text : List Char) : Option (Symbol × List Char) :=
  symbols.findSome? fun (spelling, symbol) =>
    (List.isPrefixOf? spelling text).map fun rest => (symbol, rest)

/-- The text up to a closing quote, and what follows the quote.  A backslash
takes the character after it as it is. -/
def unquote (mark : Char) : List Char → Option (List Char × List Char)
  | [] => none
  | '\\' :: [] => none
  | '\\' :: character :: text =>
    (unquote mark text).map fun (content, rest) => (character :: content, rest)
  | character :: text =>
    if character = mark then some ([], text)
    else (unquote mark text).map fun (content, rest) =>
      (character :: content, rest)

/-- Whether a number starts: with a digit, or with a sign before a digit. -/
def startsNumber : List Char → Bool
  | first :: second :: _ =>
    Text.isAsciiDigit first ||
      ((first == '-' || first == '+') && Text.isAsciiDigit second)
  | [first] => Text.isAsciiDigit first
  | [] => false

/-- The value of a number: an integer if it is one of 64 bits. -/
def numberToken (literal : List Char) : Except Fault Token :=
  match Number.integer? literal with
  | some number => .ok (.value (.int number))
  | none =>
    match Number.Binary64.read? literal with
    | some number => .ok (.value (.float number))
    | none => .error (.invalidNumber (String.ofList literal))

/-- The meaning of a word, in any case. -/
def wordToken (word : List Char) : Except Fault Token :=
  match String.ofList (word.map Char.toLower) with
  | "and" => .ok (.symbol .and)
  | "or" => .ok (.symbol .or)
  | "not" => .ok (.symbol .not)
  | "true" => .ok (.value (.bool true))
  | "false" => .ok (.value (.bool false))
  | "null" => .ok (.value .null)
  | other => .error (.unexpectedText other)

/-- Reads the token at the start of a text that is neither empty nor blank at
its start. -/
def readToken (first : Char) (rest : List Char) :
    Except Fault (Token × List Char) :=
  let text := first :: rest
  match readSymbol? text with
  | some (symbol, rest) => .ok (.symbol symbol, rest)
  | none =>
    if first == '\'' || first == '"' then
      match unquote first rest with
      | some (content, rest) =>
        .ok (.value (.text (String.ofList content)), rest)
      | none => .error (.unterminated (String.ofList text))
    else if startsNumber text then
      let isPart (character : Char) : Bool :=
        Text.isAsciiDigit character || character == '.'
      (numberToken (first :: rest.takeWhile isPart)).map fun token =>
        (token, rest.dropWhile isPart)
    else
      match text.takeWhile Text.isNamePart with
      | [] => .error (.unexpectedText (String.ofList [first]))
      | word =>
        (wordToken word).map fun token =>
          (token, text.dropWhile Text.isNamePart)

/-- The tokens of a text.  The fuel bounds their number. -/
def readTokensWithin : Nat → List Char → Except Fault (List Token)
  | 0, _ => .ok []
  | fuel + 1, text =>
    match Text.trimStart text with
    | [] => .ok []
    | first :: rest =>
      match readToken first rest with
      | .error fault => .error fault
      | .ok (token, rest) => (readTokensWithin fuel rest).map (token :: ·)

def readTokens (text : List Char) : Except Fault (List Token) :=
  readTokensWithin (text.length + 1) text

/-- The tokens of the pieces of a condition. -/
def tokensOf : List Operand → Except Fault (List Token)
  | [] => .ok []
  | .value content :: operands => (tokensOf operands).map (.value content :: ·)
  | .text content :: operands =>
    match readTokens content.toList with
    | .error fault => .error fault
    | .ok tokens => (tokensOf operands).map (tokens ++ ·)

end Condition
end TemplateEngine
