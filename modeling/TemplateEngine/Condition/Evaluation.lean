import TemplateEngine.Condition.Token
import TemplateEngine.Markup.SyntaxError
import TemplateEngine.Value.Comparison

/-!
# Evaluating conditions

The words of a condition bind, from the loosest to the closest, as `or`, `and`,
`not` and comparisons.  Both sides of a word are evaluated; a side that is no
comparison counts by its truth.  At most `maxDepth` negations and parentheses
are open at a time.
-/

namespace TemplateEngine.Condition

/-- Evaluates tokens from the first on, and leaves those after what it
evaluates. -/
abbrev Reading := List Token → Except Fault (Value × List Token)

def Comparison.holds (comparison : Comparison) (left right : Value) : Bool :=
  match comparison with
  | equal => left.looseEquals right
  | unequal => !left.looseEquals right
  | less => left.compare? right == some .lt
  | lessOrEqual =>
    left.compare? right == some .lt || left.compare? right == some .eq
  | greater => left.compare? right == some .gt
  | greaterOrEqual =>
    left.compare? right == some .gt || left.compare? right == some .eq

/-- Goes on from a first value as long as a word follows that joins it with a
further one.  The fuel bounds the number of words. -/
def joinFrom (word : Symbol) (join : Bool → Bool → Bool) (side : Reading) :
    Nat → Value → Reading
  | fuel + 1, left, .symbol symbol :: tokens =>
    if symbol = word then
      match side tokens with
      | .error fault => .error fault
      | .ok (right, rest) =>
        joinFrom word join side fuel (.bool (join left.isTruthy right.isTruthy))
          rest
    else .ok (left, .symbol symbol :: tokens)
  | _, left, tokens => .ok (left, tokens)

/-- Evaluates sides that a word joins, from left to right. -/
def joined (word : Symbol) (join : Bool → Bool → Bool) (side : Reading) :
    Reading := fun tokens =>
  match side tokens with
  | .error fault => .error fault
  | .ok (left, rest) => joinFrom word join side rest.length left rest

/-- Evaluates what stands between parentheses or alone, given how negations are
evaluated. -/
def disjunction (negation : Reading) : Reading :=
  joined .or (· || ·) (joined .and (· && ·) negation)

/-- Evaluates a value or a condition in parentheses. `inner` evaluates the
negations inside parentheses, if these may be opened at all. -/
def primary (inner : Option Reading) : Reading
  | .value value :: tokens => .ok (value, tokens)
  | .symbol .opening :: tokens =>
    match inner with
    | none => .error .tooDeep
    | some negation =>
      match disjunction negation tokens with
      | .error fault => .error fault
      | .ok (value, .symbol .closing :: rest) => .ok (value, rest)
      | .ok _ => .error .missingClose
  | .symbol symbol :: _ => .error (.unexpectedSymbol symbol)
  | [] => .error .unexpectedEnd

/-- Evaluates a value or a comparison of two. -/
def comparison (inner : Option Reading) : Reading := fun tokens =>
  match primary inner tokens with
  | .error fault => .error fault
  | .ok (left, .symbol (.compare comparison) :: rest) =>
    match primary inner rest with
    | .error fault => .error fault
    | .ok (right, rest) => .ok (.bool (comparison.holds left right), rest)
  | .ok (left, rest) => .ok (left, rest)

/-- Evaluates a comparison or its negation. -/
def negationAround (inner : Option Reading) : Reading
  | .symbol .not :: tokens =>
    match inner with
    | none => .error .tooDeep
    | some negation =>
      match negation tokens with
      | .error fault => .error fault
      | .ok (value, rest) => .ok (.bool !value.isTruthy, rest)
  | tokens => comparison inner tokens

/-- Evaluates a comparison or its negation, in which a number of negations and
parentheses may be open. -/
def negation : (levels : Nat) → Reading
  | 0 => negationAround none
  | levels + 1 => negationAround (some (negation levels))

/-- Evaluates the tokens of a condition. -/
def evaluateTokens (tokens : List Token) : Except Fault Value :=
  match disjunction (negation maxDepth) tokens with
  | .error fault => .error fault
  | .ok (value, []) => .ok value
  | .ok (_, token :: _) => .error (.unexpectedToken token)

def decide (operands : List Operand) : Except Fault Bool :=
  match tokensOf operands with
  | .error fault => .error fault
  | .ok [] => .error .empty
  | .ok tokens => (evaluateTokens tokens).map Value.isTruthy

end TemplateEngine.Condition

namespace TemplateEngine

/-- What decides conditions, or says why it cannot. -/
abbrev Evaluator := List Operand → Except String Bool

def Evaluator.standard : Evaluator := fun operands =>
  (Condition.decide operands).mapError Condition.Fault.message

end TemplateEngine
