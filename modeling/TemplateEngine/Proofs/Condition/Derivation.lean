import TemplateEngine.Condition.Evaluation
import TemplateEngine.Proofs.Condition.Lexed

/-!
# The grammar of conditions

Tokens form a condition if they derive from

    disjunction ::= conjunction (or conjunction)*
    conjunction ::= negation (and negation)*
    negation    ::= not negation | relation
    relation    ::= primary [comparison primary]
    primary     ::= value | '(' disjunction ')'

A derivation determines its tokens, how many negations and parentheses are open
in it at a time, and the value that it stands for.  Tokens have at most one
derivation, and tokens that differ in values only have derivations that differ
in values only.
-/

namespace TemplateEngine.Condition

mutual

/-- A derivation of what `or` joins. -/
inductive Disjunction
  | single (side : Conjunction)
  | or (side : Conjunction) (rest : Disjunction)

/-- A derivation of what `and` joins. -/
inductive Conjunction
  | single (side : Negation)
  | and (side : Negation) (rest : Conjunction)

/-- A derivation of a relation behind any number of `not`. -/
inductive Negation
  | not (operand : Negation)
  | plain (relation : Relation)

/-- A derivation of one side alone or of two that are compared. -/
inductive Relation
  | single (side : Primary)
  | compare (left : Primary) (comparison : Comparison) (right : Primary)

/-- A derivation of a value or of what stands in parentheses. -/
inductive Primary
  | single (content : Value)
  | group (inner : Disjunction)

end

mutual

/-- The tokens that a derivation derives. -/
def Disjunction.tokens : Disjunction → List Token
  | .single side => side.tokens
  | .or side rest => side.tokens ++ .symbol .or :: rest.tokens

def Conjunction.tokens : Conjunction → List Token
  | .single side => side.tokens
  | .and side rest => side.tokens ++ .symbol .and :: rest.tokens

def Negation.tokens : Negation → List Token
  | .not operand => .symbol .not :: operand.tokens
  | .plain relation => relation.tokens

def Relation.tokens : Relation → List Token
  | .single side => side.tokens
  | .compare left comparison right =>
    left.tokens ++ .symbol (.compare comparison) :: right.tokens

def Primary.tokens : Primary → List Token
  | .single content => [.value content]
  | .group inner => .symbol .opening :: (inner.tokens ++ [.symbol .closing])

end

mutual

/-- How many negations and parentheses are open at most at a time. -/
def Disjunction.nesting : Disjunction → Nat
  | .single side => side.nesting
  | .or side rest => max side.nesting rest.nesting

def Conjunction.nesting : Conjunction → Nat
  | .single side => side.nesting
  | .and side rest => max side.nesting rest.nesting

def Negation.nesting : Negation → Nat
  | .not operand => 1 + operand.nesting
  | .plain relation => relation.nesting

def Relation.nesting : Relation → Nat
  | .single side => side.nesting
  | .compare left _ right => max left.nesting right.nesting

def Primary.nesting : Primary → Nat
  | .single _ => 0
  | .group inner => 1 + inner.nesting

end

mutual

/-- The value that a derivation stands for: a side alone keeps its value, and
joined sides count by their truth. -/
def Disjunction.value : Disjunction → Value
  | .single side => side.value
  | .or side rest => .bool (side.value.isTruthy || rest.value.isTruthy)

def Conjunction.value : Conjunction → Value
  | .single side => side.value
  | .and side rest => .bool (side.value.isTruthy && rest.value.isTruthy)

def Negation.value : Negation → Value
  | .not operand => .bool !operand.value.isTruthy
  | .plain relation => relation.value

def Relation.value : Relation → Value
  | .single side => side.value
  | .compare left comparison right =>
    .bool (comparison.holds left.value right.value)

def Primary.value : Primary → Value
  | .single content => content
  | .group inner => inner.value

end

mutual

/-- A derivation with `null` in the place of its values. -/
def Disjunction.shape : Disjunction → Disjunction
  | .single side => .single side.shape
  | .or side rest => .or side.shape rest.shape

def Conjunction.shape : Conjunction → Conjunction
  | .single side => .single side.shape
  | .and side rest => .and side.shape rest.shape

def Negation.shape : Negation → Negation
  | .not operand => .not operand.shape
  | .plain relation => .plain relation.shape

def Relation.shape : Relation → Relation
  | .single side => .single side.shape
  | .compare left comparison right => .compare left.shape comparison right.shape

def Primary.shape : Primary → Primary
  | .single _ => .single .null
  | .group inner => .group inner.shape

end

/-! ## Derivations are determined by their tokens -/

/-- How loosely a symbol joins what stands on its two sides; those that join
nothing come last. -/
def Symbol.looseness : Symbol → Nat
  | .compare _ => 1
  | .and => 2
  | .or => 3
  | _ => 4

/-- Whether tokens do not go on with a symbol that joins as closely as a degree
or more so. -/
def Ends (degree : Nat) (tokens : List Token) : Prop :=
  ∀ symbol rest, tokens = .symbol symbol :: rest → degree < symbol.looseness

theorem Ends.nil {degree : Nat} : Ends degree [] := by
  intro symbol rest same
  cases same

theorem Ends.cons {degree : Nat} {symbol : Symbol}
    (loose : degree < symbol.looseness) (rest : List Token) :
    Ends degree (.symbol symbol :: rest) := by
  intro other rest same
  cases same
  exact loose

theorem Ends.mono {degree less : Nat} {tokens : List Token}
    (ends : Ends degree tokens) (le : less ≤ degree) : Ends less tokens :=
  fun symbol rest same => Nat.lt_of_le_of_lt le (ends symbol rest same)

/-- No relation starts with `not`. -/
theorem Relation.tokens_ne_not (tree : Relation) (rest later : List Token) :
    tree.tokens ++ rest ≠ .symbol .not :: later := by
  intro same
  cases tree with
  | single side => cases side <;> cases same
  | compare side _ _ => cases side <;> cases same

mutual

theorem Disjunction.eq_of_tokens_append {tree other : Disjunction}
    {rest otherRest : List Token} (ends : Ends 3 rest)
    (otherEnds : Ends 3 otherRest)
    (same : tree.tokens ++ rest = other.tokens ++ otherRest) :
    tree = other ∧ rest = otherRest := by
  match tree, other with
  | .single side, .single otherSide =>
      obtain ⟨rfl, rfl⟩ :=
        Conjunction.eq_of_tokens_append (ends.mono (by decide))
          (otherEnds.mono (by decide)) same
      exact ⟨rfl, rfl⟩
  | .single side, .or otherSide others =>
      -- The sides agree, so the other derivation's `or` starts the rest, which
      -- it may not.
      rw [Disjunction.tokens, Disjunction.tokens, List.append_assoc,
        List.cons_append] at same
      obtain ⟨-, rfl⟩ := Conjunction.eq_of_tokens_append (ends.mono (by decide))
        (.cons (by decide) _) same
      exact absurd (ends _ _ rfl) (by decide)
  | .or side others, .single otherSide =>
      rw [Disjunction.tokens, Disjunction.tokens, List.append_assoc,
        List.cons_append] at same
      obtain ⟨-, rfl⟩ := Conjunction.eq_of_tokens_append (.cons (by decide) _)
        (otherEnds.mono (by decide)) same
      exact absurd (otherEnds _ _ rfl) (by decide)
  | .or side later, .or otherSide otherLater =>
      rw [Disjunction.tokens, Disjunction.tokens, List.append_assoc,
        List.append_assoc, List.cons_append, List.cons_append] at same
      obtain ⟨rfl, tail⟩ :=
        Conjunction.eq_of_tokens_append (.cons (by decide) _)
          (.cons (by decide) _) same
      obtain ⟨rfl, rfl⟩ :=
        Disjunction.eq_of_tokens_append ends otherEnds (List.cons.inj tail).2
      exact ⟨rfl, rfl⟩

theorem Conjunction.eq_of_tokens_append {tree other : Conjunction}
    {rest otherRest : List Token} (ends : Ends 2 rest)
    (otherEnds : Ends 2 otherRest)
    (same : tree.tokens ++ rest = other.tokens ++ otherRest) :
    tree = other ∧ rest = otherRest := by
  match tree, other with
  | .single side, .single otherSide =>
      obtain ⟨rfl, rfl⟩ := Negation.eq_of_tokens_append (ends.mono (by decide))
        (otherEnds.mono (by decide)) same
      exact ⟨rfl, rfl⟩
  | .single side, .and otherSide others =>
      rw [Conjunction.tokens, Conjunction.tokens, List.append_assoc,
        List.cons_append] at same
      obtain ⟨-, rfl⟩ := Negation.eq_of_tokens_append (ends.mono (by decide))
        (.cons (by decide) _) same
      exact absurd (ends _ _ rfl) (by decide)
  | .and side others, .single otherSide =>
      rw [Conjunction.tokens, Conjunction.tokens, List.append_assoc,
        List.cons_append] at same
      obtain ⟨-, rfl⟩ := Negation.eq_of_tokens_append (.cons (by decide) _)
        (otherEnds.mono (by decide)) same
      exact absurd (otherEnds _ _ rfl) (by decide)
  | .and side later, .and otherSide otherLater =>
      rw [Conjunction.tokens, Conjunction.tokens, List.append_assoc,
        List.append_assoc, List.cons_append, List.cons_append] at same
      obtain ⟨rfl, tail⟩ := Negation.eq_of_tokens_append (.cons (by decide) _)
        (.cons (by decide) _) same
      obtain ⟨rfl, rfl⟩ :=
        Conjunction.eq_of_tokens_append ends otherEnds (List.cons.inj tail).2
      exact ⟨rfl, rfl⟩

theorem Negation.eq_of_tokens_append {tree other : Negation}
    {rest otherRest : List Token} (ends : Ends 1 rest)
    (otherEnds : Ends 1 otherRest)
    (same : tree.tokens ++ rest = other.tokens ++ otherRest) :
    tree = other ∧ rest = otherRest := by
  match tree, other with
  | .not operand, .not otherOperand =>
      obtain ⟨rfl, rfl⟩ :=
        Negation.eq_of_tokens_append ends otherEnds (List.cons.inj same).2
      exact ⟨rfl, rfl⟩
  | .not operand, .plain relation =>
      exact absurd same.symm (relation.tokens_ne_not _ _)
  | .plain relation, .not operand =>
      exact absurd same (relation.tokens_ne_not _ _)
  | .plain relation, .plain otherRelation =>
      obtain ⟨rfl, rfl⟩ := Relation.eq_of_tokens_append ends otherEnds same
      exact ⟨rfl, rfl⟩

theorem Relation.eq_of_tokens_append {tree other : Relation}
    {rest otherRest : List Token} (ends : Ends 1 rest)
    (otherEnds : Ends 1 otherRest)
    (same : tree.tokens ++ rest = other.tokens ++ otherRest) :
    tree = other ∧ rest = otherRest := by
  match tree, other with
  | .single side, .single otherSide =>
      obtain ⟨rfl, rfl⟩ := Primary.eq_of_tokens_append same
      exact ⟨rfl, rfl⟩
  | .single side, .compare left comparison right =>
      rw [Relation.tokens, Relation.tokens, List.append_assoc, List.cons_append]
        at same
      obtain ⟨-, rfl⟩ := Primary.eq_of_tokens_append same
      exact absurd (ends _ _ rfl) (Nat.lt_irrefl 1)
  | .compare left comparison right, .single otherSide =>
      rw [Relation.tokens, Relation.tokens, List.append_assoc, List.cons_append]
        at same
      obtain ⟨-, rfl⟩ := Primary.eq_of_tokens_append same
      exact absurd (otherEnds _ _ rfl) (Nat.lt_irrefl 1)
  | .compare left comparison right, .compare otherLeft otherComparison
      otherRight =>
      rw [Relation.tokens, Relation.tokens, List.append_assoc,
        List.append_assoc, List.cons_append, List.cons_append] at same
      obtain ⟨rfl, tail⟩ := Primary.eq_of_tokens_append same
      simp only [List.cons.injEq, Token.symbol.injEq, Symbol.compare.injEq]
        at tail
      obtain ⟨rfl, tail⟩ := tail
      obtain ⟨rfl, rfl⟩ := Primary.eq_of_tokens_append tail
      exact ⟨rfl, rfl⟩

theorem Primary.eq_of_tokens_append {tree other : Primary}
    {rest otherRest : List Token}
    (same : tree.tokens ++ rest = other.tokens ++ otherRest) :
    tree = other ∧ rest = otherRest := by
  match tree, other with
  | .single content, .single otherContent =>
      cases same
      exact ⟨rfl, rfl⟩
  | .single content, .group inner => cases same
  | .group inner, .single content => cases same
  | .group inner, .group otherInner =>
      simp only [Primary.tokens, List.cons_append, List.append_assoc,
        List.cons.injEq, true_and] at same
      obtain ⟨rfl, tail⟩ :=
        Disjunction.eq_of_tokens_append (.cons (by decide) _)
          (.cons (by decide) _) same
      exact ⟨rfl, (List.cons.inj tail).2⟩

end

/-- Tokens have at most one derivation. -/
theorem Disjunction.tokens_injective :
    Function.Injective Disjunction.tokens := by
  intro tree other same
  have extended : tree.tokens ++ [] = other.tokens ++ [] := by rw [same]
  exact (Disjunction.eq_of_tokens_append .nil .nil extended).1

/-! ## Derivations do not depend on values -/

mutual

theorem Disjunction.nesting_shape (tree : Disjunction) :
    tree.shape.nesting = tree.nesting := by
  match tree with
  | .single side => exact Conjunction.nesting_shape side
  | .or side rest =>
      rw [Disjunction.shape, Disjunction.nesting, Disjunction.nesting,
        Conjunction.nesting_shape side, Disjunction.nesting_shape rest]

theorem Conjunction.nesting_shape (tree : Conjunction) :
    tree.shape.nesting = tree.nesting := by
  match tree with
  | .single side => exact Negation.nesting_shape side
  | .and side rest =>
      rw [Conjunction.shape, Conjunction.nesting, Conjunction.nesting,
        Negation.nesting_shape side, Conjunction.nesting_shape rest]

theorem Negation.nesting_shape (tree : Negation) :
    tree.shape.nesting = tree.nesting := by
  match tree with
  | .not operand =>
      rw [Negation.shape, Negation.nesting, Negation.nesting,
        Negation.nesting_shape operand]
  | .plain relation => exact Relation.nesting_shape relation

theorem Relation.nesting_shape (tree : Relation) :
    tree.shape.nesting = tree.nesting := by
  match tree with
  | .single side => exact Primary.nesting_shape side
  | .compare left comparison right =>
      rw [Relation.shape, Relation.nesting, Relation.nesting,
        Primary.nesting_shape left, Primary.nesting_shape right]

theorem Primary.nesting_shape (tree : Primary) :
    tree.shape.nesting = tree.nesting := by
  match tree with
  | .single content => rfl
  | .group inner =>
      rw [Primary.shape, Primary.nesting, Primary.nesting,
        Disjunction.nesting_shape inner]

end

theorem Token.eq_symbol_of_shape {token : Token} {symbol : Symbol}
    (same : token.shape = (Token.symbol symbol).shape) :
    token = .symbol symbol := by
  cases token with
  | value _ => cases same
  | symbol other => exact same

/-- Tokens of the same shape as joined tokens are joined in the same way. -/
theorem Token.exists_of_shape_append {tokens left right : List Token}
    {symbol : Symbol}
    (same : tokens.map Token.shape =
      (left ++ .symbol symbol :: right).map Token.shape) :
    ∃ first last, tokens = first ++ .symbol symbol :: last ∧
      first.map Token.shape = left.map Token.shape ∧
      last.map Token.shape = right.map Token.shape := by
  rw [List.map_append] at same
  obtain ⟨first, tail, rfl, before, after⟩ := List.map_eq_append_iff.mp same
  obtain ⟨token, last, rfl, here, after⟩ := List.map_eq_cons_iff.mp after
  obtain rfl := Token.eq_symbol_of_shape here
  exact ⟨first, last, rfl, before, (List.cons.inj after).2⟩

mutual

/-- Tokens of the same shape as those of a derivation have a derivation of the
same shape. -/
theorem Disjunction.exists_of_shape (tree : Disjunction) {tokens : List Token}
    (same : tokens.map Token.shape = tree.tokens.map Token.shape) :
    ∃ other : Disjunction,
      other.tokens = tokens ∧ other.shape = tree.shape := by
  match tree with
  | .single side =>
      obtain ⟨other, rfl, shape⟩ := Conjunction.exists_of_shape side same
      exact ⟨.single other, rfl, congrArg Disjunction.single shape⟩
  | .or side rest =>
      obtain ⟨first, last, rfl, before, after⟩ :=
        Token.exists_of_shape_append same
      obtain ⟨otherSide, rfl, shape⟩ := Conjunction.exists_of_shape side before
      obtain ⟨otherRest, rfl, shapes⟩ := Disjunction.exists_of_shape rest after
      exact ⟨.or otherSide otherRest, rfl, by
        rw [Disjunction.shape, shape, shapes, Disjunction.shape]⟩

theorem Conjunction.exists_of_shape (tree : Conjunction) {tokens : List Token}
    (same : tokens.map Token.shape = tree.tokens.map Token.shape) :
    ∃ other : Conjunction,
      other.tokens = tokens ∧ other.shape = tree.shape := by
  match tree with
  | .single side =>
      obtain ⟨other, rfl, shape⟩ := Negation.exists_of_shape side same
      exact ⟨.single other, rfl, congrArg Conjunction.single shape⟩
  | .and side rest =>
      obtain ⟨first, last, rfl, before, after⟩ :=
        Token.exists_of_shape_append same
      obtain ⟨otherSide, rfl, shape⟩ := Negation.exists_of_shape side before
      obtain ⟨otherRest, rfl, shapes⟩ := Conjunction.exists_of_shape rest after
      exact ⟨.and otherSide otherRest, rfl, by
        rw [Conjunction.shape, shape, shapes, Conjunction.shape]⟩

theorem Negation.exists_of_shape (tree : Negation) {tokens : List Token}
    (same : tokens.map Token.shape = tree.tokens.map Token.shape) :
    ∃ other : Negation, other.tokens = tokens ∧ other.shape = tree.shape := by
  match tree with
  | .not operand =>
      obtain ⟨token, rest, rfl, here, after⟩ := List.map_eq_cons_iff.mp same
      obtain rfl := Token.eq_symbol_of_shape here
      obtain ⟨other, rfl, shape⟩ := Negation.exists_of_shape operand after
      exact ⟨.not other, rfl, congrArg Negation.not shape⟩
  | .plain relation =>
      obtain ⟨other, rfl, shape⟩ := Relation.exists_of_shape relation same
      exact ⟨.plain other, rfl, congrArg Negation.plain shape⟩

theorem Relation.exists_of_shape (tree : Relation) {tokens : List Token}
    (same : tokens.map Token.shape = tree.tokens.map Token.shape) :
    ∃ other : Relation, other.tokens = tokens ∧ other.shape = tree.shape := by
  match tree with
  | .single side =>
      obtain ⟨other, rfl, shape⟩ := Primary.exists_of_shape side same
      exact ⟨.single other, rfl, congrArg Relation.single shape⟩
  | .compare left comparison right =>
      obtain ⟨first, last, rfl, before, after⟩ :=
        Token.exists_of_shape_append same
      obtain ⟨otherLeft, rfl, leftShape⟩ := Primary.exists_of_shape left before
      obtain ⟨otherRight, rfl, rightShape⟩ :=
        Primary.exists_of_shape right after
      exact ⟨.compare otherLeft comparison otherRight, rfl, by
        rw [Relation.shape, leftShape, rightShape, Relation.shape]⟩

theorem Primary.exists_of_shape (tree : Primary) {tokens : List Token}
    (same : tokens.map Token.shape = tree.tokens.map Token.shape) :
    ∃ other : Primary, other.tokens = tokens ∧ other.shape = tree.shape := by
  match tree with
  | .single content =>
      obtain ⟨token, rest, rfl, here, after⟩ := List.map_eq_cons_iff.mp same
      obtain rfl := List.map_eq_nil_iff.mp after
      cases token with
      | value otherContent => exact ⟨.single otherContent, rfl, rfl⟩
      | symbol _ => cases here
  | .group inner =>
      obtain ⟨token, rest, rfl, here, after⟩ := List.map_eq_cons_iff.mp same
      obtain rfl := Token.eq_symbol_of_shape here
      obtain ⟨first, last, rfl, before, closing⟩ :=
        Token.exists_of_shape_append after
      obtain rfl := List.map_eq_nil_iff.mp closing
      obtain ⟨other, rfl, shape⟩ := Disjunction.exists_of_shape inner before
      exact ⟨.group other, rfl, congrArg Primary.group shape⟩

end

end TemplateEngine.Condition
