import TemplateEngine.Template.Nesting

/-!
# The grammar of templates

Tokens form a template if they derive from

    phrases  ::= phrase*
    phrase   ::= text | print | set | inclusion
               | opening phrases [foreachelse phrases] endforeach
               | if phrases branches
    branches ::= endif | else phrases endif | elseif phrases branches

where an opening is a `foreach` or a `block`.  A derivation determines its
tokens, how deeply its constructs are nested, and the nodes that it stands for.
-/

namespace TemplateEngine

open Markup (Token Tag Part Placeholder Destination)

/-- What opens an iteration. -/
inductive Opening
  | foreach (collection : Placeholder) (rowAlias : Option String)
  | block (name : String) (parent : Option String)

namespace Opening

def tag : Opening → Tag
  | foreach collection rowAlias => .foreach collection rowAlias
  | block name parent => .block name parent

def tagName : Opening → TagName
  | foreach _ _ => .foreach
  | block _ _ => .block

def rowAlias : Opening → String
  | foreach collection rowAlias => rowAlias.getD collection.first
  | block name _ => name

/-- The rows of an iteration that is opened within others. -/
def source (known : Catalog) (scope : Scope) : Opening → Source
  | foreach collection _ => .collection (collection.resolve known scope)
  | block name none => .path [name]
  | block name (some parent) =>
    match scope.lookup parent with
    | some id => .nested id name
    | none =>
      .path ((List.splitOn '.' parent.toList).map String.ofList ++ [name])

end Opening

mutual

/-- A derivation of a phrase, with the texts of its tags. -/
inductive Phrase
  | text (content : String)
  | print (placeholder : Placeholder)
  | set (name : String) (subscripts : List Markup.Argument) (body : List Part)
      (raw : String)
  | inclusion (kind : InclusionKind) (destination : Destination) (once : Bool)
      (raw : String)
  | each (opening : Opening) (raw : String) (body : List Phrase)
      (close : String)
  | eachElse (opening : Opening) (raw : String) (body : List Phrase)
      (between : String) (empty : List Phrase) (close : String)
  | choose (parts : List Part) (raw : String) (body : List Phrase)
      (rest : Branches)

/-- A derivation of what follows the first branch of a condition. -/
inductive Branches
  | done (close : String)
  | otherwise (raw : String) (body : List Phrase) (close : String)
  | elseIf (parts : List Part) (raw : String) (body : List Phrase)
      (rest : Branches)

end

mutual

/-- The tokens that a phrase derives. -/
def Phrase.tokens : Phrase → List Token
  | .text content => [.text content]
  | .print placeholder => [.print placeholder]
  | .set name subscripts body raw => [.tag (.set name subscripts body) raw]
  | .inclusion kind destination once raw =>
    [.tag (.inclusion kind destination once) raw]
  | .each opening raw body close =>
    .tag opening.tag raw :: (Phrase.tokensAll body ++ [.tag .endForeach close])
  | .eachElse opening raw body between empty close =>
    .tag opening.tag raw ::
      (Phrase.tokensAll body ++ .tag .foreachElse between ::
        (Phrase.tokensAll empty ++ [.tag .endForeach close]))
  | .choose parts raw body rest =>
    .tag (.condition parts) raw :: (Phrase.tokensAll body ++ rest.tokens)

def Phrase.tokensAll : List Phrase → List Token
  | [] => []
  | phrase :: phrases => phrase.tokens ++ Phrase.tokensAll phrases

def Branches.tokens : Branches → List Token
  | .done close => [.tag .endCondition close]
  | .otherwise raw body close =>
    .tag .otherwise raw :: (Phrase.tokensAll body ++ [.tag .endCondition close])
  | .elseIf parts raw body rest =>
    .tag (.elseIf parts) raw :: (Phrase.tokensAll body ++ rest.tokens)

end

mutual

/-- How many constructs of a phrase are open at most at a time. -/
def Phrase.depth : Phrase → Nat
  | .each _ _ body _ => 1 + Phrase.depthAll body
  | .eachElse _ _ body _ empty _ =>
    1 + max (Phrase.depthAll body) (Phrase.depthAll empty)
  | .choose _ _ body rest => 1 + max (Phrase.depthAll body) rest.depth
  | _ => 0

def Phrase.depthAll : List Phrase → Nat
  | [] => 0
  | phrase :: phrases => max phrase.depth (Phrase.depthAll phrases)

def Branches.depth : Branches → Nat
  | .done _ => 0
  | .otherwise _ body _ => Phrase.depthAll body
  | .elseIf _ _ body rest => max (Phrase.depthAll body) rest.depth

end

mutual

/-- The number of iterations in a phrase. -/
def Phrase.iterations : Phrase → Nat
  | .each _ _ body _ => 1 + Phrase.iterationsAll body
  | .eachElse _ _ body _ empty _ =>
    1 + (Phrase.iterationsAll body + Phrase.iterationsAll empty)
  | .choose _ _ body rest => Phrase.iterationsAll body + rest.iterations
  | _ => 0

def Phrase.iterationsAll : List Phrase → Nat
  | [] => 0
  | phrase :: phrases => phrase.iterations + Phrase.iterationsAll phrases

def Branches.iterations : Branches → Nat
  | .done _ => 0
  | .otherwise _ body _ => Phrase.iterationsAll body
  | .elseIf _ _ body rest => Phrase.iterationsAll body + rest.iterations

end

mutual

/-- The node that a phrase stands for within some open iterations, when `next`
is the number of the next iteration. -/
def Phrase.node (known : Catalog) (scope : Scope) (next : Nat) : Phrase → Node
  | .text content => .text content
  | .print placeholder => .print (placeholder.resolve known scope)
  | .set name subscripts body _ =>
    .set name (Markup.Argument.resolveAll known scope subscripts)
      (body.map (Part.resolve known scope))
  | .inclusion kind destination once _ =>
    .inclusion (destination.resolve known scope) once kind
  | .each opening _ body _ =>
    .each next opening.rowAlias (opening.source known scope)
      (Phrase.nodes known ((opening.rowAlias, next) :: scope) (next + 1) body)
      none
  | .eachElse opening _ body _ empty _ =>
    .each next opening.rowAlias (opening.source known scope)
      (Phrase.nodes known ((opening.rowAlias, next) :: scope) (next + 1) body)
      (some
        (Phrase.nodes known scope (next + 1 + Phrase.iterationsAll body) empty))
  | .choose parts _ body rest =>
    .choose ⟨parts.map (Part.resolve known scope)⟩
      (Phrase.nodes known scope next body)
      (rest.alternative known scope (next + Phrase.iterationsAll body))

/-- The nodes that phrases stand for. -/
def Phrase.nodes (known : Catalog) (scope : Scope) (next : Nat) :
    List Phrase → List Node
  | [] => []
  | phrase :: phrases =>
    phrase.node known scope next ::
      Phrase.nodes known scope (next + phrase.iterations) phrases

/-- What follows the first branch of a condition. -/
def Branches.alternative (known : Catalog) (scope : Scope) (next : Nat) :
    Branches → Alternative
  | .done _ => .done
  | .otherwise _ body _ => .otherwise (Phrase.nodes known scope next body)
  | .elseIf parts _ body rest =>
    .elseIf ⟨parts.map (Part.resolve known scope)⟩
      (Phrase.nodes known scope next body)
      (rest.alternative known scope (next + Phrase.iterationsAll body))

end

/-! ## Derivations are determined by their tokens -/

/-- Where phrases end: with the last token, or at a tag that ends a part of a
construct. -/
inductive AtStop : List Token → Prop
  | ended : AtStop []
  | foreachElse (raw : String) (tail : List Token) :
      AtStop (.tag .foreachElse raw :: tail)
  | endForeach (raw : String) (tail : List Token) :
      AtStop (.tag .endForeach raw :: tail)
  | elseIf (parts : List Part) (raw : String) (tail : List Token) :
      AtStop (.tag (.elseIf parts) raw :: tail)
  | otherwise (raw : String) (tail : List Token) :
      AtStop (.tag .otherwise raw :: tail)
  | endCondition (raw : String) (tail : List Token) :
      AtStop (.tag .endCondition raw :: tail)

theorem Opening.tag_injective {opening other : Opening}
    (same : opening.tag = other.tag) : opening = other := by
  cases opening <;> cases other <;> cases same <;> rfl

/-- No phrase goes on where phrases end. -/
theorem Phrase.not_atStop (phrase : Phrase) (rest : List Token) :
    ¬AtStop (phrase.tokens ++ rest) := by
  intro stop
  rcases phrase with
    _ | _ | _ | _ | ⟨_ | _, _, _, _⟩ | ⟨_ | _, _, _, _, _, _⟩ | _ <;> cases stop

/-- What follows the first branch of a condition ends this branch. -/
theorem Branches.atStop (branches : Branches) (rest : List Token) :
    AtStop (branches.tokens ++ rest) := by
  cases branches with
  | done close => exact .endCondition close rest
  | otherwise raw body close => exact .otherwise raw _
  | elseIf parts raw body others => exact .elseIf parts raw _

mutual

theorem Phrase.eq_of_tokens_append {phrase other : Phrase}
    {rest otherRest : List Token}
    (same : phrase.tokens ++ rest = other.tokens ++ otherRest) :
    phrase = other ∧ rest = otherRest := by
  match phrase with
  | .text _ | .print _ | .set _ _ _ _ | .inclusion _ _ _ _ =>
      -- only phrases of the same kind write the same first token
      rcases other with
        _ | _ | _ | _ | ⟨_ | _, _, _, _⟩ | ⟨_ | _, _, _, _, _, _⟩ | _ <;>
        cases same
      exact ⟨rfl, rfl⟩
  | .each opening raw body close =>
      cases other with
      | text _ | print _ | set _ _ _ _ | inclusion _ _ _ _ | choose _ _ _ _ =>
          cases opening <;> cases same
      | each otherOpening otherRaw otherBody otherClose =>
          simp only [Phrase.tokens, List.cons_append, List.append_assoc,
            List.cons.injEq, Token.tag.injEq] at same
          obtain ⟨⟨tags, rfl⟩, same⟩ := same
          obtain ⟨rfl, ending⟩ :=
            Phrase.eq_of_tokensAll_append (.endForeach _ _) (.endForeach _ _)
              same
          cases ending
          exact ⟨by rw [Opening.tag_injective tags], rfl⟩
      | eachElse otherOpening otherRaw otherBody between empty otherClose =>
          simp only [Phrase.tokens, List.cons_append, List.append_assoc,
            List.cons.injEq] at same
          obtain ⟨-, apart⟩ := Phrase.eq_of_tokensAll_append (.endForeach _ _)
            (.foreachElse _ _) same.2
          cases apart
  | .eachElse opening raw body between empty close =>
      cases other with
      | text _ | print _ | set _ _ _ _ | inclusion _ _ _ _ | choose _ _ _ _ =>
          cases opening <;> cases same
      | each otherOpening otherRaw otherBody otherClose =>
          simp only [Phrase.tokens, List.cons_append, List.append_assoc,
            List.cons.injEq] at same
          obtain ⟨-, apart⟩ := Phrase.eq_of_tokensAll_append (.foreachElse _ _)
            (.endForeach _ _) same.2
          cases apart
      | eachElse otherOpening otherRaw otherBody otherBetween otherEmpty
          otherClose =>
          simp only [Phrase.tokens, List.cons_append, List.append_assoc,
            List.cons.injEq, Token.tag.injEq] at same
          obtain ⟨⟨tags, rfl⟩, same⟩ := same
          obtain ⟨rfl, later⟩ :=
            Phrase.eq_of_tokensAll_append (.foreachElse _ _) (.foreachElse _ _)
              same
          simp only [List.cons.injEq, Token.tag.injEq, true_and] at later
          obtain ⟨rfl, later⟩ := later
          obtain ⟨rfl, ending⟩ :=
            Phrase.eq_of_tokensAll_append (.endForeach _ _) (.endForeach _ _)
              later
          cases ending
          exact ⟨by rw [Opening.tag_injective tags], rfl⟩
  | .choose parts raw body branches =>
      cases other with
      | text _ | print _ | set _ _ _ _ | inclusion _ _ _ _ => cases same
      | each otherOpening _ _ _ | eachElse otherOpening _ _ _ _ _ =>
          cases otherOpening <;> cases same
      | choose otherParts otherRaw otherBody otherBranches =>
          simp only [Phrase.tokens, List.cons_append, List.append_assoc,
            List.cons.injEq, Token.tag.injEq, Tag.condition.injEq] at same
          obtain ⟨⟨rfl, rfl⟩, same⟩ := same
          obtain ⟨rfl, later⟩ :=
            Phrase.eq_of_tokensAll_append (branches.atStop _)
              (otherBranches.atStop _) same
          obtain ⟨rfl, rfl⟩ := Branches.eq_of_tokens_append later
          exact ⟨rfl, rfl⟩

theorem Phrase.eq_of_tokensAll_append {phrases others : List Phrase}
    {rest otherRest : List Token} (stop : AtStop rest)
    (otherStop : AtStop otherRest)
    (same :
      Phrase.tokensAll phrases ++ rest = Phrase.tokensAll others ++ otherRest) :
    phrases = others ∧ rest = otherRest := by
  match phrases, others with
  | [], [] => exact ⟨rfl, same⟩
  | [], other :: others =>
      rw [Phrase.tokensAll, Phrase.tokensAll, List.append_assoc,
        List.nil_append] at same
      exact absurd (same ▸ stop) (other.not_atStop _)
  | phrase :: phrases, [] =>
      rw [Phrase.tokensAll, Phrase.tokensAll, List.append_assoc,
        List.nil_append] at same
      exact absurd (same ▸ otherStop) (phrase.not_atStop _)
  | phrase :: phrases, other :: others =>
      rw [Phrase.tokensAll, Phrase.tokensAll, List.append_assoc,
        List.append_assoc] at same
      obtain ⟨rfl, later⟩ := Phrase.eq_of_tokens_append same
      obtain ⟨rfl, sameRest⟩ :=
        Phrase.eq_of_tokensAll_append stop otherStop later
      exact ⟨rfl, sameRest⟩

theorem Branches.eq_of_tokens_append {branches other : Branches}
    {rest otherRest : List Token}
    (same : branches.tokens ++ rest = other.tokens ++ otherRest) :
    branches = other ∧ rest = otherRest := by
  match branches with
  | .done _ =>
      cases other <;> cases same
      exact ⟨rfl, rfl⟩
  | .otherwise raw body close =>
      cases other with
      | done _ | elseIf _ _ _ _ => cases same
      | otherwise otherRaw otherBody otherClose =>
          simp only [Branches.tokens, List.cons_append, List.append_assoc,
            List.cons.injEq, Token.tag.injEq, true_and] at same
          obtain ⟨rfl, same⟩ := same
          obtain ⟨rfl, ending⟩ :=
            Phrase.eq_of_tokensAll_append (.endCondition _ _)
              (.endCondition _ _) same
          cases ending
          exact ⟨rfl, rfl⟩
  | .elseIf parts raw body others =>
      cases other with
      | done _ | otherwise _ _ _ => cases same
      | elseIf otherParts otherRaw otherBody otherBranches =>
          simp only [Branches.tokens, List.cons_append, List.append_assoc,
            List.cons.injEq, Token.tag.injEq, Tag.elseIf.injEq] at same
          obtain ⟨⟨rfl, rfl⟩, same⟩ := same
          obtain ⟨rfl, later⟩ := Phrase.eq_of_tokensAll_append (others.atStop _)
            (otherBranches.atStop _) same
          obtain ⟨rfl, rfl⟩ := Branches.eq_of_tokens_append later
          exact ⟨rfl, rfl⟩

end

/-- The tokens of a template have at most one derivation. -/
theorem Phrase.tokensAll_injective : Function.Injective Phrase.tokensAll := by
  intro phrases others same
  have extended :
      Phrase.tokensAll phrases ++ [] = Phrase.tokensAll others ++ [] := by
    rw [same]
  exact (Phrase.eq_of_tokensAll_append .ended .ended extended).1

end TemplateEngine
