import Mathlib.Logic.ExistsUnique
import TemplateEngine.Proofs.Template.Grammar
import TemplateEngine.Proofs.Template.Layout
import TemplateEngine.Template.Compiled

/-!
# Matching tags is parsing

Reading the tokens of a derivation adds its nodes to the innermost construct,
and tokens that are read to their end without a construct left open have a
derivation.
-/

namespace TemplateEngine

open Markup (Token Tag Part)

/-- Adds nodes to the part that is being read. -/
def OpenConstruct.addAll (added : List Node) : OpenConstruct → OpenConstruct
  | rows tag raw id rowAlias source nodes =>
    rows tag raw id rowAlias source (nodes ++ added)
  | noRows tag raw id rowAlias source body nodes =>
    noRows tag raw id rowAlias source body (nodes ++ added)
  | branch raw earlier condition nodes =>
    branch raw earlier condition (nodes ++ added)
  | otherwise raw earlier condition body nodes =>
    otherwise raw earlier condition body (nodes ++ added)

namespace Nesting

/-- Adds nodes with a number of iterations to the innermost construct. -/
def addAll (nesting : Nesting) (added : List Node) (iterations : Nat) :
    Nesting :=
  match nesting.stack with
  | [] => ⟨[], nesting.nodes ++ added, nesting.nextId + iterations⟩
  | top :: stack =>
    ⟨top.addAll added :: stack, nesting.nodes, nesting.nextId + iterations⟩

theorem addAll_nil (nesting : Nesting) : nesting.addAll [] 0 = nesting := by
  obtain ⟨_ | ⟨_ | _ | _ | _, stack⟩, nodes, nextId⟩ := nesting <;>
    simp [addAll, OpenConstruct.addAll]

theorem addAll_addAll (nesting : Nesting) (first second : List Node)
    (one two : Nat) :
    (nesting.addAll first one).addAll second two =
      nesting.addAll (first ++ second) (one + two) := by
  obtain ⟨_ | ⟨_ | _ | _ | _, stack⟩, nodes, nextId⟩ := nesting <;>
    simp [addAll, OpenConstruct.addAll, Nat.add_assoc]

theorem add_eq_addAll (nesting : Nesting) (node : Node) :
    nesting.add node = nesting.addAll [node] 0 := by
  obtain ⟨_ | ⟨_ | _ | _ | _, stack⟩, nodes, nextId⟩ := nesting <;> rfl

@[simp] theorem scope_addAll (nesting : Nesting) (added : List Node)
    (iterations : Nat) :
    (nesting.addAll added iterations).scope = nesting.scope := by
  obtain ⟨_ | ⟨_ | _ | _ | _, stack⟩, nodes, nextId⟩ := nesting <;> rfl

@[simp] theorem length_stack_addAll (nesting : Nesting) (added : List Node)
    (iterations : Nat) :
    (nesting.addAll added iterations).stack.length = nesting.stack.length := by
  obtain ⟨_ | ⟨top, stack⟩, nodes, nextId⟩ := nesting <;> rfl

@[simp] theorem nextId_addAll (nesting : Nesting) (added : List Node)
    (iterations : Nat) :
    (nesting.addAll added iterations).nextId = nesting.nextId + iterations := by
  obtain ⟨_ | ⟨top, stack⟩, nodes, nextId⟩ := nesting <;> rfl

theorem addAll_of_stack {nesting : Nesting} {top : OpenConstruct}
    {stack : List OpenConstruct} (innermost : nesting.stack = top :: stack)
    (added : List Node) (iterations : Nat) :
    nesting.addAll added iterations =
      ⟨top.addAll added :: stack, nesting.nodes,
        nesting.nextId + iterations⟩ := by
  rw [addAll, innermost]

theorem readAll_cons {known : Catalog} {nesting next : Nesting} {token : Token}
    (read : nesting.read known token = .ok next) (tokens : List Token) :
    nesting.readAll known (token :: tokens) = next.readAll known tokens := by
  rw [readAll, read]

/-- The next number is counted on alike by what is added and by what was read
before it. -/
theorem addAll_further (nesting : Nesting) {next iterations total : Nat}
    (counted : next + iterations = nesting.nextId + total) (added : List Node) :
    addAll ⟨nesting.stack, nesting.nodes, next⟩ added iterations =
      nesting.addAll added total := by
  obtain ⟨_ | ⟨top, stack⟩, nodes, nextId⟩ := nesting <;> simp [addAll, counted]

theorem readAll_added {known : Catalog} {nesting : Nesting} {token : Token}
    {node : Node} (read : nesting.read known token = .ok (nesting.add node))
    (tokens : List Token) :
    nesting.readAll known (token :: tokens) =
      (nesting.addAll [node] 0).readAll known tokens := by
  rw [readAll_cons read, add_eq_addAll]

theorem readAll_closed {known : Catalog} {nesting : Nesting} {token : Token}
    {node : Node} {stack : List OpenConstruct}
    (read : nesting.read known token = .ok (nesting.close stack node))
    (tokens : List Token) :
    nesting.readAll known (token :: tokens) =
      (addAll ⟨stack, nesting.nodes, nesting.nextId⟩ [node] 0).readAll known
        tokens := by
  rw [readAll_cons read, close, add_eq_addAll]

/-- A tag that opens an iteration. -/
theorem read_opening (known : Catalog) {nesting : Nesting} (opening : Opening)
    (raw : String) (shallow : nesting.stack.length < maxDepth) :
    nesting.read known (.tag opening.tag raw) =
      .ok
        ⟨.rows opening.tagName raw nesting.nextId opening.rowAlias
              (opening.source known nesting.scope) [] :: nesting.stack,
          nesting.nodes, nesting.nextId + 1⟩ := by
  have notDeep : ¬maxDepth ≤ nesting.stack.length := Nat.not_le.mpr shallow
  rcases opening with ⟨collection, rowAlias⟩ | ⟨name, _ | parent⟩ <;>
    exact if_neg notDeep

theorem read_condition (known : Catalog) {nesting : Nesting} (parts : List Part)
    (raw : String) (shallow : nesting.stack.length < maxDepth) :
    nesting.read known (.tag (.condition parts) raw) = .ok { nesting with
        stack :=
          .branch raw [] ⟨parts.map (Part.resolve known nesting.scope)⟩ [] ::
            nesting.stack } :=
  if_neg (Nat.not_le.mpr shallow)

end Nesting

open Nesting (readAll_cons)

mutual

/-- Reading the tokens of a phrase adds its node. -/
theorem Phrase.readAll_tokens (known : Catalog) (phrase : Phrase)
    {nesting : Nesting}
    (shallow : nesting.stack.length + phrase.depth ≤ maxDepth)
    (rest : List Token) :
    nesting.readAll known (phrase.tokens ++ rest) =
      (nesting.addAll [phrase.node known nesting.scope nesting.nextId]
        phrase.iterations).readAll known rest := by
  match phrase with
  | .text content => exact Nesting.readAll_added rfl rest
  | .print placeholder => exact Nesting.readAll_added rfl rest
  | .set name subscripts body raw => exact Nesting.readAll_added rfl rest
  | .inclusion kind destination once raw => exact Nesting.readAll_added rfl rest
  | .each opening raw body close =>
      rw [Phrase.depth] at shallow
      rw [Phrase.tokens, List.cons_append, List.append_assoc,
        readAll_cons (Nesting.read_opening known opening raw (by omega)),
        Phrase.readAll_tokensAll known body (by rw [List.length_cons]; omega),
        Nesting.addAll_of_stack rfl, List.singleton_append,
        Nesting.readAll_closed rfl]
      have counted : nesting.nextId + 1 + Phrase.iterationsAll body + 0 =
          nesting.nextId + (1 + Phrase.iterationsAll body) := by omega
      rw [Nesting.addAll_further nesting counted]
      rfl
  | .eachElse opening raw body between empty close =>
      rw [Phrase.depth] at shallow
      rw [Phrase.tokens, List.cons_append, List.append_assoc, List.cons_append,
        List.append_assoc,
        readAll_cons (Nesting.read_opening known opening raw (by omega)),
        Phrase.readAll_tokensAll known body (by rw [List.length_cons]; omega),
        Nesting.addAll_of_stack rfl, readAll_cons rfl,
        Phrase.readAll_tokensAll known empty (by rw [List.length_cons]; omega),
        Nesting.addAll_of_stack rfl, List.singleton_append,
        Nesting.readAll_closed rfl]
      have counted :
          nesting.nextId + 1 + Phrase.iterationsAll body +
              Phrase.iterationsAll empty + 0 =
            nesting.nextId +
              (1 +
                (Phrase.iterationsAll body + Phrase.iterationsAll empty)) := by
        omega
      rw [Nesting.addAll_further nesting counted]
      rfl
  | .choose parts raw body others =>
      rw [Phrase.depth] at shallow
      rw [Phrase.tokens, List.cons_append, List.append_assoc,
        readAll_cons (Nesting.read_condition known parts raw (by omega)),
        Phrase.readAll_tokensAll known body (by rw [List.length_cons]; omega),
        Nesting.addAll_of_stack rfl, OpenConstruct.addAll,
        Branches.readAll_tokens known others (by omega),
        Nesting.addAll_further nesting (Nat.add_assoc _ _ _)]
      rfl

theorem Phrase.readAll_tokensAll (known : Catalog) (phrases : List Phrase)
    {nesting : Nesting}
    (shallow : nesting.stack.length + Phrase.depthAll phrases ≤ maxDepth)
    (rest : List Token) :
    nesting.readAll known (Phrase.tokensAll phrases ++ rest) =
      (nesting.addAll (Phrase.nodes known nesting.scope nesting.nextId phrases)
        (Phrase.iterationsAll phrases)).readAll known rest := by
  match phrases with
  | [] =>
      rw [Phrase.nodes, Phrase.iterationsAll, Nesting.addAll_nil]
      rfl
  | phrase :: phrases =>
      rw [Phrase.depthAll] at shallow
      rw [Phrase.tokensAll, List.append_assoc,
        Phrase.readAll_tokens known phrase (by omega),
        Phrase.readAll_tokensAll known phrases
          (by rw [Nesting.length_stack_addAll]; omega), Nesting.addAll_addAll,
        Nesting.scope_addAll, Nesting.nextId_addAll]
      rfl

/-- Reading the tokens from the end of a branch on closes its condition. -/
theorem Branches.readAll_tokens (known : Catalog) (branches : Branches)
    {opened : String} {earlier : List (Condition × List Node)}
    {condition : Condition} {body : List Node} {stack : List OpenConstruct}
    {nodes : List Node} {nextId : Nat}
    (shallow : stack.length + 1 + branches.depth ≤ maxDepth)
    (rest : List Token) :
    Nesting.readAll known
        ⟨.branch opened earlier condition body :: stack, nodes, nextId⟩
        (branches.tokens ++ rest) =
      (Nesting.addAll ⟨stack, nodes, nextId⟩
        [.ofBranches earlier condition body (branches.alternative known
          (Nesting.scope ⟨stack, nodes, nextId⟩) nextId)]
        branches.iterations).readAll known rest := by
  match branches with
  | .done close =>
      rw [Branches.tokens, List.singleton_append, Nesting.readAll_closed rfl]
      rfl
  | .otherwise raw last close =>
      rw [Branches.depth] at shallow
      rw [Branches.tokens, List.cons_append, List.append_assoc,
        readAll_cons rfl,
        Phrase.readAll_tokensAll known last (by rw [List.length_cons]; omega),
        Nesting.addAll_of_stack rfl, List.singleton_append,
        Nesting.readAll_closed rfl,
        Nesting.addAll_further ⟨stack, nodes, nextId⟩ (Nat.add_zero _)]
      rfl
  | .elseIf parts raw next others =>
      rw [Branches.depth] at shallow
      rw [Branches.tokens, List.cons_append, List.append_assoc,
        readAll_cons rfl,
        Phrase.readAll_tokensAll known next (by rw [List.length_cons]; omega),
        Nesting.addAll_of_stack rfl, OpenConstruct.addAll,
        Branches.readAll_tokens known others (by omega),
        Nesting.addAll_further ⟨stack, nodes, nextId⟩ (Nat.add_assoc _ _ _)]
      rfl

end

/-! ## Every template that is read has a derivation -/

/-- Whether tokens are read to their end, with every construct closed. -/
def Nesting.Closes (known : Catalog) (nesting : Nesting) (tokens : List Token) :
    Prop :=
  ∃ final, nesting.readAll known tokens = .ok final ∧ final.stack = []

section

variable {known : Catalog}

theorem Nesting.Closes.of_cons {nesting : Nesting} {token : Token}
    {tokens : List Token} (closes : nesting.Closes known (token :: tokens)) :
    ∃ next, nesting.read known token = .ok next ∧ next.Closes known tokens := by
  obtain ⟨final, read, closed⟩ := closes
  rw [readAll] at read
  cases first : nesting.read known token with
  | error error =>
      rw [first] at read
      cases read
  | ok next =>
      rw [first] at read
      exact ⟨next, rfl, final, read, closed⟩

theorem Nesting.Closes.of_read {nesting next : Nesting} {token : Token}
    {tokens : List Token} (closes : nesting.Closes known (token :: tokens))
    (read : nesting.read known token = .ok next) :
    next.Closes known tokens := by
  rwa [Nesting.Closes, readAll_cons read] at closes

theorem Nesting.Closes.of_phrase {nesting : Nesting} {phrase : Phrase}
    {rest : List Token} (closes : nesting.Closes known (phrase.tokens ++ rest))
    (shallow : nesting.stack.length + phrase.depth ≤ maxDepth) :
    (nesting.addAll [phrase.node known nesting.scope nesting.nextId]
      phrase.iterations).Closes known rest := by
  rwa [Nesting.Closes, Phrase.readAll_tokens known phrase shallow] at closes

theorem Nesting.Closes.of_phrases {nesting : Nesting} {phrases : List Phrase}
    {rest : List Token}
    (closes : nesting.Closes known (Phrase.tokensAll phrases ++ rest))
    (shallow : nesting.stack.length + Phrase.depthAll phrases ≤ maxDepth) :
    (nesting.addAll (Phrase.nodes known nesting.scope nesting.nextId phrases)
      (Phrase.iterationsAll phrases)).Closes known rest := by
  rwa [Nesting.Closes, Phrase.readAll_tokensAll known phrases shallow] at closes

/-- A template is not read to its end while a construct is open. -/
theorem Nesting.not_closes_nil {top : OpenConstruct}
    {stack : List OpenConstruct} {nodes : List Node} {nextId : Nat} :
    ¬Nesting.Closes known ⟨top :: stack, nodes, nextId⟩ [] := by
  rintro ⟨final, read, closed⟩
  cases read
  cases closed

/-- The part for each row ends with its iteration or goes over to the part for
no rows. -/
theorem AtStop.of_rows {tag : TagName} {opened rowAlias : String}
    {id nextId : Nat} {source : Source} {body nodes : List Node}
    {stack : List OpenConstruct} {tokens : List Token} (stop : AtStop tokens)
    (closes :
      Nesting.Closes known
        ⟨.rows tag opened id rowAlias source body :: stack, nodes, nextId⟩
        tokens) :
    ∃ raw tail, tokens = .tag .endForeach raw :: tail ∨
      tokens = .tag .foreachElse raw :: tail := by
  cases stop with
  | ended => exact absurd closes Nesting.not_closes_nil
  | endForeach raw tail => exact ⟨raw, tail, .inl rfl⟩
  | foreachElse raw tail => exact ⟨raw, tail, .inr rfl⟩
  | elseIf _ _ _ | otherwise _ _ | endCondition _ _ =>
      obtain ⟨next, read, -⟩ := closes.of_cons
      cases read

/-- The part for no rows ends with its iteration. -/
theorem AtStop.of_noRows {tag : TagName} {opened rowAlias : String}
    {id nextId : Nat} {source : Source} {body empty nodes : List Node}
    {stack : List OpenConstruct} {tokens : List Token} (stop : AtStop tokens)
    (closes :
      Nesting.Closes known
        ⟨.noRows tag opened id rowAlias source body empty :: stack, nodes,
          nextId⟩ tokens) :
    ∃ raw tail, tokens = .tag .endForeach raw :: tail := by
  cases stop with
  | ended => exact absurd closes Nesting.not_closes_nil
  | endForeach raw tail => exact ⟨raw, tail, rfl⟩
  | foreachElse _ _ | elseIf _ _ _ | otherwise _ _ | endCondition _ _ =>
      obtain ⟨next, read, -⟩ := closes.of_cons
      cases read

/-- The last branch of a condition ends with it. -/
theorem AtStop.of_otherwise {opened : String} {nextId : Nat}
    {earlier : List (Condition × List Node)} {condition : Condition}
    {body last nodes : List Node} {stack : List OpenConstruct}
    {tokens : List Token} (stop : AtStop tokens)
    (closes :
      Nesting.Closes known
        ⟨.otherwise opened earlier condition body last :: stack, nodes, nextId⟩
        tokens) :
    ∃ raw tail, tokens = .tag .endCondition raw :: tail := by
  cases stop with
  | ended => exact absurd closes Nesting.not_closes_nil
  | endCondition raw tail => exact ⟨raw, tail, rfl⟩
  | foreachElse _ _ | elseIf _ _ _ | otherwise _ _ | endForeach _ _ =>
      obtain ⟨next, read, -⟩ := closes.of_cons
      cases read

/-- An iteration that is opened is not nested too deeply. -/
theorem Nesting.Closes.shallow_of_opening {nesting : Nesting}
    {opening : Opening} {raw : String} {tokens : List Token}
    (closes : nesting.Closes known (.tag opening.tag raw :: tokens)) :
    nesting.stack.length < maxDepth := by
  obtain ⟨next, read, -⟩ := closes.of_cons
  refine Nat.lt_of_not_le fun tooDeep => ?_
  cases opening <;>
    simp [Opening.tag, Nesting.read, readTag, openRows, tooDeep] at read

/-- A condition that is opened is not nested too deeply. -/
theorem Nesting.Closes.shallow_of_condition {nesting : Nesting}
    {parts : List Part} {raw : String} {tokens : List Token}
    (closes : nesting.Closes known (.tag (.condition parts) raw :: tokens)) :
    nesting.stack.length < maxDepth := by
  obtain ⟨next, read, -⟩ := closes.of_cons
  refine Nat.lt_of_not_le fun tooDeep => ?_
  simp [Nesting.read, readTag, tooDeep] at read

/-- Some phrases at the start of tokens, up to where phrases end, nested within
some room. -/
def Phrase.Begins (tokens : List Token) (room : Nat) : Prop :=
  ∃ phrases rest, tokens = Phrase.tokensAll phrases ++ rest ∧
    Phrase.depthAll phrases ≤ room ∧ AtStop rest

/-- A phrase at the start of tokens, nested within some room. -/
def Phrase.Starts (tokens : List Token) (room : Nat) : Prop :=
  ∃ (phrase : Phrase) (rest : List Token),
    tokens = phrase.tokens ++ rest ∧ phrase.depth ≤ room

theorem Phrase.length_tokens_pos (phrase : Phrase) :
    0 < phrase.tokens.length := by
  cases phrase <;> simp [Phrase.tokens]

section

/-! The phrases at the start of fewer than `bound` tokens are found already. -/

variable {bound : Nat}
  (shorter :
    ∀ (tokens : List Token) (nesting : Nesting) (room : Nat),
      tokens.length < bound → nesting.stack.length + room = maxDepth →
        nesting.Closes known tokens → Phrase.Begins tokens room)

include shorter

theorem Phrase.starts_opening {nesting : Nesting} {room : Nat}
    (opening : Opening) (raw : String) {tokens : List Token}
    (fewer : tokens.length < bound)
    (within : nesting.stack.length + room = maxDepth)
    (closes : nesting.Closes known (.tag opening.tag raw :: tokens)) :
    Phrase.Starts (.tag opening.tag raw :: tokens) room := by
  have shallow := closes.shallow_of_opening
  have inner := closes.of_read (Nesting.read_opening known opening raw shallow)
  obtain ⟨body, rest, rfl, bodyShallow, stop⟩ :=
    shorter tokens _ (room - 1) fewer (by rw [List.length_cons]; omega) inner
  have between := inner.of_phrases (by rw [List.length_cons]; omega)
  rw [Nesting.addAll_of_stack rfl, OpenConstruct.addAll] at between
  obtain ⟨middle, tail, rfl | rfl⟩ := stop.of_rows between
  · refine ⟨.each opening raw body middle, tail, ?_, ?_⟩
    · simp [Phrase.tokens]
    · rw [Phrase.depth]
      omega
  · have other := between.of_read rfl
    simp only [List.length_append, List.length_cons] at fewer
    obtain ⟨empty, rest, rfl, emptyShallow, stop⟩ :=
      shorter tail _ (room - 1) (by omega) (by rw [List.length_cons]; omega)
        other
    have last := other.of_phrases (by rw [List.length_cons]; omega)
    rw [Nesting.addAll_of_stack rfl, OpenConstruct.addAll] at last
    obtain ⟨close, tail, rfl⟩ := stop.of_noRows last
    refine ⟨.eachElse opening raw body middle empty close, tail, ?_, ?_⟩
    · simp [Phrase.tokens]
    · rw [Phrase.depth]
      omega

/-- The further branches of a condition, up to its end. -/
theorem Branches.exists_tokens_append (tokens : List Token) {opened : String}
    {earlier : List (Condition × List Node)} {condition : Condition}
    {body nodes : List Node} {stack : List OpenConstruct} {nextId room : Nat}
    (fewer : tokens.length < bound)
    (within : stack.length + 1 + room = maxDepth) (stop : AtStop tokens)
    (closes :
      Nesting.Closes known
        ⟨.branch opened earlier condition body :: stack, nodes, nextId⟩
        tokens) :
    ∃ branches rest,
      tokens = Branches.tokens branches ++ rest ∧ branches.depth ≤ room := by
  cases stop with
  | ended => exact absurd closes Nesting.not_closes_nil
  | endCondition raw tail => exact ⟨.done raw, tail, rfl, Nat.zero_le room⟩
  | foreachElse _ _ | endForeach _ _ =>
      obtain ⟨next, read, -⟩ := closes.of_cons
      cases read
  | otherwise raw tail =>
      have inner := closes.of_read rfl
      rw [List.length_cons] at fewer
      obtain ⟨last, rest, rfl, lastShallow, stop⟩ :=
        shorter tail _ room (by omega) (by rw [List.length_cons]; omega) inner
      have ending := inner.of_phrases (by rw [List.length_cons]; omega)
      rw [Nesting.addAll_of_stack rfl, OpenConstruct.addAll] at ending
      obtain ⟨close, tail, rfl⟩ := stop.of_otherwise ending
      refine ⟨.otherwise raw last close, tail, ?_, lastShallow⟩
      simp [Branches.tokens]
  | elseIf parts raw tail =>
      have inner := closes.of_read rfl
      rw [List.length_cons] at fewer
      obtain ⟨next, rest, rfl, nextShallow, stop⟩ :=
        shorter tail _ room (by omega) (by rw [List.length_cons]; omega) inner
      have between := inner.of_phrases (by rw [List.length_cons]; omega)
      rw [Nesting.addAll_of_stack rfl, OpenConstruct.addAll] at between
      rw [List.length_append] at fewer
      obtain ⟨others, rest, rfl, othersShallow⟩ :=
        Branches.exists_tokens_append rest (by omega) within stop between
      refine ⟨.elseIf parts raw next others, rest, ?_, ?_⟩
      · simp [Branches.tokens]
      · rw [Branches.depth]
        omega
  termination_by tokens.length

theorem Phrase.starts_condition {nesting : Nesting} {room : Nat}
    (parts : List Part) (raw : String) {tokens : List Token}
    (fewer : tokens.length < bound)
    (within : nesting.stack.length + room = maxDepth)
    (closes : nesting.Closes known (.tag (.condition parts) raw :: tokens)) :
    Phrase.Starts (.tag (.condition parts) raw :: tokens) room := by
  have shallow := closes.shallow_of_condition
  have inner := closes.of_read (Nesting.read_condition known parts raw shallow)
  obtain ⟨body, rest, rfl, bodyShallow, stop⟩ :=
    shorter tokens _ (room - 1) fewer (by rw [List.length_cons]; omega) inner
  have between := inner.of_phrases (by rw [List.length_cons]; omega)
  rw [Nesting.addAll_of_stack rfl, OpenConstruct.addAll] at between
  rw [List.length_append] at fewer
  have less : nesting.stack.length + 1 + (room - 1) = maxDepth := by omega
  obtain ⟨others, rest, rfl, othersShallow⟩ :=
    Branches.exists_tokens_append shorter rest (by omega) less stop between
  refine ⟨.choose parts raw body others, rest, ?_, ?_⟩
  · simp [Phrase.tokens]
  · rw [Phrase.depth]
    omega

/-- Tokens that are read to their end start with a phrase, unless no phrase goes
on there. -/
theorem Phrase.starts_of_closes {nesting : Nesting} {room : Nat}
    {tokens : List Token} (fewer : tokens.length ≤ bound)
    (within : nesting.stack.length + room = maxDepth)
    (closes : nesting.Closes known tokens) :
    AtStop tokens ∨ Phrase.Starts tokens room := by
  match tokens with
  | [] => exact .inl .ended
  | .text content :: tail =>
      exact .inr ⟨.text content, tail, rfl, Nat.zero_le room⟩
  | .print placeholder :: tail =>
      exact .inr ⟨.print placeholder, tail, rfl, Nat.zero_le room⟩
  | .tag tag raw :: tail =>
      cases tag with
      | foreach collection rowAlias =>
          exact .inr (Phrase.starts_opening shorter
            (.foreach collection rowAlias) raw fewer within closes)
      | block name parent =>
          exact .inr (Phrase.starts_opening shorter (.block name parent) raw
            fewer within closes)
      | condition parts =>
          exact .inr
            (Phrase.starts_condition shorter parts raw fewer within closes)
      | inclusion kind destination once =>
          exact .inr
            ⟨.inclusion kind destination once raw, tail, rfl, Nat.zero_le room⟩
      | set name subscripts body =>
          exact .inr
            ⟨.set name subscripts body raw, tail, rfl, Nat.zero_le room⟩
      | foreachElse => exact .inl (.foreachElse raw tail)
      | endForeach => exact .inl (.endForeach raw tail)
      | elseIf parts => exact .inl (.elseIf parts raw tail)
      | otherwise => exact .inl (.otherwise raw tail)
      | endCondition => exact .inl (.endCondition raw tail)

end

/-- Tokens that are read to their end start with phrases, up to where phrases
end. -/
theorem Phrase.begins_of_closes (tokens : List Token) (nesting : Nesting)
    (room : Nat) (within : nesting.stack.length + room = maxDepth)
    (closes : nesting.Closes known tokens) : Phrase.Begins tokens room := by
  have shorter : ∀ (others : List Token) (nesting : Nesting) (room : Nat),
      others.length < tokens.length → nesting.stack.length + room = maxDepth →
        nesting.Closes known others → Phrase.Begins others room :=
    fun others nesting room _ within closes =>
      Phrase.begins_of_closes others nesting room within closes
  rcases Phrase.starts_of_closes shorter (Nat.le_refl _) within closes with
    stop | ⟨phrase, tail, rfl, shallow⟩
  · exact ⟨[], tokens, rfl, Nat.zero_le room, stop⟩
  · have later := closes.of_phrase (by omega)
    have positive := phrase.length_tokens_pos
    obtain ⟨phrases, rest, rfl, shallowLater, stop⟩ :=
      shorter tail _ room (by rw [List.length_append]; omega)
        (by rw [Nesting.length_stack_addAll]; exact within) later
    refine ⟨phrase :: phrases, rest, ?_, ?_, stop⟩
    · rw [Phrase.tokensAll, List.append_assoc]
    · rw [Phrase.depthAll]
      omega
  termination_by tokens.length

/-- The tokens of phrases that are not nested too deeply have the nodes of the
phrases. -/
theorem Node.ofTokens_tokensAll (known : Catalog) {phrases : List Phrase}
    (shallow : Phrase.depthAll phrases ≤ maxDepth) :
    Node.ofTokens known (Phrase.tokensAll phrases) =
      .ok (Phrase.nodes known [] 1 phrases) := by
  have start :
      Nesting.start.stack.length + Phrase.depthAll phrases ≤ maxDepth := by
    simpa [Nesting.start]
  have read := Phrase.readAll_tokensAll known phrases start []
  rw [List.append_nil] at read
  rw [Node.ofTokens, read]
  rfl

/-- Every template has a derivation, of which its nodes are made. -/
theorem Node.exists_phrases_of_ofTokens {tokens : List Token}
    {nodes : List Node} (parsed : Node.ofTokens known tokens = .ok nodes) :
    ∃ phrases, tokens = Phrase.tokensAll phrases ∧
      Phrase.depthAll phrases ≤ maxDepth ∧
      nodes = Phrase.nodes known [] 1 phrases := by
  have closes : Nesting.start.Closes known tokens := by
    rw [Node.ofTokens] at parsed
    cases read : Nesting.start.readAll known tokens with
    | error error =>
        rw [read] at parsed
        cases parsed
    | ok final =>
        rw [read] at parsed
        refine ⟨final, read, ?_⟩
        obtain ⟨_ | ⟨top, stack⟩, nodes, nextId⟩ := final
        · rfl
        · cases parsed
  obtain ⟨phrases, rest, rfl, shallow, stop⟩ :=
    Phrase.begins_of_closes tokens .start maxDepth (by simp [Nesting.start])
      closes
  have ending := closes.of_phrases (by simpa [Nesting.start])
  cases stop with
  | ended =>
      rw [List.append_nil] at parsed ⊢
      refine ⟨phrases, rfl, shallow, ?_⟩
      rw [Node.ofTokens_tokensAll known shallow] at parsed
      exact (Except.ok.inj parsed).symm
  | foreachElse _ _ | endForeach _ _ | elseIf _ _ _ | otherwise _ _
  | endCondition _ _ =>
      obtain ⟨next, read, -⟩ := ending.of_cons
      cases read

end

/-- Tokens form a template exactly if they have a derivation that is not nested
too deeply; there is one derivation then, and the nodes are those it stands
for. -/
theorem Node.ofTokens_eq_ok_iff (known : Catalog) (tokens : List Token)
    (nodes : List Node) :
    Node.ofTokens known tokens = .ok nodes ↔
      ∃! phrases, tokens = Phrase.tokensAll phrases ∧
        Phrase.depthAll phrases ≤ maxDepth ∧
        nodes = Phrase.nodes known [] 1 phrases := by
  constructor
  · intro parsed
    obtain ⟨phrases, derived, shallow, same⟩ :=
      Node.exists_phrases_of_ofTokens parsed
    refine ⟨phrases, ⟨derived, shallow, same⟩, ?_⟩
    rintro others ⟨otherDerived, -, -⟩
    exact Phrase.tokensAll_injective (otherDerived.symm.trans derived)
  · rintro ⟨phrases, ⟨rfl, shallow, rfl⟩, -⟩
    exact Node.ofTokens_tokensAll known shallow

/-! ## Numbers -/

mutual

/-- The iterations of a phrase are numbered in the order of their opening
tags. -/
theorem Phrase.ids_node (known : Catalog) (scope : Scope) (next : Nat)
    (phrase : Phrase) :
    (phrase.node known scope next).ids =
      List.range' next phrase.iterations := by
  match phrase with
  | .text _ => rfl
  | .print _ => rfl
  | .set _ _ _ _ => rfl
  | .inclusion _ _ _ _ => rfl
  | .each opening raw body close =>
      rw [Phrase.node, Node.ids, Phrase.ids_nodes, Phrase.iterations,
        Nat.add_comm 1, List.range'_succ]
  | .eachElse opening raw body between empty close =>
      rw [Phrase.node, Node.ids, Phrase.ids_nodes, Phrase.ids_nodes,
        Phrase.iterations, Nat.add_comm 1, List.range'_succ,
        List.range'_append_1]
  | .choose parts raw body rest =>
      rw [Phrase.node, Node.ids, Phrase.ids_nodes, Branches.ids_alternative,
        Phrase.iterations, List.range'_append_1]

theorem Phrase.ids_nodes (known : Catalog) (scope : Scope) (next : Nat)
    (phrases : List Phrase) :
    Node.idsAll (Phrase.nodes known scope next phrases) =
      List.range' next (Phrase.iterationsAll phrases) := by
  match phrases with
  | [] => rfl
  | phrase :: phrases =>
      rw [Phrase.nodes, Node.idsAll, Phrase.ids_node, Phrase.ids_nodes,
        Phrase.iterationsAll, List.range'_append_1]

theorem Branches.ids_alternative (known : Catalog) (scope : Scope) (next : Nat)
    (branches : Branches) :
    (branches.alternative known scope next).ids =
      List.range' next branches.iterations := by
  match branches with
  | .done _ => rfl
  | .otherwise raw body close =>
      rw [Branches.alternative, Alternative.ids, Phrase.ids_nodes,
        Branches.iterations]
  | .elseIf parts raw body rest =>
      rw [Branches.alternative, Alternative.ids, Phrase.ids_nodes,
        Branches.ids_alternative, Branches.iterations, List.range'_append_1]

end

/-- No two iterations of a template have the same number. -/
theorem Node.nodup_ids_of_ofTokens {known : Catalog} {tokens : List Token}
    {nodes : List Node} (parsed : Node.ofTokens known tokens = .ok nodes) :
    (Node.idsAll nodes).Nodup := by
  obtain ⟨phrases, -, -, rfl⟩ := Node.exists_phrases_of_ofTokens parsed
  rw [Phrase.ids_nodes]
  exact List.nodup_range'

/-! ## Compiled templates -/

/-- What phrases compile to. -/
def Compiled.ofPhrases (options : Options) (known : Catalog)
    (phrases : List Phrase) : Compiled where
  program :=
    ⟨Compaction.compact options.compactWhitespace
      (Node.flattenAll 0 (Phrase.nodes known [] 1 phrases))⟩
  warnings := (Phrase.tokensAll phrases).flatMap (Token.warnings known)

/-- A source compiles exactly if its tokens are those of phrases that are not
nested too deeply. -/
theorem compile_eq_ok {options : Options} {known : Catalog} {source : String}
    {compiled : Compiled} :
    compile options known source = .ok compiled ↔
      ∃ phrases,
        Markup.tokenize options
              (Markup.normalize options.tagNamespace source.toList) =
            .ok (Phrase.tokensAll phrases) ∧
          Phrase.depthAll phrases ≤ maxDepth ∧
          compiled = .ofPhrases options known phrases := by
  constructor
  · intro compiles
    rw [compile] at compiles
    split at compiles
    · cases compiles
    next tokens tokenized =>
      split at compiles
      · cases compiles
      next nodes parsed =>
        cases compiles
        obtain ⟨phrases, rfl, shallow, rfl⟩ :=
          Node.exists_phrases_of_ofTokens parsed
        exact ⟨phrases, tokenized, shallow, rfl⟩
  · rintro ⟨phrases, tokenized, shallow, rfl⟩
    rw [compile, tokenized]
    dsimp only
    rw [Node.ofTokens_tokensAll known shallow]
    rfl

end TemplateEngine
