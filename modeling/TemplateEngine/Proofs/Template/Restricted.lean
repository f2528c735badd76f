import TemplateEngine.Proofs.Template.Scoped
import TemplateEngine.Template.Compiled

/-!
# Known filters only

A template may be compiled with all filters taken to exist, or with those of a
catalog.  The second program is the first one without the calls of the filters
that the catalog does not know: every pass of the compiler does the same to a
template and to the template restricted to known filters.
-/

namespace TemplateEngine

variable (known : Catalog)

mutual

/-- Leaves out the filters that a catalog does not know, with their
arguments. -/
def Expr.restrict : Expr → Expr
  | .access reference subscripts =>
    .access reference (Argument.restrictAll subscripts)
  | .filter name input arguments =>
    if known name then .filter name input.restrict
      (Argument.restrictAll arguments)
    else input.restrict

def Argument.restrict : Argument → Argument
  | .int number => .int number
  | .text content => .text content
  | .expr inner => .expr inner.restrict

def Argument.restrictAll : List Argument → List Argument
  | [] => []
  | argument :: others => argument.restrict :: Argument.restrictAll others

end

def Piece.restrict : Piece → Piece
  | .text content => .text content
  | .expr inner => .expr (inner.restrict known)

@[simp] theorem Piece.restrict_text (content : String) :
    (Piece.text content).restrict known = .text content :=
  rfl

@[simp] theorem Piece.restrict_expr (inner : Expr) :
    (Piece.expr inner).restrict known = .expr (inner.restrict known) :=
  rfl

def Condition.restrict (condition : Condition) : Condition :=
  ⟨condition.pieces.map (Piece.restrict known)⟩

def Source.restrict : Source → Source
  | .collection expr => .collection (expr.restrict known)
  | source => source

def Target.restrict : Target → Target
  | .path name query =>
    .path name (query.map fun (field, value) => (field, value.restrict known))
  | .dynamic expr => .dynamic (expr.restrict known)

def Instruction.restrict : Instruction → Instruction
  | .print expr => .print (expr.restrict known)
  | .set name subscripts value =>
    .set name (Argument.restrictAll known subscripts)
      (value.map (Piece.restrict known))
  | .branch condition next => .branch (condition.restrict known) next
  | .elseBranch condition next exit =>
    .elseBranch (condition.restrict known) next exit
  | .openBlock id rowAlias source skip =>
    .openBlock id rowAlias (source.restrict known) skip
  | .inclusion target once kind => .inclusion (target.restrict known) once kind
  | instruction => instruction

def Program.restrict (program : Program) : Program :=
  ⟨program.instructions.map (Instruction.restrict known)⟩

theorem Program.getElem?_restrict (program : Program) (position : Nat) :
    (program.restrict known).instructions[position]? =
      program.instructions[position]?.map (Instruction.restrict known) :=
  List.getElem?_map

mutual

def Node.restrict : Node → Node
  | .text text => .text text
  | .print expr => .print (expr.restrict known)
  | .set name subscripts value =>
    .set name (Argument.restrictAll known subscripts)
      (value.map (Piece.restrict known))
  | .choose condition body rest =>
    .choose (condition.restrict known) (Node.restrictAll body) rest.restrict
  | .each id rowAlias source body none =>
    .each id rowAlias (source.restrict known) (Node.restrictAll body) none
  | .each id rowAlias source body (some empty) =>
    .each id rowAlias (source.restrict known) (Node.restrictAll body)
      (some (Node.restrictAll empty))
  | .inclusion target once kind => .inclusion (target.restrict known) once kind

def Node.restrictAll : List Node → List Node
  | [] => []
  | node :: nodes => node.restrict :: Node.restrictAll nodes

def Alternative.restrict : Alternative → Alternative
  | .done => .done
  | .otherwise body => .otherwise (Node.restrictAll body)
  | .elseIf condition body rest =>
    .elseIf (condition.restrict known) (Node.restrictAll body) rest.restrict

end

theorem Node.restrictAll_append (first second : List Node) :
    Node.restrictAll known (first ++ second) =
      Node.restrictAll known first ++ Node.restrictAll known second := by
  induction first with
  | nil => rfl
  | cons node first induction =>
      rw [List.cons_append, Node.restrictAll, Node.restrictAll, induction,
        List.cons_append]

theorem Node.restrict_ofBranches (earlier : List (Condition × List Node))
    (condition : Condition) (body : List Node) (rest : Alternative) :
    (Node.ofBranches earlier condition body rest).restrict known =
      Node.ofBranches
        (earlier.map fun (condition, body) =>
          (condition.restrict known, Node.restrictAll known body))
        (condition.restrict known) (Node.restrictAll known body)
        (rest.restrict known) := by
  induction earlier generalizing condition body rest with
  | nil => rfl
  | cons before earlier induction =>
      rw [Node.ofBranches, induction, Alternative.restrict]
      rfl

/-! ## Placeholders -/

namespace Markup

variable (scope : Scope)

theorem restrict_ofBare (text : String) :
    (TemplateEngine.Argument.ofBare text).restrict known = .ofBare text := by
  rcases TemplateEngine.Argument.ofBare_eq text with
    bare | ⟨number, -, bare⟩ <;> rw [bare] <;> rfl

mutual

theorem Placeholder.restrict_resolve (placeholder : Placeholder) :
    (placeholder.resolve Catalog.deferred scope).restrict known =
      placeholder.resolve known scope := by
  match placeholder with
  | ⟨raw, isValue, isConstant, first, rest, subscripts, filters⟩ =>
      rw [Placeholder.resolve, Placeholder.resolve,
        FilterCall.restrict_applyAll filters, Expr.restrict,
        Argument.restrictAll_resolveAll subscripts]

theorem Argument.restrict_resolve (argument : Argument) :
    (argument.resolve Catalog.deferred scope).restrict known =
      argument.resolve known scope := by
  match argument with
  | .bare text => exact restrict_ofBare known text
  | .quoted text => rfl
  | .value placeholder =>
      rw [Argument.resolve, Argument.resolve, TemplateEngine.Argument.restrict,
        Placeholder.restrict_resolve placeholder]

theorem Argument.restrictAll_resolveAll (arguments : List Argument) :
    TemplateEngine.Argument.restrictAll known
        (Argument.resolveAll Catalog.deferred scope arguments) =
      Argument.resolveAll known scope arguments := by
  match arguments with
  | [] => rfl
  | argument :: others =>
      rw [Argument.resolveAll, Argument.resolveAll,
        TemplateEngine.Argument.restrictAll, Argument.restrict_resolve argument,
        Argument.restrictAll_resolveAll others]

theorem FilterCall.restrict_applyAll (calls : List FilterCall) (input : Expr) :
    (FilterCall.applyAll Catalog.deferred scope input calls).restrict known =
      FilterCall.applyAll known scope (input.restrict known) calls := by
  match calls with
  | [] => rfl
  | ⟨name, arguments⟩ :: calls =>
      rw [FilterCall.applyAll, FilterCall.applyAll,
        FilterCall.restrict_applyAll calls,
        if_pos (show Catalog.deferred name = true from rfl), Expr.restrict,
        Argument.restrictAll_resolveAll arguments]

end

theorem Part.restrict_resolve (part : Part) :
    (part.resolve Catalog.deferred scope).restrict known =
      part.resolve known scope := by
  cases part with
  | text content => rfl
  | value placeholder =>
      rw [Part.resolve, Piece.restrict, Placeholder.restrict_resolve,
        Part.resolve]

theorem Part.restrict_resolveAll (parts : List Part) :
    (parts.map (Part.resolve Catalog.deferred scope)).map
        (Piece.restrict known) =
      parts.map (Part.resolve known scope) := by
  rw [List.map_map]
  apply List.map_congr_left
  intro part _
  exact Part.restrict_resolve known scope part

theorem Destination.restrict_resolve (destination : Destination) :
    (destination.resolve Catalog.deferred scope).restrict known =
      destination.resolve known scope := by
  cases destination with
  | path name query =>
      simp only [Destination.resolve, Target.restrict, List.map_map]
      congr 1
      apply List.map_congr_left
      rintro ⟨field, part⟩ _
      simp only [Function.comp_apply, Part.restrict_resolve]
  | dynamic placeholder =>
      rw [Destination.resolve, Target.restrict, Placeholder.restrict_resolve,
        Destination.resolve]

end Markup

/-! ## Matching tags -/

def OpenConstruct.restrict : OpenConstruct → OpenConstruct
  | .rows tag raw id rowAlias source nodes =>
    .rows tag raw id rowAlias (source.restrict known)
      (Node.restrictAll known nodes)
  | .noRows tag raw id rowAlias source body nodes =>
    .noRows tag raw id rowAlias (source.restrict known)
      (Node.restrictAll known body) (Node.restrictAll known nodes)
  | .branch raw earlier condition nodes =>
    .branch raw
      (earlier.map fun (condition, body) =>
        (condition.restrict known, Node.restrictAll known body))
      (condition.restrict known) (Node.restrictAll known nodes)
  | .otherwise raw earlier condition body nodes =>
    .otherwise raw
      (earlier.map fun (condition, body) =>
        (condition.restrict known, Node.restrictAll known body))
      (condition.restrict known) (Node.restrictAll known body)
      (Node.restrictAll known nodes)

namespace Nesting

open Markup (Token Tag)

def restrict (nesting : Nesting) : Nesting where
  stack := nesting.stack.map (OpenConstruct.restrict known)
  nodes := Node.restrictAll known nesting.nodes
  nextId := nesting.nextId

@[simp] theorem scope_restrict (nesting : Nesting) :
    (nesting.restrict known).scope = nesting.scope := by
  rw [scope, restrict, List.filterMap_map, scope]
  congr 1
  funext construct
  cases construct <;> rfl

theorem restrict_add (nesting : Nesting) (node : Node) :
    (nesting.add node).restrict known =
      (nesting.restrict known).add (node.restrict known) := by
  obtain ⟨stack, nodes, nextId⟩ := nesting
  cases stack with
  | nil => simp [add, restrict, Node.restrictAll_append, Node.restrictAll]
  | cons top stack =>
      cases top <;>
        simp [add, restrict, OpenConstruct.add, OpenConstruct.restrict,
          Node.restrictAll_append, Node.restrictAll]

theorem restrict_close (nesting : Nesting) (stack : List OpenConstruct)
    (node : Node) :
    (nesting.close stack node).restrict known =
      (nesting.restrict known).close (stack.map (OpenConstruct.restrict known))
        (node.restrict known) := by
  rw [close, restrict_add]
  rfl

theorem restrict_blockSource (nesting : Nesting) (name : String)
    (parent : Option String) :
    (nesting.blockSource name parent).restrict known =
      nesting.blockSource name parent := by
  cases parent with
  | none => rfl
  | some parent =>
      unfold blockSource
      dsimp only
      split <;> rfl

theorem blockSource_restrict (nesting : Nesting) (name : String)
    (parent : Option String) :
    (nesting.restrict known).blockSource name parent =
      nesting.blockSource name parent := by
  cases parent with
  | none => rfl
  | some parent => simp only [blockSource, scope_restrict]

theorem openRows_restrict (nesting : Nesting) (tag : TagName)
    (raw rowAlias : String) (source : Source) :
    (nesting.restrict known).openRows tag raw rowAlias (source.restrict known) =
      (nesting.openRows tag raw rowAlias source).map
        (Nesting.restrict known) := by
  unfold openRows
  simp only [restrict, List.length_map]
  split <;> rfl

theorem readTag_restrict (nesting : Nesting) (tag : Tag) (raw : String) :
    (nesting.restrict known).readTag known tag raw =
      (nesting.readTag Catalog.deferred tag raw).map
        (Nesting.restrict known) := by
  cases tag with
  | foreach collection rowAlias =>
      rw [readTag, readTag, ← openRows_restrict, scope_restrict,
        Source.restrict, Markup.Placeholder.restrict_resolve]
  | block name parent =>
      rw [readTag, readTag, ← openRows_restrict, restrict_blockSource,
        blockSource_restrict]
  | condition parts =>
      simp only [readTag, scope_restrict]
      simp only [restrict, List.length_map]
      split
      · rfl
      · simp only [Except.map, restrict, List.map_cons, OpenConstruct.restrict,
          Condition.restrict, Markup.Part.restrict_resolveAll, List.map_nil,
          Node.restrictAll]
  | foreachElse =>
      obtain ⟨_ | ⟨top, stack⟩, nodes, nextId⟩ := nesting
      · rfl
      · cases top <;> rfl
  | endForeach =>
      obtain ⟨_ | ⟨top, stack⟩, nodes, nextId⟩ := nesting
      · rfl
      · cases top with
        | rows tag raw id rowAlias source body =>
            have closed :=
              restrict_close known
                ⟨.rows tag raw id rowAlias source body :: stack, nodes, nextId⟩
                stack (.each id rowAlias source body none)
            rw [Node.restrict] at closed
            exact congrArg Except.ok closed.symm
        | noRows tag raw id rowAlias source body empty =>
            have closed :=
              restrict_close known
                ⟨.noRows tag raw id rowAlias source body empty :: stack, nodes,
                  nextId⟩ stack (.each id rowAlias source body (some empty))
            rw [Node.restrict] at closed
            exact congrArg Except.ok closed.symm
        | _ => rfl
  | elseIf parts =>
      rw [readTag, readTag, scope_restrict]
      obtain ⟨_ | ⟨top, stack⟩, nodes, nextId⟩ := nesting
      · rfl
      · cases top with
        | branch raw earlier condition body =>
            simp only [Except.map, restrict, List.map_cons,
              OpenConstruct.restrict, Condition.restrict,
              Markup.Part.restrict_resolveAll, Node.restrictAll]
        | _ => rfl
  | otherwise =>
      obtain ⟨_ | ⟨top, stack⟩, nodes, nextId⟩ := nesting
      · rfl
      · cases top <;> rfl
  | endCondition =>
      obtain ⟨_ | ⟨top, stack⟩, nodes, nextId⟩ := nesting
      · rfl
      · cases top with
        | branch raw earlier condition body =>
            have closed :=
              restrict_close known
                ⟨.branch raw earlier condition body :: stack, nodes, nextId⟩
                stack (.ofBranches earlier condition body .done)
            rw [Node.restrict_ofBranches] at closed
            exact congrArg Except.ok closed.symm
        | otherwise raw earlier condition body last =>
            have closed :=
              restrict_close known
                ⟨.otherwise raw earlier condition body last :: stack, nodes,
                  nextId⟩ stack
                (.ofBranches earlier condition body (.otherwise last))
            rw [Node.restrict_ofBranches] at closed
            exact congrArg Except.ok closed.symm
        | _ => rfl
  | inclusion kind destination once =>
      rw [readTag, readTag, Except.map, restrict_add, scope_restrict,
        Node.restrict, Markup.Destination.restrict_resolve]
  | set name subscripts body =>
      rw [readTag, readTag, Except.map, restrict_add, scope_restrict,
        Node.restrict, Markup.Argument.restrictAll_resolveAll,
        Markup.Part.restrict_resolveAll]

theorem read_restrict (nesting : Nesting) (token : Token) :
    (nesting.restrict known).read known token =
      (nesting.read Catalog.deferred token).map (Nesting.restrict known) := by
  cases token with
  | text content =>
      rw [read, read, Except.map, restrict_add, Node.restrict]
  | print placeholder =>
      rw [read, read, Except.map, restrict_add, scope_restrict, Node.restrict,
        Markup.Placeholder.restrict_resolve]
  | tag tag raw => exact readTag_restrict known nesting tag raw

theorem readAll_restrict (tokens : List Token) (nesting : Nesting) :
    (nesting.restrict known).readAll known tokens =
      (nesting.readAll Catalog.deferred tokens).map
        (Nesting.restrict known) := by
  induction tokens generalizing nesting with
  | nil => rfl
  | cons token tokens induction =>
      rw [readAll, readAll, read_restrict]
      cases nesting.read Catalog.deferred token with
      | error error => rfl
      | ok next => exact induction next

theorem finish_restrict (nesting : Nesting) :
    (nesting.restrict known).finish =
      nesting.finish.map (Node.restrictAll known) := by
  obtain ⟨_ | ⟨top, stack⟩, nodes, nextId⟩ := nesting
  · rfl
  · cases top <;> rfl

end Nesting

theorem Node.ofTokens_eq_map_restrict (tokens : List Markup.Token) :
    Node.ofTokens known tokens =
      (Node.ofTokens Catalog.deferred tokens).map (Node.restrictAll known) := by
  have started : Nesting.start.restrict known = Nesting.start := rfl
  rw [Node.ofTokens, Node.ofTokens, ← started, Nesting.readAll_restrict,
    started]
  cases Nesting.start.readAll Catalog.deferred tokens with
  | error error => rfl
  | ok nesting => exact nesting.finish_restrict known

/-! ## Laying out -/

mutual

theorem Node.size_restrict (node : Node) :
    (node.restrict known).size = node.size := by
  match node with
  | .text _ | .print _ | .set _ _ _ | .inclusion _ _ _ => rfl
  | .choose condition body rest =>
      rw [Node.restrict, Node.size, Node.size, Node.sizeAll_restrictAll body,
        Alternative.size_restrict rest]
  | .each id rowAlias source body none =>
      rw [Node.restrict, Node.size, Node.size, Node.sizeAll_restrictAll body]
  | .each id rowAlias source body (some empty) =>
      rw [Node.restrict, Node.size, Node.size, Node.sizeAll_restrictAll body,
        Node.sizeAll_restrictAll empty]

theorem Node.sizeAll_restrictAll (nodes : List Node) :
    Node.sizeAll (Node.restrictAll known nodes) = Node.sizeAll nodes := by
  match nodes with
  | [] => rfl
  | node :: nodes =>
      rw [Node.restrictAll, Node.sizeAll, Node.sizeAll, Node.size_restrict node,
        Node.sizeAll_restrictAll nodes]

theorem Alternative.size_restrict (rest : Alternative) :
    (rest.restrict known).size = rest.size := by
  match rest with
  | .done => rfl
  | .otherwise body =>
      rw [Alternative.restrict, Alternative.size, Alternative.size,
        Node.sizeAll_restrictAll body]
  | .elseIf condition body rest =>
      rw [Alternative.restrict, Alternative.size, Alternative.size,
        Node.sizeAll_restrictAll body, Alternative.size_restrict rest]

end

mutual

theorem Node.flatten_restrict (node : Node) (start : Nat) :
    (node.restrict known).flatten start =
      (node.flatten start).map (Instruction.restrict known) := by
  match node with
  | .text _ | .print _ | .set _ _ _ | .inclusion _ _ _ => rfl
  | .choose condition body rest =>
      simp only [Node.restrict, Node.flatten, Node.sizeAll_restrictAll,
        Alternative.size_restrict, Node.flattenAll_restrictAll body,
        Alternative.flatten_restrict rest, List.map_append, List.map_cons,
        Instruction.restrict]
  | .each id rowAlias source body none =>
      simp only [Node.restrict, Node.flatten, Node.sizeAll_restrictAll,
        Node.flattenAll_restrictAll body, List.map_append, List.map_cons,
        List.map_nil, Instruction.restrict]
  | .each id rowAlias source body (some empty) =>
      simp only [Node.restrict, Node.flatten, Node.sizeAll_restrictAll,
        Node.flattenAll_restrictAll body, Node.flattenAll_restrictAll empty,
        List.map_append, List.map_cons, List.map_nil, Instruction.restrict]

theorem Node.flattenAll_restrictAll (nodes : List Node) (start : Nat) :
    Node.flattenAll start (Node.restrictAll known nodes) =
      (Node.flattenAll start nodes).map (Instruction.restrict known) := by
  match nodes with
  | [] => rfl
  | node :: nodes =>
      rw [Node.restrictAll, Node.flattenAll, Node.flattenAll,
        Node.flatten_restrict node, Node.size_restrict,
        Node.flattenAll_restrictAll nodes, List.map_append]

theorem Alternative.flatten_restrict (rest : Alternative) (start exit : Nat) :
    (rest.restrict known).flatten start exit =
      (rest.flatten start exit).map (Instruction.restrict known) := by
  match rest with
  | .done => rfl
  | .otherwise body =>
      simp only [Alternative.restrict, Alternative.flatten,
        Node.flattenAll_restrictAll body, List.map_append, List.map_cons,
        List.map_nil, Instruction.restrict]
  | .elseIf condition body rest =>
      simp only [Alternative.restrict, Alternative.flatten,
        Node.sizeAll_restrictAll, Node.flattenAll_restrictAll body,
        Alternative.flatten_restrict rest, List.map_append, List.map_cons,
        Instruction.restrict]

end

/-! ## Compaction -/

namespace Compaction

theorem retarget_restrict (move : Nat → Nat) (instruction : Instruction) :
    (instruction.restrict known).retarget move =
      (instruction.retarget move).restrict known := by
  cases instruction <;> rfl

theorem kind_restrict (instruction : Instruction) :
    kind (instruction.restrict known) = kind instruction := by
  cases instruction <;> rfl

theorem firstKind_restrict (code : List Instruction) :
    firstKind (code.map (Instruction.restrict known)) = firstKind code := by
  cases code with
  | nil => rfl
  | cons instruction rest => exact kind_restrict known instruction

theorem stays_restrict (rule : TextRule) (before after : Neighbour)
    (instruction : Instruction) :
    stays rule before after (instruction.restrict known) =
      stays rule before after instruction := by
  cases instruction <;> rfl

/-- The same texts stay by any rule. -/
theorem marksBy_restrict (rule : TextRule) (before : Neighbour)
    (code : List Instruction) :
    marksBy rule before (code.map (Instruction.restrict known)) =
      marksBy rule before code := by
  induction code generalizing before with
  | nil => rfl
  | cons instruction rest induction =>
      rw [List.map_cons, marksBy, marksBy, firstKind_restrict, stays_restrict,
        kind_restrict, induction]

theorem prints_restrict (squeeze : Bool) (code : List Instruction) :
    prints squeeze false (code.map (Instruction.restrict known)) =
      prints squeeze false code := by
  have marked := prints_eq_marksBy squeeze .edge
  exact (marked _).trans
    ((marksBy_restrict known _ _ code).trans (marked code).symm)

theorem heads_restrict (code : List Instruction) :
    heads false (code.map (Instruction.restrict known)) = heads false code := by
  have marked := heads_eq_marksBy .edge
  exact (marked _).trans
    ((marksBy_restrict known _ _ code).trans (marked code).symm)

theorem keep_restrict (stays : List Bool) (code : List Instruction) :
    keep stays (code.map (Instruction.restrict known)) =
      (keep stays code).map (Instruction.restrict known) := by
  simp only [keep, List.zip_map_left, List.filter_map, List.map_map]
  congr 1
  funext entry
  exact retarget_restrict known _ entry.1

theorem joinTexts_restrict (code : List Instruction) :
    joinTexts (code.map (Instruction.restrict known)) =
      (joinTexts code).map (Instruction.restrict known) := by
  induction code with
  | nil => rfl
  | cons instruction rest induction =>
      cases instruction with
      | text content =>
          simp only [List.map_cons, Instruction.restrict, joinTexts, induction]
          rcases joinTexts rest with _ | ⟨next, others⟩
          · rfl
          · cases next <;> rfl
      | _ =>
          simp only [List.map_cons, Instruction.restrict, joinTexts, induction]

theorem merge_restrict (code : List Instruction) :
    merge (code.map (Instruction.restrict known)) =
      (merge code).map (Instruction.restrict known) := by
  rw [merge, merge, joinTexts_restrict, heads_restrict, List.map_map,
    List.map_map]
  congr 1
  funext instruction
  exact retarget_restrict known _ instruction

theorem compact_restrict (squeeze : Bool) (code : List Instruction) :
    compact squeeze (code.map (Instruction.restrict known)) =
      (compact squeeze code).map (Instruction.restrict known) := by
  rw [compact, prune, prints_restrict, keep_restrict, merge_restrict]
  rfl

end Compaction

/-- A template is compiled with a catalog as with all filters, except that the
program has only known filters; and it fails to compile with the same error. -/
theorem compile_eq_or_restrict (options : Options) (source : String) :
    (∃ error, compile options Catalog.deferred source = .error error ∧
        compile options known source = .error error) ∨
      ∃ ahead here, compile options Catalog.deferred source = .ok ahead ∧
        compile options known source = .ok here ∧
        here.program = ahead.program.restrict known := by
  unfold compile
  cases Markup.tokenize options
    (Markup.normalize options.tagNamespace source.toList) with
  | error error => exact .inl ⟨error, rfl, rfl⟩
  | ok tokens =>
      dsimp only
      rw [Node.ofTokens_eq_map_restrict known]
      cases Node.ofTokens Catalog.deferred tokens with
      | error error => exact .inl ⟨error, rfl, rfl⟩
      | ok nodes =>
          refine .inr ⟨_, _, rfl, rfl, ?_⟩
          rw [Program.restrict, Node.flattenAll_restrictAll,
            Compaction.compact_restrict]

end TemplateEngine
