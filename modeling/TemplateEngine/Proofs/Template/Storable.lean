import TemplateEngine.Proofs.Program.Artifact
import TemplateEngine.Proofs.Template.Fitted

/-!
# Numbers of compiled templates

The integers of a template are read as integers of 64 bits.  Its iterations are
numbered from one on, and its instructions go on inside the program or at its
end, so that all other numbers are bounded by the number of instructions.
-/

namespace TemplateEngine

/-! ## Placeholders -/

/-- Whether the numbers of the iterations in a scope have 64 bits. -/
def Scope.Counted (scope : Scope) : Prop :=
  ∀ id ∈ scope.ids, Number.isCount id = true

theorem Scope.counted_nil : Scope.Counted [] :=
  List.forall_mem_nil _

theorem Scope.Counted.cons {scope : Scope} (counted : scope.Counted) {id : Nat}
    (counts : Number.isCount id = true) (rowAlias : String) :
    Scope.Counted ((rowAlias, id) :: scope) :=
  List.forall_mem_cons.mpr ⟨counts, counted⟩

theorem Scope.Counted.storable_reference {scope : Scope}
    (counted : scope.Counted) (first : String) (rest : List String) :
    (scope.reference first rest).Storable := by
  unfold Scope.reference
  cases rest.getLast? with
  | none => trivial
  | some last =>
      dsimp only
      cases found : scope.lookup first with
      | none => trivial
      | some id => exact counted id (Scope.mem_ids_of_lookup found)

theorem Argument.storable_ofBare (text : String) :
    (Argument.ofBare text).Storable := by
  rcases Argument.ofBare_eq text with bare | ⟨number, read, bare⟩
  · rw [bare]
    trivial
  · rw [bare]
    exact Number.isInteger_of_integer? read

namespace Markup

variable (known : Catalog) {scope : Scope}

mutual

theorem Placeholder.storable_resolve (counted : scope.Counted)
    (placeholder : Placeholder) :
    (placeholder.resolve known scope).Storable := by
  match placeholder with
  | ⟨raw, isValue, isConstant, first, rest, subscripts, filters⟩ =>
      rw [Placeholder.resolve]
      apply FilterCall.storable_applyAll counted filters
      refine ⟨?_, Argument.allStorable_resolveAll counted subscripts⟩
      cases isConstant with
      | true => trivial
      | false => exact counted.storable_reference first rest

theorem Argument.storable_resolve (counted : scope.Counted)
    (argument : Argument) : (argument.resolve known scope).Storable := by
  match argument with
  | .bare text =>
      rw [Argument.resolve]
      exact TemplateEngine.Argument.storable_ofBare text
  | .quoted text => trivial
  | .value placeholder => exact Placeholder.storable_resolve counted placeholder

theorem Argument.allStorable_resolveAll (counted : scope.Counted)
    (arguments : List Argument) :
    TemplateEngine.Argument.AllStorable
      (Argument.resolveAll known scope arguments) := by
  match arguments with
  | [] => trivial
  | argument :: others =>
      exact ⟨Argument.storable_resolve counted argument,
        Argument.allStorable_resolveAll counted others⟩

theorem FilterCall.storable_applyAll (counted : scope.Counted)
    (calls : List FilterCall) {input : Expr} (storable : input.Storable) :
    (FilterCall.applyAll known scope input calls).Storable := by
  match calls with
  | [] => exact storable
  | ⟨name, arguments⟩ :: calls =>
      apply FilterCall.storable_applyAll counted calls
      split
      · exact ⟨storable, Argument.allStorable_resolveAll counted arguments⟩
      · exact storable

end

theorem Part.storable_resolve (counted : scope.Counted) (part : Part) :
    (part.resolve known scope).Storable := by
  cases part with
  | text content => trivial
  | value placeholder => exact placeholder.storable_resolve known counted

theorem Part.storable_resolveAll (counted : scope.Counted) (parts : List Part) :
    ∀ piece ∈ parts.map (Part.resolve known scope), piece.Storable :=
  List.forall_mem_map.mpr fun part _ => part.storable_resolve known counted

theorem Destination.storable_resolve (counted : scope.Counted)
    (destination : Destination) :
    (destination.resolve known scope).Storable := by
  cases destination with
  | path name query =>
      exact List.forall_mem_map.mpr fun parameter _ =>
        parameter.2.storable_resolve known counted
  | dynamic placeholder => exact placeholder.storable_resolve known counted

end Markup

theorem Opening.storable_source (known : Catalog) {scope : Scope}
    (counted : scope.Counted) (opening : Opening) :
    (opening.source known scope).Storable := by
  rcases opening with ⟨collection, rowAlias⟩ | ⟨name, _ | parent⟩
  · exact collection.storable_resolve known counted
  · trivial
  · rw [Opening.source]
    cases found : scope.lookup parent with
    | none => trivial
    | some id => exact counted id (Scope.mem_ids_of_lookup found)

/-! ## Instructions -/

section

variable (known : Catalog)

mutual

/-- The data of the instructions of a phrase have numbers of 64 bits if its
iterations do. -/
theorem Phrase.storable_flatten {scope : Scope} (counted : scope.Counted)
    {next : Nat} (phrase : Phrase)
    (few : next + phrase.iterations ≤ 0x10000000000000000) (start : Nat) :
    ∀ instruction ∈ (phrase.node known scope next).flatten start,
      instruction.Storable := by
  match phrase with
  | .text content => exact List.forall_mem_singleton.mpr trivial
  | .print placeholder =>
      exact List.forall_mem_singleton.mpr
        (placeholder.storable_resolve known counted)
  | .set name subscripts body raw =>
      exact List.forall_mem_singleton.mpr
        ⟨Markup.Argument.allStorable_resolveAll known counted subscripts,
          Markup.Part.storable_resolveAll known counted body⟩
  | .inclusion kind destination once raw =>
      exact List.forall_mem_singleton.mpr
        (destination.storable_resolve known counted)
  | .each opening raw body close =>
      rw [Phrase.iterations] at few
      have counts : Number.isCount next = true := decide_eq_true (by omega)
      rw [Phrase.node, Node.flatten_each]
      simp only [List.forall_mem_cons, List.forall_mem_append]
      exact ⟨⟨counts, opening.storable_source known counted⟩,
        Phrase.storable_flattenAll (counted.cons counts _) body (by omega) _,
        counts, List.forall_mem_nil _⟩
  | .eachElse opening raw body between empty close =>
      rw [Phrase.iterations] at few
      have counts : Number.isCount next = true := decide_eq_true (by omega)
      rw [Phrase.node, Node.flatten_each_empty]
      simp only [List.forall_mem_cons, List.forall_mem_append]
      exact ⟨⟨counts, opening.storable_source known counted⟩,
        Phrase.storable_flattenAll (counted.cons counts _) body (by omega) _,
        counts, Phrase.storable_flattenAll counted empty (by omega) _, counts,
        List.forall_mem_nil _⟩
  | .choose parts raw body rest =>
      rw [Phrase.iterations] at few
      rw [Phrase.node, Node.flatten_choose]
      simp only [List.forall_mem_cons, List.forall_mem_append]
      exact ⟨Markup.Part.storable_resolveAll known counted parts,
        Phrase.storable_flattenAll counted body (by omega) _,
        Branches.storable_flatten counted rest (by omega) _ _⟩

theorem Phrase.storable_flattenAll {scope : Scope} (counted : scope.Counted)
    {next : Nat} (phrases : List Phrase)
    (few : next + Phrase.iterationsAll phrases ≤ 0x10000000000000000)
    (start : Nat) :
    ∀ instruction ∈ Node.flattenAll start
        (Phrase.nodes known scope next phrases),
      instruction.Storable := by
  match phrases with
  | [] => exact List.forall_mem_nil _
  | phrase :: phrases =>
      rw [Phrase.iterationsAll] at few
      exact List.forall_mem_append.mpr ⟨Phrase.storable_flatten counted phrase
          (by omega) _, Phrase.storable_flattenAll counted phrases (by omega) _⟩

theorem Branches.storable_flatten {scope : Scope} (counted : scope.Counted)
    {next : Nat} (branches : Branches)
    (few : next + branches.iterations ≤ 0x10000000000000000)
    (start exit : Nat) :
    ∀ instruction ∈ (branches.alternative known scope next).flatten start exit,
      instruction.Storable := by
  match branches with
  | .done _ => exact List.forall_mem_singleton.mpr trivial
  | .otherwise raw body close =>
      rw [Branches.alternative, Alternative.flatten_otherwise]
      simp only [List.forall_mem_cons, List.forall_mem_append]
      exact ⟨trivial, Phrase.storable_flattenAll counted body few _, trivial,
        List.forall_mem_nil _⟩
  | .elseIf parts raw body rest =>
      rw [Branches.iterations] at few
      rw [Branches.alternative, Alternative.flatten_elseIf]
      simp only [List.forall_mem_cons, List.forall_mem_append]
      exact ⟨Markup.Part.storable_resolveAll known counted parts,
        Phrase.storable_flattenAll counted body (by omega) _,
        Branches.storable_flatten counted rest (by omega) _ _⟩

end

end

/-! ## Compaction -/

theorem Instruction.storable_retarget (instruction : Instruction)
    (move : Nat → Nat) (storable : instruction.Storable) :
    (instruction.retarget move).Storable := by
  cases instruction <;> exact storable

/-! ## Positions and numbers of iterations -/

mutual

/-- The instructions of a node go on inside the node or right behind it. -/
theorem Node.targets_flatten (node : Node) {start bound : Nat}
    (inside : start + node.size ≤ bound) :
    ∀ instruction ∈ node.flatten start,
      ∀ target ∈ instruction.targets, target ≤ bound := by
  match node with
  | .text _ | .print _ | .set _ _ _ | .inclusion _ _ _ =>
      exact List.forall_mem_singleton.mpr (List.forall_mem_nil _)
  | .choose condition body rest =>
      rw [Node.size] at inside
      have positive := rest.size_pos
      rw [Node.flatten_choose]
      simp only [List.forall_mem_cons, List.forall_mem_append,
        Instruction.targets]
      exact ⟨⟨by omega, List.forall_mem_nil _⟩,
        Node.targets_flattenAll body (by omega),
        Alternative.targets_flatten rest (by omega) (by omega)⟩
  | .each id rowAlias source body none =>
      rw [Node.size] at inside
      rw [Node.flatten_each]
      simp only [List.forall_mem_cons, List.forall_mem_append,
        Instruction.targets]
      exact ⟨⟨by omega, List.forall_mem_nil _⟩,
        Node.targets_flattenAll body (by omega),
        ⟨by omega, List.forall_mem_nil _⟩, List.forall_mem_nil _⟩
  | .each id rowAlias source body (some empty) =>
      rw [Node.size] at inside
      rw [Node.flatten_each_empty]
      simp only [List.forall_mem_cons, List.forall_mem_append,
        Instruction.targets]
      exact ⟨⟨by omega, List.forall_mem_nil _⟩,
        Node.targets_flattenAll body (by omega),
        ⟨by omega, by omega, List.forall_mem_nil _⟩,
        Node.targets_flattenAll empty (by omega),
        ⟨by omega, List.forall_mem_nil _⟩, List.forall_mem_nil _⟩

theorem Node.targets_flattenAll (nodes : List Node) {start bound : Nat}
    (inside : start + Node.sizeAll nodes ≤ bound) :
    ∀ instruction ∈ Node.flattenAll start nodes, ∀ target ∈ instruction.targets,
      target ≤ bound := by
  match nodes with
  | [] => exact List.forall_mem_nil _
  | node :: nodes =>
      rw [Node.sizeAll] at inside
      exact List.forall_mem_append.mpr ⟨Node.targets_flatten node (by omega),
        Node.targets_flattenAll nodes (by omega)⟩

theorem Alternative.targets_flatten (rest : Alternative)
    {start exit bound : Nat} (inside : start + rest.size ≤ bound)
    (ends : exit ≤ bound) :
    ∀ instruction ∈ rest.flatten start exit,
      ∀ target ∈ instruction.targets, target ≤ bound := by
  match rest with
  | .done => exact List.forall_mem_singleton.mpr (List.forall_mem_nil _)
  | .otherwise body =>
      rw [Alternative.size] at inside
      rw [Alternative.flatten_otherwise]
      simp only [List.forall_mem_cons, List.forall_mem_append,
        Instruction.targets]
      exact ⟨⟨ends, List.forall_mem_nil _⟩,
        Node.targets_flattenAll body (by omega), List.forall_mem_nil _,
        List.forall_mem_nil _⟩
  | .elseIf condition body rest =>
      rw [Alternative.size] at inside
      rw [Alternative.flatten_elseIf]
      simp only [List.forall_mem_cons, List.forall_mem_append,
        Instruction.targets]
      exact ⟨⟨by omega, ends, List.forall_mem_nil _⟩,
        Node.targets_flattenAll body (by omega),
        Alternative.targets_flatten rest (by omega) ends⟩

end

mutual

theorem Node.length_ids_le (node : Node) : node.ids.length ≤ node.size := by
  match node with
  | .text _ | .print _ | .set _ _ _ | .inclusion _ _ _ => exact Nat.zero_le _
  | .choose condition body rest =>
      have inBody := Node.length_idsAll_le body
      have inRest := Alternative.length_ids_le rest
      rw [Node.ids, Node.size, List.length_append]
      omega
  | .each id rowAlias source body none =>
      have inBody := Node.length_idsAll_le body
      rw [Node.ids, Node.size, List.length_cons]
      omega
  | .each id rowAlias source body (some empty) =>
      have inBody := Node.length_idsAll_le body
      have inEmpty := Node.length_idsAll_le empty
      rw [Node.ids, Node.size, List.length_cons, List.length_append]
      omega

theorem Node.length_idsAll_le (nodes : List Node) :
    (Node.idsAll nodes).length ≤ Node.sizeAll nodes := by
  match nodes with
  | [] => exact Nat.zero_le _
  | node :: nodes =>
      have first := Node.length_ids_le node
      have others := Node.length_idsAll_le nodes
      rw [Node.idsAll, Node.sizeAll, List.length_append]
      omega

theorem Alternative.length_ids_le (rest : Alternative) :
    rest.ids.length ≤ rest.size := by
  match rest with
  | .done => exact Nat.zero_le _
  | .otherwise body =>
      have inBody := Node.length_idsAll_le body
      rw [Alternative.ids, Alternative.size]
      omega
  | .elseIf condition body rest =>
      have inBody := Node.length_idsAll_le body
      have inRest := Alternative.length_ids_le rest
      rw [Alternative.ids, Alternative.size, List.length_append]
      omega

end

/-! ## Compiled templates -/

/-- If the positions in a compiled template are counts, then all its numbers
have 64 bits. -/
theorem Program.storable_of_compile {options : Options} {known : Catalog}
    {source : String} {compiled : Compiled}
    (compiles : compile options known source = .ok compiled)
    (counts : Number.isCount compiled.program.size = true) :
    compiled.program.Storable := by
  obtain ⟨tokens, nodes, parsed, same⟩ := exists_nodes_of_compile compiles
  have size : compiled.program.size =
      Node.sizeAll (Node.compactAll options.compactWhitespace nodes) := by
    rw [same, Program.size, Node.length_flattenAll]
  have inside : Node.sizeAll (Node.compactAll options.compactWhitespace nodes) <
      0x10000000000000000 := by
    rw [size] at counts
    exact of_decide_eq_true counts
  have numbers :=
    Node.length_idsAll_le (Node.compactAll options.compactWhitespace nodes)
  rw [Node.idsAll_compactAll] at numbers
  rw [same]
  obtain ⟨phrases, -, -, rfl⟩ := Node.exists_phrases_of_ofTokens parsed
  rw [Phrase.ids_nodes, List.length_range'] at numbers
  have written :
      ∀ instruction ∈ Node.flattenAll 0 (Phrase.nodes known [] 1 phrases),
        instruction.Storable :=
    Phrase.storable_flattenAll known Scope.counted_nil phrases (by omega) 0
  have compacted := Compaction.forall_mem_compact (fun _ => trivial)
    Instruction.storable_retarget options.compactWhitespace written
  rw [Node.compact_flattenAll] at compacted
  intro instruction member
  refine ⟨compacted instruction member, fun target goesOn => decide_eq_true ?_⟩
  have bounded :=
    Node.targets_flattenAll _ (Nat.le_of_eq (Nat.zero_add _)) instruction member
      target goesOn
  omega

end TemplateEngine
