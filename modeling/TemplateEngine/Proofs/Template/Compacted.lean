import TemplateEngine.Proofs.Template.Thinned

/-!
# Compacted trees

A flattened tree that is compacted is another flattened tree, in which texts are
dropped and joined within each list of nodes.  Texts are joined in two steps:
each text first takes in the texts that follow it, and then the texts that
follow a text are dropped.
-/

namespace TemplateEngine

namespace Compaction

/-- The texts that stand first in a program, joined. -/
def leadingText : List Instruction → String
  | .text text :: rest => text ++ leadingText rest
  | _ => ""

/-- Lets each text take in the texts that follow it. -/
def absorb : List Instruction → List Instruction
  | [] => []
  | .text text :: rest => .text (text ++ leadingText rest) :: absorb rest
  | instruction :: rest => instruction :: absorb rest

theorem leadingText_of_firstKind {code : List Instruction}
    (noText : firstKind code ≠ .text) : leadingText code = "" := by
  match code with
  | [] => rfl
  | .text text :: rest => exact absurd rfl noText
  | .print _ :: _ | .set _ _ _ :: _ | .branch _ _ :: _ | .elseBranch _ _ _ :: _
  | .otherwise _ :: _ | .endBranch :: _ | .openBlock _ _ _ _ :: _
  | .elseBlock _ _ _ :: _ | .closeBlock _ _ :: _ | .inclusion _ _ _ :: _ => rfl

theorem firstKind_cons_directive {instruction : Instruction}
    (directive : kind instruction = .directive) (rest : List Instruction) :
    firstKind (instruction :: rest) ≠ .text := by
  rw [firstKind, directive]
  decide

theorem absorb_cons_directive {instruction : Instruction}
    (directive : kind instruction = .directive) (rest : List Instruction) :
    absorb (instruction :: rest) = instruction :: absorb rest := by
  cases instruction <;> first
    | rfl
    | cases directive

theorem joinTexts_cons_directive {instruction : Instruction}
    (directive : kind instruction = .directive) (rest : List Instruction) :
    joinTexts (instruction :: rest) = instruction :: joinTexts rest := by
  cases instruction <;> first
    | rfl
    | cases directive

section

variable {holds : Instruction → Prop} (ofText : ∀ text, holds (.text text))
  (retargeted :
    ∀ instruction move, holds instruction → holds (instruction.retarget move))

theorem forall_mem_keep {code : List Instruction} (marks : List Bool)
    (retargeted :
      ∀ instruction move, holds instruction → holds (instruction.retarget move))
    (all : ∀ instruction ∈ code, holds instruction) :
    ∀ instruction ∈ keep marks code, holds instruction := by
  rw [keep]
  refine List.forall_mem_map.mpr fun marked member => retargeted marked.1 _ ?_
  have inZip := (List.mem_filter.mp member).1
  exact all _ (List.of_mem_zip inZip).1

include ofText

theorem forall_mem_joinTexts {code : List Instruction}
    (all : ∀ instruction ∈ code, holds instruction) :
    ∀ instruction ∈ joinTexts code, holds instruction := by
  induction code with
  | nil => exact List.forall_mem_nil _
  | cons instruction rest induction =>
      obtain ⟨first, others⟩ := List.forall_mem_cons.mp all
      have joined := induction others
      cases instruction with
      | text content =>
          rw [joinTexts]
          split
          next next later same =>
            rw [same] at joined
            exact List.forall_mem_cons.mpr
              ⟨ofText _, (List.forall_mem_cons.mp joined).2⟩
          next => exact List.forall_mem_cons.mpr ⟨ofText _, joined⟩
      | _ =>
          rw [joinTexts_cons_directive rfl]
          exact List.forall_mem_cons.mpr ⟨first, joined⟩

include retargeted

/-- What holds of all texts and of instructions wherever they go on is kept by
compaction. -/
theorem forall_mem_compact {code : List Instruction} (squeeze : Bool)
    (all : ∀ instruction ∈ code, holds instruction) :
    ∀ instruction ∈ compact squeeze code, holds instruction :=
  List.forall_mem_map.mpr fun instruction member =>
    retargeted instruction _ (forall_mem_joinTexts ofText
      (forall_mem_keep _ retargeted all) instruction member)

end

/-- A text is joined with the texts that follow it. -/
theorem joinTexts_cons_text (text : String) (rest : List Instruction) :
    joinTexts (.text text :: rest) =
      .text (text ++ leadingText rest) ::
        joinTexts (rest.dropWhile Instruction.isText) := by
  induction rest generalizing text with
  | nil => simp [joinTexts, leadingText]
  | cons instruction rest induction =>
      cases instruction with
      | text next =>
          rw [joinTexts, induction next]
          rfl
      | _ =>
          rw [leadingText_of_firstKind (firstKind_cons_directive rfl _),
            String.append_empty]
          rfl

/-- Joining texts is letting each text take in those that follow it and dropping
these. -/
theorem keepBy_absorb (move : Nat → Nat) (before : Neighbour)
    (code : List Instruction) :
    keepBy move (marksBy leading before code) (absorb code) =
      (joinTexts
        (if before = .text then code.dropWhile Instruction.isText
          else code)).map (Instruction.retarget move) := by
  induction code generalizing before with
  | nil =>
      cases before <;> rfl
  | cons instruction rest induction =>
      cases instruction with
      | text text =>
          have later := induction .text
          rw [if_pos rfl] at later
          rw [marksBy, absorb, keepBy_cons, kind, later]
          cases before with
          | text => rfl
          | edge | directive =>
              exact congrArg (List.map (Instruction.retarget move))
                (joinTexts_cons_text text rest).symm
      | _ =>
          have later := induction .directive
          rw [if_neg (by decide)] at later
          rw [marksBy_cons_directive rfl, absorb_cons_directive rfl,
            keepBy_cons, later]
          cases before <;> rfl

/-- What a text takes in does not change which texts follow a text. -/
theorem marksBy_absorb (before : Neighbour) (code : List Instruction) :
    marksBy leading before (absorb code) = marksBy leading before code := by
  induction code generalizing before with
  | nil => rfl
  | cons instruction rest induction =>
      cases instruction with
      | text text =>
          rw [absorb, marksBy, marksBy, kind, induction]
          rfl
      | _ =>
          rw [absorb_cons_directive rfl, marksBy, marksBy, induction]
          rfl

theorem merge_eq_keep (code : List Instruction) :
    merge code = keep (marksBy leading .edge (absorb code)) (absorb code) := by
  rw [marksBy_absorb, keep_eq_keepBy, keepBy_absorb, if_neg (by decide),
    ← heads_eq_marksBy]
  rfl

end Compaction

/-! ## Joining the texts of a tree -/

/-- The texts that stand first in nodes, joined. -/
def Node.leadingText : List Node → String
  | .text content :: nodes => content ++ Node.leadingText nodes
  | _ => ""

mutual

/-- Lets each text take in the texts that follow it: a node that is a text takes
in `following`. -/
def Node.absorb (following : String) : Node → Node
  | .text content => .text (content ++ following)
  | .choose condition body rest =>
    .choose condition (Node.absorbAll body) rest.absorb
  | .each id rowAlias source body none =>
    .each id rowAlias source (Node.absorbAll body) none
  | .each id rowAlias source body (some empty) =>
    .each id rowAlias source (Node.absorbAll body) (some (Node.absorbAll empty))
  | node => node

/-- Lets each text of nodes take in the texts that follow it. -/
def Node.absorbAll : List Node → List Node
  | [] => []
  | node :: nodes =>
    node.absorb (Node.leadingText nodes) :: Node.absorbAll nodes

/-- Lets each text in the further branches of a condition take in the texts that
follow it. -/
def Alternative.absorb : Alternative → Alternative
  | .done => .done
  | .otherwise body => .otherwise (Node.absorbAll body)
  | .elseIf condition body rest =>
    .elseIf condition (Node.absorbAll body) rest.absorb

end

/-- A compacted tree: texts that do not stay are dropped and neighbouring texts
are joined. -/
def Node.compactAll (squeeze : Bool) (nodes : List Node) : List Node :=
  Node.thinAll Compaction.leading .edge .edge (Node.absorbAll
    (Node.thinAll (Compaction.printing squeeze) .edge .edge nodes))

mutual

theorem Node.size_absorb (following : String) (node : Node) :
    (node.absorb following).size = node.size := by
  match node with
  | .text _ => rfl
  | .print _ => rfl
  | .set _ _ _ => rfl
  | .inclusion _ _ _ => rfl
  | .choose condition body rest =>
      rw [Node.absorb, Node.size, Node.size, Node.sizeAll_absorbAll,
        Alternative.size_absorb]
  | .each id rowAlias source body none =>
      rw [Node.absorb, Node.size, Node.size, Node.sizeAll_absorbAll]
  | .each id rowAlias source body (some empty) =>
      rw [Node.absorb, Node.size, Node.size, Node.sizeAll_absorbAll,
        Node.sizeAll_absorbAll]

theorem Node.sizeAll_absorbAll (nodes : List Node) :
    Node.sizeAll (Node.absorbAll nodes) = Node.sizeAll nodes := by
  match nodes with
  | [] => rfl
  | node :: nodes =>
      rw [Node.absorbAll, Node.sizeAll, Node.sizeAll, Node.size_absorb,
        Node.sizeAll_absorbAll]

theorem Alternative.size_absorb (rest : Alternative) :
    rest.absorb.size = rest.size := by
  match rest with
  | .done => rfl
  | .otherwise body =>
      rw [Alternative.absorb, Alternative.size, Alternative.size,
        Node.sizeAll_absorbAll]
  | .elseIf condition body rest =>
      rw [Alternative.absorb, Alternative.size, Alternative.size,
        Node.sizeAll_absorbAll, Alternative.size_absorb]

end

/-- The first texts of a program are those of its tree, as no text stands behind
it. -/
theorem Node.leadingText_flattenAll (nodes : List Node) (start : Nat)
    {rest : List Instruction} (noText : Compaction.firstKind rest ≠ .text) :
    Compaction.leadingText (Node.flattenAll start nodes ++ rest) =
      Node.leadingText nodes := by
  match nodes with
  | [] => exact Compaction.leadingText_of_firstKind noText
  | .text content :: nodes =>
      have later := Node.leadingText_flattenAll nodes (start + 1) noText
      exact congrArg (content ++ ·) later
  | .print _ :: nodes | .set _ _ _ :: nodes | .inclusion _ _ _ :: nodes
  | .choose _ _ _ :: nodes | .each _ _ _ _ none :: nodes
  | .each _ _ _ _ (some _) :: nodes =>
      refine (Compaction.leadingText_of_firstKind ?_).trans rfl
      rw [Node.flattenAll, List.append_assoc, Node.firstKind_flatten]
      intro text
      cases text

mutual

/-- Letting the texts of a program take in what follows them does so in its
tree. -/
theorem Node.absorb_flatten (node : Node) (start : Nat)
    (rest : List Instruction) :
    Compaction.absorb (node.flatten start ++ rest) =
      (node.absorb (Compaction.leadingText rest)).flatten start ++
        Compaction.absorb rest := by
  match node with
  | .text _ => rfl
  | .print _ => rfl
  | .set _ _ _ => rfl
  | .inclusion _ _ _ => rfl
  | .choose condition body others =>
      have noText :
          Compaction.firstKind (others.flatten (start + 1 + Node.sizeAll body)
                (start + 1 + Node.sizeAll body + others.size - 1) ++ rest) ≠
            .text := by
        rw [Alternative.firstKind_flatten]
        decide
      rw [Node.flatten_choose, List.cons_append, List.append_assoc,
        Compaction.absorb_cons_directive rfl,
        Node.absorb_flattenAll body _ noText, Alternative.absorb_flatten,
        Node.absorb, Node.flatten_choose, Node.sizeAll_absorbAll,
        Alternative.size_absorb, List.cons_append, List.append_assoc]
  | .each id rowAlias source body none =>
      rw [Node.flatten_each, List.cons_append, List.append_assoc,
        Compaction.absorb_cons_directive rfl, List.singleton_append,
        Node.absorb_flattenAll body _
          (Compaction.firstKind_cons_directive rfl _),
        Compaction.absorb_cons_directive rfl, Node.absorb, Node.flatten_each,
        Node.sizeAll_absorbAll]
      simp
  | .each id rowAlias source body (some empty) =>
      rw [Node.flatten_each_empty, List.cons_append, List.append_assoc,
        Compaction.absorb_cons_directive rfl, List.cons_append,
        List.append_assoc,
        Node.absorb_flattenAll body _
          (Compaction.firstKind_cons_directive rfl _),
        Compaction.absorb_cons_directive rfl, List.singleton_append,
        Node.absorb_flattenAll empty _
          (Compaction.firstKind_cons_directive rfl _),
        Compaction.absorb_cons_directive rfl, Node.absorb,
        Node.flatten_each_empty, Node.sizeAll_absorbAll, Node.sizeAll_absorbAll]
      simp

theorem Node.absorb_flattenAll (nodes : List Node) (start : Nat)
    {rest : List Instruction} (noText : Compaction.firstKind rest ≠ .text) :
    Compaction.absorb (Node.flattenAll start nodes ++ rest) =
      Node.flattenAll start (Node.absorbAll nodes) ++
        Compaction.absorb rest := by
  match nodes with
  | [] => rfl
  | node :: nodes =>
      rw [Node.flattenAll, List.append_assoc, Node.absorb_flatten,
        Node.leadingText_flattenAll nodes _ noText,
        Node.absorb_flattenAll nodes _ noText, Node.absorbAll, Node.flattenAll,
        Node.size_absorb, List.append_assoc]

theorem Alternative.absorb_flatten (alternative : Alternative)
    (start exit : Nat) (rest : List Instruction) :
    Compaction.absorb (alternative.flatten start exit ++ rest) =
      alternative.absorb.flatten start exit ++ Compaction.absorb rest := by
  match alternative with
  | .done => rfl
  | .otherwise body =>
      rw [Alternative.flatten_otherwise, List.cons_append, List.append_assoc,
        Compaction.absorb_cons_directive rfl, List.singleton_append,
        Node.absorb_flattenAll body _
          (Compaction.firstKind_cons_directive rfl _),
        Compaction.absorb_cons_directive rfl, Alternative.absorb,
        Alternative.flatten_otherwise]
      simp
  | .elseIf condition body others =>
      have noText :
          Compaction.firstKind
              (others.flatten (start + 1 + Node.sizeAll body) exit ++ rest) ≠
            .text := by
        rw [Alternative.firstKind_flatten]
        decide
      rw [Alternative.flatten_elseIf, List.cons_append, List.append_assoc,
        Compaction.absorb_cons_directive rfl,
        Node.absorb_flattenAll body _ noText, Alternative.absorb_flatten,
        Alternative.absorb, Alternative.flatten_elseIf, Node.sizeAll_absorbAll,
        List.cons_append, List.append_assoc]

end

theorem Node.absorb_flattenAll_zero (nodes : List Node) :
    Compaction.absorb (Node.flattenAll 0 nodes) =
      Node.flattenAll 0 (Node.absorbAll nodes) := by
  have ended : Compaction.firstKind [] ≠ .text := by decide
  have absorbed := Node.absorb_flattenAll nodes 0 ended
  rwa [List.append_nil, Compaction.absorb, List.append_nil] at absorbed

/-- A flattened tree that is compacted is the flattened compacted tree. -/
theorem Node.compact_flattenAll (squeeze : Bool) (nodes : List Node) :
    Compaction.compact squeeze (Node.flattenAll 0 nodes) =
      Node.flattenAll 0 (Node.compactAll squeeze nodes) := by
  have pruned :
      Compaction.prune squeeze (Node.flattenAll 0 nodes) =
        Node.flattenAll 0
          (Node.thinAll (Compaction.printing squeeze) .edge .edge nodes) := by
    rw [← Node.keep_flattenAll, ← Compaction.prints_eq_marksBy]
    rfl
  rw [Compaction.compact, pruned, Compaction.merge_eq_keep,
    Node.absorb_flattenAll_zero, Node.keep_flattenAll]
  rfl

/-! ## The iterations of a compacted tree -/

section

variable (rule : TextRule)

mutual

theorem Node.ids_thin (node : Node) : (node.thin rule).ids = node.ids := by
  match node with
  | .text _ => rfl
  | .print _ => rfl
  | .set _ _ _ => rfl
  | .inclusion _ _ _ => rfl
  | .choose condition body rest =>
      rw [Node.thin, Node.ids, Node.ids, Node.idsAll_thinAll,
        Alternative.ids_thin]
  | .each id rowAlias source body none =>
      rw [Node.thin, Node.ids, Node.ids, Node.idsAll_thinAll]
  | .each id rowAlias source body (some empty) =>
      rw [Node.thin, Node.ids, Node.ids, Node.idsAll_thinAll,
        Node.idsAll_thinAll]

theorem Node.idsAll_thinAll (before after : Neighbour) (nodes : List Node) :
    Node.idsAll (Node.thinAll rule before after nodes) = Node.idsAll nodes := by
  match nodes with
  | [] => rfl
  | node :: nodes =>
      rw [Node.thinAll]
      split
      next => rw [Node.idsAll, Node.idsAll, Node.ids_thin, Node.idsAll_thinAll]
      next dropped =>
        rw [Node.idsAll_thinAll]
        cases node with
        | text content => rfl
        | _ => exact absurd rfl dropped

theorem Alternative.ids_thin (rest : Alternative) :
    (rest.thin rule).ids = rest.ids := by
  match rest with
  | .done => rfl
  | .otherwise body =>
      rw [Alternative.thin, Alternative.ids, Alternative.ids,
        Node.idsAll_thinAll]
  | .elseIf condition body rest =>
      rw [Alternative.thin, Alternative.ids, Alternative.ids,
        Node.idsAll_thinAll, Alternative.ids_thin]

end

end

mutual

theorem Node.ids_absorb (following : String) (node : Node) :
    (node.absorb following).ids = node.ids := by
  match node with
  | .text _ => rfl
  | .print _ => rfl
  | .set _ _ _ => rfl
  | .inclusion _ _ _ => rfl
  | .choose condition body rest =>
      rw [Node.absorb, Node.ids, Node.ids, Node.idsAll_absorbAll,
        Alternative.ids_absorb]
  | .each id rowAlias source body none =>
      rw [Node.absorb, Node.ids, Node.ids, Node.idsAll_absorbAll]
  | .each id rowAlias source body (some empty) =>
      rw [Node.absorb, Node.ids, Node.ids, Node.idsAll_absorbAll,
        Node.idsAll_absorbAll]

theorem Node.idsAll_absorbAll (nodes : List Node) :
    Node.idsAll (Node.absorbAll nodes) = Node.idsAll nodes := by
  match nodes with
  | [] => rfl
  | node :: nodes =>
      rw [Node.absorbAll, Node.idsAll, Node.idsAll, Node.ids_absorb,
        Node.idsAll_absorbAll]

theorem Alternative.ids_absorb (rest : Alternative) :
    rest.absorb.ids = rest.ids := by
  match rest with
  | .done => rfl
  | .otherwise body =>
      rw [Alternative.absorb, Alternative.ids, Alternative.ids,
        Node.idsAll_absorbAll]
  | .elseIf condition body rest =>
      rw [Alternative.absorb, Alternative.ids, Alternative.ids,
        Node.idsAll_absorbAll, Alternative.ids_absorb]

end

/-- Compaction keeps the iterations of a tree. -/
theorem Node.idsAll_compactAll (squeeze : Bool) (nodes : List Node) :
    Node.idsAll (Node.compactAll squeeze nodes) = Node.idsAll nodes := by
  rw [Node.compactAll, Node.idsAll_thinAll, Node.idsAll_absorbAll,
    Node.idsAll_thinAll]

end TemplateEngine
