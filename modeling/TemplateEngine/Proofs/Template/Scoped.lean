import TemplateEngine.Proofs.Program.Scopes
import TemplateEngine.Proofs.Template.Compacted
import TemplateEngine.Proofs.Template.Parsed

/-!
# Placeholders read rows of iterations around them

A placeholder is resolved with the iterations around it, and compaction does not
move it.  So every expression of a template reads the active rows of such
iterations only.
-/

namespace TemplateEngine

/-- The numbers of the iterations in a scope, innermost first. -/
def Scope.ids (scope : Scope) : List Nat :=
  scope.map Prod.snd

theorem Scope.mem_ids_of_lookup {scope : Scope} {rowAlias : String} {id : Nat}
    (found : scope.lookup rowAlias = some id) : id ∈ scope.ids := by
  obtain ⟨before, after, rfl, -⟩ := List.lookup_eq_some_iff.mp found
  simp [ids]

theorem Scope.frames_reference (scope : Scope) (first : String)
    (rest : List String) : (scope.reference first rest).frames ⊆ scope.ids := by
  unfold Scope.reference
  cases rest.getLast? with
  | none => exact List.nil_subset _
  | some last =>
      cases found : scope.lookup first with
      | none => exact List.nil_subset _
      | some id =>
          simpa [found, Reference.frames] using Scope.mem_ids_of_lookup found

theorem Argument.ofBare_eq (text : String) :
    Argument.ofBare text = .text text ∨
      ∃ number, Number.integer? text.toList = some number ∧
        Argument.ofBare text = .int number := by
  unfold Argument.ofBare
  cases Number.integer? text.toList with
  | none => simp
  | some number =>
      refine (Decidable.em _).elim (fun padded => .inl (if_pos padded))
        fun plain => .inr ?_
      exact ⟨number, rfl, if_neg plain⟩

theorem Argument.frames_ofBare (text : String) :
    (Argument.ofBare text).frames = [] := by
  rcases Argument.ofBare_eq text with
    bare | ⟨number, -, bare⟩ <;> rw [bare] <;> rfl

namespace Markup

variable (known : Catalog) (scope : Scope)

mutual

theorem Placeholder.frames_resolve (placeholder : Placeholder) :
    (placeholder.resolve known scope).frames ⊆ scope.ids := by
  match placeholder with
  | ⟨raw, isValue, isConstant, first, rest, subscripts, filters⟩ =>
      rw [Placeholder.resolve]
      apply FilterCall.frames_applyAll filters
      rw [Expr.frames]
      apply List.append_subset.mpr
      refine ⟨?_, Argument.allFrames_resolveAll subscripts⟩
      cases isConstant with
      | true => exact List.nil_subset _
      | false => exact scope.frames_reference first rest

theorem Argument.frames_resolve (argument : Argument) :
    (argument.resolve known scope).frames ⊆ scope.ids := by
  match argument with
  | .bare text =>
      rw [Argument.resolve, TemplateEngine.Argument.frames_ofBare]
      exact List.nil_subset _
  | .quoted text => exact List.nil_subset _
  | .value placeholder => exact Placeholder.frames_resolve placeholder

theorem Argument.allFrames_resolveAll (arguments : List Argument) :
    TemplateEngine.Argument.allFrames
        (Argument.resolveAll known scope arguments) ⊆
      scope.ids := by
  match arguments with
  | [] => exact List.nil_subset _
  | argument :: others =>
      exact List.append_subset.mpr
        ⟨Argument.frames_resolve argument, Argument.allFrames_resolveAll others⟩

theorem FilterCall.frames_applyAll (calls : List FilterCall) {input : Expr}
    (within : input.frames ⊆ scope.ids) :
    (FilterCall.applyAll known scope input calls).frames ⊆ scope.ids := by
  match calls with
  | [] => exact within
  | ⟨name, arguments⟩ :: calls =>
      apply FilterCall.frames_applyAll calls
      split
      · exact List.append_subset.mpr
          ⟨within, Argument.allFrames_resolveAll arguments⟩
      · exact within

end

variable {known scope}

theorem Part.frames_resolve (part : Part) :
    (part.resolve known scope).frames ⊆ scope.ids := by
  cases part with
  | text content => exact List.nil_subset _
  | value placeholder =>
      exact Placeholder.frames_resolve known scope placeholder

theorem Part.frames_resolveAll (parts : List Part) :
    (parts.map (Part.resolve known scope)).flatMap Piece.frames ⊆
      scope.ids := by
  intro id member
  simp only [List.mem_flatMap, List.mem_map] at member
  obtain ⟨_, ⟨part, -, rfl⟩, member⟩ := member
  exact Part.frames_resolve part member

theorem Destination.frames_resolve (destination : Destination) :
    (destination.resolve known scope).frames ⊆ scope.ids := by
  cases destination with
  | path name query =>
      intro id member
      simp only [Destination.resolve, Target.frames, List.mem_flatMap,
        List.mem_map] at member
      obtain ⟨_, ⟨⟨field, part⟩, -, rfl⟩, member⟩ := member
      exact Part.frames_resolve part member
  | dynamic placeholder =>
      exact Placeholder.frames_resolve known scope placeholder

end Markup

theorem Opening.frames_source (known : Catalog) (scope : Scope)
    (opening : Opening) : (opening.source known scope).frames ⊆ scope.ids := by
  rcases opening with ⟨collection, rowAlias⟩ | ⟨name, _ | parent⟩
  · exact Markup.Placeholder.frames_resolve known scope collection
  · exact List.nil_subset _
  · rw [Opening.source]
    cases found : scope.lookup parent with
    | none => exact List.nil_subset _
    | some id => simpa [Source.frames] using Scope.mem_ids_of_lookup found

/-! ## Nodes within iterations -/

mutual

/-- Whether a node reads the active rows of given iterations and of its own
only. -/
def Node.Within (around : List Nat) : Node → Prop
  | .text _ => True
  | .print expr => expr.frames ⊆ around
  | .set _ subscripts value =>
    Argument.allFrames subscripts ++ value.flatMap Piece.frames ⊆ around
  | .choose condition body rest =>
    condition.frames ⊆ around ∧ Node.WithinAll around body ∧ rest.Within around
  | .each id _ source body none =>
    source.frames ⊆ around ∧ Node.WithinAll (id :: around) body
  | .each id _ source body (some empty) =>
    source.frames ⊆ around ∧ Node.WithinAll (id :: around) body ∧
      Node.WithinAll around empty
  | .inclusion target _ _ => target.frames ⊆ around

def Node.WithinAll (around : List Nat) : List Node → Prop
  | [] => True
  | node :: nodes => node.Within around ∧ Node.WithinAll around nodes

def Alternative.Within (around : List Nat) : Alternative → Prop
  | .done => True
  | .otherwise body => Node.WithinAll around body
  | .elseIf condition body rest =>
    condition.frames ⊆ around ∧ Node.WithinAll around body ∧ rest.Within around

end

section

variable (known : Catalog)

mutual

/-- The node of a phrase reads the active rows of the iterations in its scope
only. -/
theorem Phrase.within_node (scope : Scope) (next : Nat) (phrase : Phrase) :
    (phrase.node known scope next).Within scope.ids := by
  match phrase with
  | .text content => trivial
  | .print placeholder => exact placeholder.frames_resolve known scope
  | .set name subscripts body raw =>
      exact List.append_subset.mpr ⟨Markup.Argument.allFrames_resolveAll known
          scope subscripts, Markup.Part.frames_resolveAll body⟩
  | .inclusion kind destination once raw => exact destination.frames_resolve
  | .each opening raw body close =>
      exact ⟨opening.frames_source known scope,
        Phrase.within_nodes ((opening.rowAlias, next) :: scope) (next + 1) body⟩
  | .eachElse opening raw body between empty close =>
      exact ⟨opening.frames_source known scope,
        Phrase.within_nodes ((opening.rowAlias, next) :: scope) (next + 1) body,
        Phrase.within_nodes scope _ empty⟩
  | .choose parts raw body rest =>
      exact ⟨Markup.Part.frames_resolveAll parts,
        Phrase.within_nodes scope next body,
        Branches.within_alternative scope _ rest⟩

theorem Phrase.within_nodes (scope : Scope) (next : Nat)
    (phrases : List Phrase) :
    Node.WithinAll scope.ids (Phrase.nodes known scope next phrases) := by
  match phrases with
  | [] => trivial
  | phrase :: phrases =>
      exact ⟨Phrase.within_node scope next phrase,
        Phrase.within_nodes scope _ phrases⟩

theorem Branches.within_alternative (scope : Scope) (next : Nat)
    (branches : Branches) :
    (branches.alternative known scope next).Within scope.ids := by
  match branches with
  | .done _ => trivial
  | .otherwise raw body close => exact Phrase.within_nodes scope next body
  | .elseIf parts raw body rest =>
      exact ⟨Markup.Part.frames_resolveAll parts,
        Phrase.within_nodes scope next body,
        Branches.within_alternative scope _ rest⟩

end

end

section

variable (rule : TextRule)

mutual

theorem Node.within_thin {around : List Nat} (node : Node)
    (within : node.Within around) : (node.thin rule).Within around := by
  match node with
  | .text _ | .print _ | .set _ _ _ | .inclusion _ _ _ => exact within
  | .choose condition body rest =>
      exact ⟨within.1, Node.withinAll_thinAll _ _ body within.2.1,
        Alternative.within_thin rest within.2.2⟩
  | .each id rowAlias source body none =>
      exact ⟨within.1, Node.withinAll_thinAll _ _ body within.2⟩
  | .each id rowAlias source body (some empty) =>
      exact ⟨within.1, Node.withinAll_thinAll _ _ body within.2.1,
        Node.withinAll_thinAll _ _ empty within.2.2⟩

theorem Node.withinAll_thinAll {around : List Nat} (before after : Neighbour)
    (nodes : List Node) (within : Node.WithinAll around nodes) :
    Node.WithinAll around (Node.thinAll rule before after nodes) := by
  match nodes with
  | [] => trivial
  | node :: nodes =>
      have later := Node.withinAll_thinAll node.kind after nodes within.2
      rw [Node.thinAll]
      split
      · exact ⟨Node.within_thin node within.1, later⟩
      · exact later

theorem Alternative.within_thin {around : List Nat} (rest : Alternative)
    (within : rest.Within around) : (rest.thin rule).Within around := by
  match rest with
  | .done => trivial
  | .otherwise body => exact Node.withinAll_thinAll _ _ body within
  | .elseIf condition body rest =>
      exact ⟨within.1, Node.withinAll_thinAll _ _ body within.2.1,
        Alternative.within_thin rest within.2.2⟩

end

end

mutual

theorem Node.within_absorb {around : List Nat} (following : String)
    (node : Node) (within : node.Within around) :
    (node.absorb following).Within around := by
  match node with
  | .text _ | .print _ | .set _ _ _ | .inclusion _ _ _ => exact within
  | .choose condition body rest =>
      exact ⟨within.1, Node.withinAll_absorbAll body within.2.1,
        Alternative.within_absorb rest within.2.2⟩
  | .each id rowAlias source body none =>
      exact ⟨within.1, Node.withinAll_absorbAll body within.2⟩
  | .each id rowAlias source body (some empty) =>
      exact ⟨within.1, Node.withinAll_absorbAll body within.2.1,
        Node.withinAll_absorbAll empty within.2.2⟩

theorem Node.withinAll_absorbAll {around : List Nat} (nodes : List Node)
    (within : Node.WithinAll around nodes) :
    Node.WithinAll around (Node.absorbAll nodes) := by
  match nodes with
  | [] => trivial
  | node :: nodes =>
      exact ⟨Node.within_absorb _ node within.1,
        Node.withinAll_absorbAll nodes within.2⟩

theorem Alternative.within_absorb {around : List Nat} (rest : Alternative)
    (within : rest.Within around) : rest.absorb.Within around := by
  match rest with
  | .done => trivial
  | .otherwise body => exact Node.withinAll_absorbAll body within
  | .elseIf condition body rest =>
      exact ⟨within.1, Node.withinAll_absorbAll body within.2.1,
        Alternative.within_absorb rest within.2.2⟩

end

/-- A template reads the active rows of its iterations only, also when it is
compacted. -/
theorem Node.withinAll_of_ofTokens {known : Catalog}
    {tokens : List Markup.Token} {nodes : List Node}
    (parsed : Node.ofTokens known tokens = .ok nodes) (squeeze : Bool) :
    Node.WithinAll [] (Node.compactAll squeeze nodes) := by
  obtain ⟨phrases, -, -, rfl⟩ := Node.exists_phrases_of_ofTokens parsed
  have written := Phrase.within_nodes known [] 1 phrases
  have pruned :=
    Node.withinAll_thinAll (Compaction.printing squeeze) .edge .edge _ written
  exact Node.withinAll_thinAll Compaction.leading .edge .edge _
    (Node.withinAll_absorbAll _ pruned)

end TemplateEngine
