import TemplateEngine.Proofs.Markup.Texts
import TemplateEngine.Proofs.Template.Compacted
import TemplateEngine.Proofs.Template.Parsed

/-!
# The texts of a program

The instructions of a template are laid out as its tokens are written, so that a
text stands where one stood in the source.  After compaction no text is empty
and no two texts stand side by side.  Where blank text is squeezed, none is left
between two directives: beside a text that is dropped there stands no other one,
and two texts that are joined are not both blank.
-/

namespace TemplateEngine

open Markup (Token Spaced)

/-- The text that an instruction prints as it stands. -/
def Instruction.text? : Instruction → Option String
  | .text content => some content
  | _ => none

/-! ## Instructions stand as tokens do -/

section

variable (known : Catalog)

mutual

theorem Phrase.texts_node (phrase : Phrase) (scope : Scope) (next start : Nat) :
    ((phrase.node known scope next).flatten start).map Instruction.text? =
      phrase.tokens.map Token.text? := by
  match phrase with
  | .text _ => rfl
  | .print _ => rfl
  | .set _ _ _ _ => rfl
  | .inclusion _ _ _ _ => rfl
  | .each opening raw body close =>
      simp [Phrase.node, Node.flatten_each, Phrase.tokens, Phrase.texts_nodes,
        Instruction.text?, Token.text?]
  | .eachElse opening raw body between empty close =>
      simp [Phrase.node, Node.flatten_each_empty, Phrase.tokens,
        Phrase.texts_nodes, Instruction.text?, Token.text?]
  | .choose parts raw body rest =>
      simp [Phrase.node, Node.flatten_choose, Phrase.tokens, Phrase.texts_nodes,
        Branches.texts_alternative, Instruction.text?, Token.text?]

/-- A text stands in a program where one stands in the source. -/
theorem Phrase.texts_nodes (phrases : List Phrase) (scope : Scope)
    (next start : Nat) :
    (Node.flattenAll start (Phrase.nodes known scope next phrases)).map
        Instruction.text? =
      (Phrase.tokensAll phrases).map Token.text? := by
  match phrases with
  | [] => rfl
  | phrase :: phrases =>
      rw [Phrase.nodes, Node.flattenAll, List.map_append, Phrase.texts_node,
        Phrase.texts_nodes, Phrase.tokensAll, List.map_append]

theorem Branches.texts_alternative (branches : Branches) (scope : Scope)
    (next start exit : Nat) :
    ((branches.alternative known scope next).flatten start exit).map
        Instruction.text? =
      branches.tokens.map Token.text? := by
  match branches with
  | .done _ => rfl
  | .otherwise raw body close =>
      simp [Branches.alternative, Alternative.flatten_otherwise,
        Branches.tokens, Phrase.texts_nodes, Instruction.text?, Token.text?]
  | .elseIf parts raw body rest =>
      simp [Branches.alternative, Alternative.flatten_elseIf, Branches.tokens,
        Phrase.texts_nodes, Branches.texts_alternative, Instruction.text?,
        Token.text?]

end

end

theorem Node.texts_of_ofTokens {known : Catalog} {tokens : List Token}
    {nodes : List Node} (parsed : Node.ofTokens known tokens = .ok nodes) :
    (Node.flattenAll 0 nodes).map Instruction.text? =
      tokens.map Token.text? := by
  obtain ⟨phrases, rfl, -, rfl⟩ := Node.exists_phrases_of_ofTokens parsed
  exact Phrase.texts_nodes known phrases [] 1 0

/-! ## The texts of a compacted program -/

namespace Compaction

/-- Whether the texts of code are not empty and stand apart, behind what stands
before it.  With `squeeze`, none of them is blank between two directives. -/
def Tidy (squeeze : Bool) : (before : Neighbour) → List Instruction → Prop
  | _, [] => True
  | before, .text text :: rest =>
    text ≠ "" ∧ before ≠ .text ∧
      (squeeze = true → before = .directive → firstKind rest = .directive →
        Text.isAllBlank text.toList = false) ∧
      Tidy squeeze .text rest
  | _, _ :: rest => Tidy squeeze .directive rest

variable {squeeze : Bool}

theorem kind_retarget (move : Nat → Nat) (instruction : Instruction) :
    kind (instruction.retarget move) = kind instruction := by
  cases instruction <;> rfl

theorem firstKind_map_retarget (move : Nat → Nat) (code : List Instruction) :
    firstKind (code.map (Instruction.retarget move)) = firstKind code := by
  cases code with
  | nil => rfl
  | cons instruction rest => exact kind_retarget move instruction

theorem tidy_map_retarget (move : Nat → Nat) (before : Neighbour)
    (code : List Instruction) :
    Tidy squeeze before (code.map (Instruction.retarget move)) ↔
      Tidy squeeze before code := by
  induction code generalizing before with
  | nil => rfl
  | cons instruction rest induction =>
      cases instruction with
      | text text =>
          rw [List.map_cons, Instruction.retarget, Tidy, Tidy,
            firstKind_map_retarget, induction]
          all_goals simp
      | _ => exact induction .directive

theorem keepBy_marksBy_cons {rule : TextRule} {instruction : Instruction}
    (directive : kind instruction = .directive) (move : Nat → Nat)
    (before : Neighbour) (rest : List Instruction) :
    keepBy move (marksBy rule before (instruction :: rest))
        (instruction :: rest) =
      instruction.retarget move ::
        keepBy move (marksBy rule .directive rest) rest := by
  rw [marksBy_cons_directive directive, keepBy_cons, if_pos rfl,
    List.singleton_append]

/-- Joined texts are not blank if one of them is not. -/
theorem isAllBlank_append (first second : String) :
    Text.isAllBlank (first ++ second).toList =
      (Text.isAllBlank first.toList && Text.isAllBlank second.toList) := by
  simp [Text.isAllBlank]

theorem leadingText_keepBy (squeeze : Bool) {text : String}
    {rest : List Instruction} (move : Nat → Nat) (filled : text ≠ "") :
    ∃ others,
      leadingText (keepBy move
          (marksBy (printing squeeze) .text (.text text :: rest))
          (.text text :: rest)) =
        text ++ others := by
  have stays : printing squeeze .text (firstKind rest) text = true := by
    simp [printing, filled]
  rw [marksBy, Compaction.stays, stays, keepBy_cons, if_pos rfl]
  exact ⟨_, rfl⟩

/-- A text that stays is not blank when it is joined with those that follow it,
if it stands between two directives. -/
theorem isAllBlank_joined {text : String} {rest : List Instruction}
    (move : Nat → Nat)
    (spaced : Spaced ((Instruction.text text :: rest).map Instruction.text?))
    (squeezes : squeeze = true)
    (stays : printing squeeze .directive (firstKind rest) text = true)
    (inside : rest ≠ []) :
    Text.isAllBlank (text ++
        leadingText
          (keepBy move (marksBy (printing squeeze) .text rest) rest)).toList =
      false := by
  obtain ⟨filled, apart, spaced⟩ := spaced
  rw [isAllBlank_append, Bool.and_eq_false_iff]
  match rest with
  | [] => exact absurd rfl inside
  | .text next :: others =>
      obtain ⟨following, joined⟩ := leadingText_keepBy squeeze move spaced.1
      rw [joined, isAllBlank_append, Bool.and_eq_false_iff]
      by_cases blank : Text.isAllBlank text.toList = true
      · exact .inr (.inl (apart blank next rfl))
      · exact .inl (Bool.eq_false_iff.mpr blank)
  | .print _ :: _ | .set _ _ _ :: _ | .branch _ _ :: _ | .elseBranch _ _ _ :: _
  | .otherwise _ :: _ | .endBranch :: _ | .openBlock _ _ _ _ :: _
  | .elseBlock _ _ _ :: _ | .closeBlock _ _ :: _ | .inclusion _ _ _ :: _ =>
      left
      simpa [printing, squeezes, filled, firstKind, kind] using stays

/-- Dropping texts that print nothing and joining the others leaves texts that
stand apart.  Behind a text, those that are joined with it are left out. -/
theorem tidy_joinTexts (squeeze : Bool) (move : Nat → Nat) (before : Neighbour)
    {code : List Instruction} (spaced : Spaced (code.map Instruction.text?)) :
    Tidy squeeze before (joinTexts (if before = .text then
        (keepBy move (marksBy (printing squeeze) before code) code).dropWhile
          Instruction.isText
      else keepBy move (marksBy (printing squeeze) before code) code)) := by
  induction code generalizing before with
  | nil => cases before <;> trivial
  | cons instruction rest induction =>
      cases instruction with
      | text text =>
          have later := induction .text spaced.2.2
          rw [if_pos rfl] at later
          rw [marksBy, keepBy_cons]
          by_cases behind : before = .text
          · rw [if_pos behind]
            split
            · exact behind ▸ later
            · exact behind ▸ later
          · rw [if_neg behind]
            by_cases kept : printing squeeze before (firstKind rest) text = true
            · rw [stays, if_pos kept]
              change Tidy squeeze before
                (joinTexts (.text text :: keepBy move _ rest))
              rw [joinTexts_cons_text]
              refine ⟨?_, behind, ?_, later⟩
              · intro nothing
                exact spaced.1 (String.append_eq_empty_iff.mp nothing).1
              · intro squeezes isBehind isBefore
                apply isAllBlank_joined move spaced squeezes (isBehind ▸ kept)
                rintro rfl
                cases isBefore
            · -- a text that is dropped stands between two directives
              rw [stays, if_neg kept, List.nil_append]
              have follows : firstKind rest = .directive := by
                by_cases directive : firstKind rest = .directive
                · exact directive
                · exact absurd (by simp [printing, spaced.1, directive]) kept
              cases rest with
              | nil => cases follows
              | cons next others =>
                  cases next with
                  | text text => cases follows
                  | _ => exact later
      | _ =>
          have later := induction .directive spaced
          rw [if_neg (by decide)] at later
          rw [keepBy_marksBy_cons rfl]
          cases before <;> exact later

theorem tidy_compact {code : List Instruction}
    (spaced : Spaced (code.map Instruction.text?)) :
    Tidy squeeze .edge (compact squeeze code) := by
  have joined :=
    tidy_joinTexts squeeze (moved (marksBy (printing squeeze) .edge code)) .edge
      spaced
  rw [if_neg (by decide), ← prints_eq_marksBy] at joined
  rw [compact, merge, tidy_map_retarget]
  exact joined

theorem Tidy.of_append_cons {before : Neighbour} {first rest : List Instruction}
    {instruction : Instruction}
    (tidy : Tidy squeeze before (first ++ instruction :: rest)) :
    Tidy squeeze (kind instruction) rest := by
  induction first generalizing before with
  | nil =>
      cases instruction with
      | text text => exact tidy.2.2.2
      | _ => exact tidy
  | cons head first induction =>
      cases head with
      | text text => exact induction tidy.2.2.2
      | _ => exact induction tidy

theorem Tidy.exists_of_append {before : Neighbour}
    {first rest : List Instruction}
    (tidy : Tidy squeeze before (first ++ rest)) :
    ∃ last, Tidy squeeze last rest := by
  induction first generalizing before with
  | nil => exact ⟨before, tidy⟩
  | cons head first induction =>
      cases head with
      | text text => exact induction tidy.2.2.2
      | _ => exact induction tidy

end Compaction

/-- Whether the texts of a program are not empty and stand apart.  With
`squeeze`, none of them is blank between two directives. -/
structure Program.TextsApart (squeeze : Bool) (program : Program) : Prop where
  filled : .text "" ∉ program.instructions
  apart : ∀ before first second after,
    program.instructions ≠ before ++ .text first :: .text second :: after
  visible : squeeze = true →
    ∀ before first text second after,
      program.instructions = before ++ first :: .text text :: second :: after →
        first.isDirective = true → second.isDirective = true →
        Text.isAllBlank text.toList = false

theorem Compaction.Tidy.textsApart {squeeze : Bool} {before : Neighbour}
    {code : List Instruction} (tidy : Tidy squeeze before code) :
    Program.TextsApart squeeze ⟨code⟩ where
  filled := by
    intro member
    obtain ⟨first, rest, rfl⟩ := List.append_of_mem member
    obtain ⟨last, tidy⟩ := tidy.exists_of_append
    exact tidy.1 rfl
  apart := by
    rintro first one other rest rfl
    exact tidy.of_append_cons.2.1 rfl
  visible := by
    rintro squeezes first directive text next rest rfl isBehind isBefore
    rw [isDirective_eq, beq_iff_eq] at isBehind isBefore
    have behind := tidy.of_append_cons
    rw [isBehind] at behind
    exact behind.2.2.1 squeezes rfl isBefore

end TemplateEngine
