import Mathlib
import TemplateEngine.Proofs.Markup.Literals
import TemplateEngine.Proofs.Template.Texts
import TemplateEngine.Template.Compiled

/-!
# Literal texts are templates for themselves

Without escapes no two texts of a source stand side by side, so that compaction
joins none: it only drops some.  What is left are parts of the normalized source
in which no markup is found, and such a part compiles to itself.
-/

namespace TemplateEngine

open Markup (Separate Token)

namespace Compaction

/-! ## Texts that stand apart are not joined -/

theorem firstKind_keepBy {rule : TextRule} {code : List Instruction}
    (move : Nat → Nat) (before : Neighbour) (noText : firstKind code ≠ .text) :
    firstKind (keepBy move (marksBy rule before code) code) ≠ .text := by
  cases code with
  | nil => exact noText
  | cons instruction rest =>
      cases instruction with
      | text text => exact absurd rfl noText
      | _ =>
          rw [keepBy_marksBy_cons rfl]
          exact firstKind_cons_directive (kind_retarget move _) _

theorem joinTexts_cons {text : String} {rest : List Instruction}
    (noText : firstKind rest ≠ .text) :
    joinTexts (.text text :: rest) = .text text :: joinTexts rest := by
  rw [joinTexts_cons_text, leadingText_of_firstKind noText, String.append_empty]
  cases rest with
  | nil => rfl
  | cons instruction rest =>
      cases instruction with
      | text text => exact absurd rfl noText
      | _ => rfl

theorem firstKind_of_separate {text : String} {rest : List Instruction}
    (separate :
      Separate ((Instruction.text text :: rest).map Instruction.text?)) :
    firstKind rest ≠ .text := by
  cases rest with
  | nil => decide
  | cons instruction rest =>
      cases instruction with
      | text next => exact absurd rfl (separate.1 next)
      | _ => exact firstKind_cons_directive rfl rest

/-- Texts that stand apart still do so when some of them are dropped. -/
theorem joinTexts_keepBy (rule : TextRule) (move : Nat → Nat)
    (before : Neighbour) {code : List Instruction}
    (separate : Separate (code.map Instruction.text?)) :
    joinTexts (keepBy move (marksBy rule before code) code) =
      keepBy move (marksBy rule before code) code := by
  induction code generalizing before with
  | nil => rfl
  | cons instruction rest induction =>
      cases instruction with
      | text text =>
          have noText := firstKind_of_separate separate
          have later := induction .text separate.2
          rw [marksBy, keepBy_cons]
          split
          · change joinTexts (.text text :: keepBy move _ rest) =
              .text text :: keepBy move _ rest
            rw [joinTexts_cons (firstKind_keepBy move _ noText)]
            exact congrArg (.text text :: ·) later
          · exact later
      | _ =>
          have later := induction .directive separate
          rw [keepBy_marksBy_cons rfl,
            joinTexts_cons_directive (kind_retarget move _), later]

theorem text_mem_map_retarget {move : Nat → Nat} {text : String}
    {code : List Instruction}
    (member : .text text ∈ code.map (Instruction.retarget move)) :
    .text text ∈ code := by
  obtain ⟨instruction, within, same⟩ := List.mem_map.mp member
  cases instruction with
  | text other => exact same ▸ within
  | _ => cases same

theorem text_mem_keep {marks : List Bool} {text : String}
    {code : List Instruction} (member : .text text ∈ keep marks code) :
    .text text ∈ code := by
  obtain ⟨⟨instruction, mark⟩, within, same⟩ := List.mem_map.mp member
  have inside := (List.of_mem_zip (List.mem_filter.mp within).1).1
  cases instruction with
  | text other => exact same ▸ inside
  | _ => cases same

/-- The texts of a compacted program whose texts stand apart are texts of the
program. -/
theorem text_mem_compact {squeeze : Bool} {text : String}
    {code : List Instruction} (separate : Separate (code.map Instruction.text?))
    (member : .text text ∈ compact squeeze code) : .text text ∈ code := by
  have joined : joinTexts (prune squeeze code) = prune squeeze code := by
    have marked := prints_eq_marksBy squeeze .edge code
    rw [prune, show false = (Neighbour.edge == .directive) from rfl, marked]
    exact joinTexts_keepBy _ _ _ separate
  rw [compact, merge, joined] at member
  exact text_mem_keep (text_mem_map_retarget member)

theorem compact_text {text : String} (filled : text ≠ "") (squeeze : Bool) :
    compact squeeze [.text text] = [.text text] := by
  have stays : prints squeeze false [.text text] = [true] := by
    simp [prints, filled]
  rw [compact, prune, stays]
  rfl

end Compaction

/-! ## Literals compile to themselves -/

theorem Node.text_mem_of_ofTokens {known : Catalog} {tokens : List Token}
    {nodes : List Node} {text : String}
    (parsed : Node.ofTokens known tokens = .ok nodes)
    (member : .text text ∈ Node.flattenAll 0 nodes) : .text text ∈ tokens := by
  have listed : some text ∈ (Node.flattenAll 0 nodes).map Instruction.text? :=
    List.mem_map.mpr ⟨_, member, rfl⟩
  rw [Node.texts_of_ofTokens parsed] at listed
  obtain ⟨token, within, same⟩ := List.mem_map.mp listed
  cases token with
  | text content =>
      cases same
      exact within
  | _ => cases same

/-- A normalized text in which no markup is found compiles to itself. -/
theorem compile_of_inert {options : Options} {known : Catalog} {text : String}
    (noNamespace : options.tagNamespace = []) (filled : text.toList ≠ [])
    (isNormal : Markup.IsNormal text.toList)
    (inert : Markup.Scanner.Inert (Token.scan options) text.toList) :
    compile options known text = .ok ⟨⟨[.text text]⟩, []⟩ := by
  have tokenized := Markup.tokenize_of_inert filled inert
  have parsed : Node.ofTokens known [.text text] = .ok [.text text] := rfl
  have compacted :
      Compaction.compact options.compactWhitespace [.text text] =
        [.text text] :=
    Compaction.compact_text (fun nothing => filled (by rw [nothing]; rfl)) _
  have flattened : Node.flattenAll 0 [.text text] = [.text text] := rfl
  rw [compile, noNamespace, isNormal.normalize, tokenized]
  simp only [parsed, flattened, compacted]
  rfl

/-- Each text of a program that is compiled without namespace, escapes and
comments compiles to itself: no markup is left in it. -/
theorem compile_literal {options : Options} {known : Catalog} {source : String}
    {compiled : Compiled} {text : String}
    (noNamespace : options.tagNamespace = [])
    (noEscape : ¬ ['\x7b', '\\'] <:+: source.toList)
    (noComment : ¬ ['/', '*'] <:+: source.toList)
    (compiles : compile options known source = .ok compiled)
    (member : .text text ∈ compiled.program.instructions) :
    compile options known text = .ok ⟨⟨[.text text]⟩, []⟩ := by
  rw [compile, noNamespace] at compiles
  cases tokenized :
    Markup.tokenize options (Markup.normalize [] source.toList) with
  | error error =>
      rw [tokenized] at compiles
      cases compiles
  | ok tokens =>
      rw [tokenized] at compiles
      cases parsed : Node.ofTokens known tokens with
      | error error =>
          simp only [parsed] at compiles
          cases compiles
      | ok nodes =>
          simp only [parsed] at compiles
          cases compiles
          have unescaped :
              ¬ ['\x7b', '\\'] <:+: Markup.normalize [] source.toList :=
            Markup.not_infix_normalize (by decide) (by decide) (by decide)
              noComment noEscape
          obtain ⟨separate, literals⟩ :=
            Markup.literals_of_tokenize unescaped tokenized
          have apart :
              Separate ((Node.flattenAll 0 nodes).map Instruction.text?) := by
            rw [Node.texts_of_ofTokens parsed]
            exact separate
          obtain ⟨filled, inside, inert⟩ :=
            literals text (Node.text_mem_of_ofTokens parsed
              (Compaction.text_mem_compact apart member))
          exact compile_of_inert noNamespace filled
            ((Markup.isNormal_normalize noComment).of_part inside) inert

/-- An assignment and a placeholder that are not closed are a text, which
compiles to itself. -/
theorem compile_literal_unclosed :
    let source := "<block name=\"r\"><set var=\"y\">\x7bz</block>"
    let rest := "<set var=\"y\">\x7bz"
    let compiled : Compiled :=
      ⟨⟨[.openBlock 1 "r" (.path ["r"]) 3, .text rest, .closeBlock 1 1]⟩, []⟩
    ({} : Options).tagNamespace = [] ∧ ¬ ['\x7b', '\\'] <:+: source.toList ∧
      ¬ ['/', '*'] <:+: source.toList ∧
      compile {} .deferred source = .ok compiled ∧
      .text rest ∈ compiled.program.instructions ∧
      compile {} .deferred rest = .ok ⟨⟨[.text rest]⟩, []⟩ := by
  intro source rest compiled
  have noEscape : ¬ ['\x7b', '\\'] <:+: source.toList := by decide +kernel
  have noComment : ¬ ['/', '*'] <:+: source.toList := by decide +kernel
  have compiles : compile {} .deferred source = .ok compiled := by cbv
  have member : .text rest ∈ compiled.program.instructions := by simp [compiled]
  exact ⟨rfl, noEscape, noComment, compiles, member,
    compile_literal rfl noEscape noComment compiles member⟩

end TemplateEngine
