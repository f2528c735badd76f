import TemplateEngine.Proofs.Markup.Targets
import TemplateEngine.Proofs.Template.Parsed

/-!
# Templates that are one directive

A template that is one placeholder or one inclusion compiles to one instruction.
-/

namespace TemplateEngine

open Markup (Token Placeholder Destination IsNormal)
open Markup.Scanner (Reads)

section

variable {options : Options} {source : String} {token : Token}
  (normal : Markup.normalize options.tagNamespace source.toList = source.toList)
  (nonempty : source.toList ≠ [])
  (reads : ∀ rest, Reads (Token.scan options) source.toList token rest)

include normal nonempty reads

theorem compile_of_reads {phrase : Phrase} (derived : phrase.tokens = [token])
    (shallow : phrase.depth = 0) (known : Catalog) :
    compile options known source = .ok (.ofPhrases options known [phrase]) := by
  refine compile_eq_ok.mpr ⟨[phrase], ?_, ?_, rfl⟩
  · rw [normal, Markup.tokenize_of_reads nonempty reads, Phrase.tokensAll,
      derived]
    rfl
  · rw [Phrase.depthAll, shallow]
    exact Nat.zero_le _

end

theorem Compiled.ofPhrases_print (options : Options) (known : Catalog)
    (placeholder : Placeholder) :
    ofPhrases options known [.print placeholder] =
      ⟨⟨[.print (placeholder.resolve known [])]⟩,
        placeholder.warnings known⟩ := by
  have compacted (expr : Expr) :
      Compaction.compact options.compactWhitespace [.print expr] =
        [.print expr] := by
    cases options.compactWhitespace <;> rfl
  have warned :
      (Phrase.tokensAll [.print placeholder]).flatMap (Token.warnings known) =
        placeholder.warnings known := List.append_nil _
  have laid : Node.flattenAll 0 (Phrase.nodes known [] 1 [.print placeholder]) =
      [.print (placeholder.resolve known [])] := rfl
  rw [ofPhrases, laid, compacted, warned]

theorem Compiled.ofPhrases_inclusion (options : Options) (known : Catalog)
    (kind : InclusionKind) (destination : Destination) (once : Bool)
    (raw : String) :
    ofPhrases options known [.inclusion kind destination once raw] =
      ⟨⟨[.inclusion (destination.resolve known []) once kind]⟩,
        destination.warnings known⟩ := by
  have compacted (target : Target) :
      Compaction.compact options.compactWhitespace [.inclusion target once
            kind] =
        [.inclusion target once kind] := by
    cases options.compactWhitespace <;> rfl
  have warned :
      (Phrase.tokensAll [.inclusion kind destination once raw]).flatMap
          (Token.warnings known) =
        destination.warnings known := List.append_nil _
  have laid :
      Node.flattenAll 0
          (Phrase.nodes known [] 1 [.inclusion kind destination once raw]) =
        [.inclusion (destination.resolve known []) once kind] := rfl
  rw [ofPhrases, laid, compacted, warned]

/-- A template that is a placeholder prints it. -/
theorem compile_print {placeholder : Placeholder}
    (spelled : placeholder.Spelled (maxDepth + 1))
    (isPrint : placeholder.isValue = false)
    (isNormal : IsNormal placeholder.raw.toList) (known : Catalog) :
    compile {} known placeholder.raw =
      .ok ⟨⟨[.print (placeholder.resolve known [])]⟩,
        placeholder.warnings known⟩ := by
  have allOn : Options.AllOn {} := ⟨rfl, rfl, rfl, rfl, rfl⟩
  have nonempty : placeholder.raw.toList ≠ [] := by
    obtain ⟨text, brace⟩ := (spelled.readBy allOn.filters allOn.constants).brace
    rw [brace]
    exact List.cons_ne_nil _ _
  have derived : (Phrase.print placeholder).tokens = [.print placeholder] := rfl
  rw [← Compiled.ofPhrases_print {}]
  exact @compile_of_reads {} _ _ isNormal.normalize nonempty
    (fun rest => spelled.reads_token allOn isPrint) _ derived rfl known

/-- A template that is an inclusion renders its target. -/
theorem compile_inclusion {options : Options}
    (isNamespace : Markup.IsNamespace options.tagNamespace)
    (includes : options.inclusion = true) {template : List Char}
    (unquoted : '"' ∉ template) (noTag : '<' ∉ template)
    (noComment : ¬ ['/', '*'] <:+: template) {destination : Destination}
    (reads : ∀ rest,
      Reads (Markup.Tag.destinationOf options template) [] destination rest)
    (kind : InclusionKind) (once : Option Bool) (known : Catalog) :
    compile options known (String.ofList
        ((Markup.Head.inclusion kind template once).written
          options.tagNamespace)) =
      .ok ⟨⟨[.inclusion (destination.resolve known []) (once.getD false) kind]⟩,
        destination.warnings known⟩ := by
  have normal :=
    Markup.Head.normalize_inclusion isNamespace noTag noComment kind once
  have read :=
    Markup.Head.reads_inclusion isNamespace includes unquoted reads kind once
  rw [← Compiled.ofPhrases_inclusion options]
  apply compile_of_reads
  · rwa [String.toList_ofList]
  · rw [String.toList_ofList]
    exact List.cons_ne_nil _ _
  · rw [String.toList_ofList]
    exact read
  · rfl
  · rfl

end TemplateEngine
