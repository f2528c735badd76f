import Mathlib.Data.List.Forall2
import TemplateEngine.Proofs.Text.Lowered
import TemplateEngine.Proofs.Text.Percent
import TemplateEngine.Proofs.Text.Search
import TemplateEngine.Render.Query

/-!
# Query strings are read back

A name or value holds neither of the characters that separate parameters once
all but letters and digits are encoded.  So a query string is split where it was
joined, and what is split is decoded, never the other way round.
-/

namespace TemplateEngine.Query

open Text (isAsciiAlphanumeric)
open Text.Percent (IsEncoded isEncoded_of_writesBytes WritesBytes Writes)

/-- How a name or value is written: letters and digits of ASCII as they are, a
space as a plus sign, and the UTF-8 bytes of any character, a space among them,
with a percent sign and two digits for each. -/
inductive WritesComponent : List Char → List Char → Prop
  | nil : WritesComponent [] []
  | plain {character : Char} {text written : List Char} :
      isAsciiAlphanumeric character = true → WritesComponent text written →
      WritesComponent (character :: text) (character :: written)
  | space {text written : List Char} :
      WritesComponent text written →
      WritesComponent (' ' :: text) ('+' :: written)
  | encoded {character : Char} {text spelled written : List Char} :
      WritesBytes (String.utf8EncodeChar character) spelled →
      WritesComponent text written →
      WritesComponent (character :: text) (spelled ++ written)

/-- How a parameter is written, with an equals sign whether its value is empty
or not. -/
inductive WritesParameter : String × String → List Char → Prop
  | mk {name value : String} {first second : List Char} :
      WritesComponent name.toList first → WritesComponent value.toList second →
      WritesParameter (name, value) (first ++ '=' :: second)

/-! ## Characters of written names and values -/

theorem isEncoded_of_writesComponent {text written : List Char}
    (writes : WritesComponent text written) :
    ∀ character ∈ written, IsEncoded character ∨ character = '+' := by
  induction writes with
  | nil => simp
  | plain isPlain _ induction =>
      exact List.forall_mem_cons.mpr ⟨.inl (.inl isPlain), induction⟩
  | space _ induction => exact List.forall_mem_cons.mpr ⟨.inr rfl, induction⟩
  | encoded writes _ induction =>
      exact List.forall_mem_append.mpr
        ⟨fun character member =>
            .inl (isEncoded_of_writesBytes writes character member), induction⟩

/-- Written names and values do not hold what separates them. -/
theorem not_mem_of_writesComponent {text written : List Char} {separator : Char}
    (writes : WritesComponent text written)
    (other : ¬(IsEncoded separator ∨ separator = '+')) : separator ∉ written :=
  fun member => other (isEncoded_of_writesComponent writes separator member)

/-! ## Decoding -/

/-- Once spaces take the place of plus signs, a name or value is written with
its letters, digits and spaces as they are. -/
theorem writes_of_writesComponent {text written : List Char}
    (writes : WritesComponent text written) :
    Writes (fun character => isAsciiAlphanumeric character || character == ' ')
      text
      (written.map fun character =>
        if character = '+' then ' ' else character) := by
  have stays {character : Char} (encoded : IsEncoded character) :
      character ≠ '+' := by
    rintro rfl
    rcases encoded with letter | sign
    · cases letter
    · cases sign
  induction writes with
  | nil => exact .nil
  | plain isPlain _ induction =>
      rw [List.map_cons, if_neg (stays (.inl isPlain))]
      exact .kept (by simp [isPlain]) induction
  | space _ induction => exact .kept rfl induction
  | @encoded character text spelled written writes _ induction =>
      have same :
          (spelled.map fun character =>
              if character = '+' then ' ' else character) =
            spelled.map id :=
        List.map_congr_left fun character member =>
          if_neg (stays (isEncoded_of_writesBytes writes character member))
      rw [List.map_append, same, List.map_id]
      exact .encoded writes induction

theorem decode_of_writesComponent {text : String} {written : List Char}
    (writes : WritesComponent text.toList written) : decode written = text := by
  rw [decode, Text.Percent.decodeComponent,
    Text.Percent.decode_of_writes rfl (writes_of_writesComponent writes),
    String.ofList_toList]

theorem parameter_of_writesParameter {pair : String × String}
    {written : List Char} (writes : WritesParameter pair written) :
    parameter written = (pair.1, .text pair.2) := by
  obtain ⟨name, value⟩ := writes
  rw [parameter,
    Text.splitFirst?_append_cons _
      (not_mem_of_writesComponent name (by decide))]
  simp only [decode_of_writesComponent name, decode_of_writesComponent value]

theorem WritesParameter.bounded {pair : String × String} {written : List Char}
    (writes : WritesParameter pair written) :
    (!written.isEmpty) = true ∧ '&' ∉ written := by
  obtain ⟨name, value⟩ := writes
  have other : ¬(IsEncoded '&' ∨ '&' = '+') := by decide
  refine ⟨by simp, ?_⟩
  simp [not_mem_of_writesComponent name other,
    not_mem_of_writesComponent value other]

/-- Every name or value can be written, with letters and digits alone as they
are. -/
theorem writesComponent_encode (text : List Char) :
    WritesComponent text (Text.Percent.encode isAsciiAlphanumeric text) := by
  have writes := Text.Percent.writes_encode isAsciiAlphanumeric text
  generalize Text.Percent.encode isAsciiAlphanumeric text = written at writes ⊢
  induction writes with
  | nil => exact .nil
  | kept plain _ induction => exact .plain plain induction
  | encoded writes _ induction => exact .encoded writes induction

/-! ## Query strings -/

section

variable {pairs : List (String × String)} {written : List (List Char)}

theorem map_parameter (writes : List.Forall₂ WritesParameter pairs written) :
    written.map parameter =
      pairs.map fun (name, value) => (name, .text value) := by
  induction writes with
  | nil => rfl
  | cons first _ induction =>
      rw [List.map_cons, List.map_cons, parameter_of_writesParameter first,
        induction]

theorem bounded_of_mem (writes : List.Forall₂ WritesParameter pairs written) :
    ∀ parameter ∈ written, (!parameter.isEmpty) = true ∧ '&' ∉ parameter := by
  induction writes with
  | nil => simp
  | cons first _ induction =>
      exact List.forall_mem_cons.mpr ⟨first.bounded, induction⟩

theorem parse_join (writes : List.Forall₂ WritesParameter pairs written) :
    parse (List.intercalate ['&'] written) =
      pairs.map fun (name, value) => (name, .text value) := by
  have bounded := bounded_of_mem writes
  rw [← map_parameter writes, parse]
  cases written with
  | nil => rfl
  | cons first others =>
      have parts :
          List.splitOn '&' (List.intercalate ['&'] (first :: others)) =
            first :: others :=
        List.splitOn_intercalate '&'
          (fun part member => (bounded part member).2)
          (List.cons_ne_nil first others)
      rw [parts,
        List.filter_eq_self.mpr fun part member => (bounded part member).1]

end

theorem exists_written (pairs : List (String × String)) :
    ∃ written, List.Forall₂ WritesParameter pairs written := by
  induction pairs with
  | nil => exact ⟨[], .nil⟩
  | cons pair pairs induction =>
      obtain ⟨written, writes⟩ := induction
      exact ⟨_,
        .cons (.mk (writesComponent_encode _) (writesComponent_encode _))
          writes⟩

/-- All names and values can be written as a query string, and however they are
written, it gives them back in their order. -/
theorem parse_written (pairs : List (String × String)) :
    (∃ written, List.Forall₂ WritesParameter pairs written) ∧
      ∀ written, List.Forall₂ WritesParameter pairs written →
        parse (List.intercalate ['&'] written) =
          pairs.map fun (name, value) => (name, .text value) :=
  ⟨exists_written pairs, fun _ writes => parse_join writes⟩

/-- An ampersand in a value, an empty parameter and a name for the second time,
with a space and digits written in two ways. -/
theorem parse_written_repeated :
    parse "a+b=x%26y&=&a%20b=%c3%A9".toList =
      [("a b", .text "x&y"), ("", .text ""), ("a b", .text "é")] := by
  have ampersand : WritesBytes (String.utf8EncodeChar '&') ['%', '2', '6'] :=
    @WritesBytes.cons 0x26 [] '2' '6' [] (.inl rfl) (.inl rfl) .nil
  have space : WritesBytes (String.utf8EncodeChar ' ') ['%', '2', '0'] :=
    @WritesBytes.cons 0x20 [] '2' '0' [] (.inl rfl) (.inl rfl) .nil
  have accented :
      WritesBytes (String.utf8EncodeChar 'é') ['%', 'c', '3', '%', 'A', '9'] :=
    @WritesBytes.cons 0xC3 [0xA9] 'c' '3' ['%', 'A', '9'] (.inl rfl) (.inl rfl)
      (@WritesBytes.cons 0xA9 [] 'A' '9' [] (.inr rfl) (.inl rfl) .nil)
  have first : WritesParameter ("a b", "x&y") "a+b=x%26y".toList :=
    @WritesParameter.mk "a b" "x&y" ['a', '+', 'b'] ['x', '%', '2', '6', 'y']
      (.plain rfl (.space (.plain rfl .nil)))
      (.plain rfl (.encoded ampersand (.plain rfl .nil)))
  have second : WritesParameter ("", "") "=".toList :=
    @WritesParameter.mk "" "" [] [] .nil .nil
  have third : WritesParameter ("a b", "é") "a%20b=%c3%A9".toList :=
    @WritesParameter.mk "a b" "é" ['a', '%', '2', '0', 'b'] ['%', 'c', '3', '%',
      'A', '9'] (.plain rfl (.encoded space (.plain rfl .nil)))
      (.encoded accented .nil)
  exact (parse_written _).2 _ (.cons first (.cons second (.cons third .nil)))

end TemplateEngine.Query
