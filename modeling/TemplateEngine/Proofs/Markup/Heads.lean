import TemplateEngine.Markup.Tag
import TemplateEngine.Proofs.Markup.Reads
import TemplateEngine.Proofs.Text.Trimmed

/-!
# Tags with attributes as they are written

A tag that opens something or closes itself is written with its name and its
attributes.  With a namespace, all these names carry it.
-/

namespace TemplateEngine

namespace Markup

open Scanner (Reads Stops stops_cons)

/-- Whether tags and attributes may start with a text: it is empty, or a name
and a colon. -/
def IsNamespace (tagNamespace : List Char) : Prop :=
  tagNamespace = [] ∨
    ∃ name, Text.isName name = true ∧ tagNamespace = name ++ [':']

theorem IsNamespace.not_mem {tagNamespace : List Char}
    (isNamespace : IsNamespace tagNamespace) {character : Char}
    (other : Text.isNamePart character = false) (noColon : character ≠ ':') :
    character ∉ tagNamespace := by
  rcases isNamespace with rfl | ⟨name, isName, rfl⟩
  · exact List.not_mem_nil
  · rw [List.mem_append, not_or]
    exact ⟨Text.not_mem_of_isName isName other, by simpa using noColon⟩

section

variable {tagNamespace name rest : List Char}
  (isNamespace : IsNamespace tagNamespace) (isName : Text.isName name = true)

include isNamespace isName

/-- What carries a namespace starts as a name does. -/
theorem IsNamespace.exists_isName :
    ∃ first others, Text.isName first = true ∧
      tagNamespace ++ (name ++ rest) = first ++ others := by
  rcases isNamespace with rfl | ⟨before, isBefore, rfl⟩
  · exact ⟨name, rest, isName, rfl⟩
  · exact ⟨before, [':'] ++ (name ++ rest), isBefore, List.append_assoc ..⟩

theorem IsNamespace.isPrefixOf?_eq_none {first : Char}
    (other : Text.isNameStart first = false) (expected : List Char) :
    List.isPrefixOf? (first :: expected) (tagNamespace ++ (name ++ rest)) =
      none := by
  obtain ⟨start, others, isStart, same⟩ := isNamespace.exists_isName isName
  rw [same]
  exact Scanner.isPrefixOf?_of_isName isStart other expected

theorem IsNamespace.stops_blank :
    Stops (fun character => !Text.isBlank character)
      (tagNamespace ++ (name ++ rest)) := by
  obtain ⟨start, others, isStart, same⟩ := isNamespace.exists_isName isName
  rw [same]
  cases start with
  | nil => cases isStart
  | cons first start =>
      apply stops_cons
      rw [Text.isName, Bool.and_eq_true] at isStart
      have part := Text.isNamePart_of_isNameStart isStart.1
      cases blank : Text.isBlank first with
      | false => rfl
      | true =>
          rw [Text.isNamePart_of_isBlank blank] at part
          cases part

end

/-- How attributes are written: each one after blanks, with the namespace, and
its value between double quotes. -/
inductive Attributes.Spelled (tagNamespace : List Char) :
    Attributes → List Char → Prop
  | nil : Spelled tagNamespace [] []
  | cons {blanks value text : List Char} {name : String}
      {attributes : Attributes} :
      blanks ≠ [] → (∀ character ∈ blanks, Text.isBlank character = true) →
      Text.isName name.toList = true → '"' ∉ value →
      Spelled tagNamespace attributes text →
      Spelled tagNamespace ((name, value) :: attributes) (blanks ++
        (tagNamespace ++
          (name.toList ++ (['=', '"'] ++ (value ++ (['"'] ++ text))))))

/-- How a tag that opens something or closes itself is written. -/
inductive Head.Spelled (tagNamespace : List Char) : Head → List Char → Prop
  | intro {blanks text : List Char} {name : String} {attributes : Attributes}
      (selfClosing : Bool) :
      Text.isName name.toList = true → attributes.Spelled tagNamespace text →
      (∀ character ∈ blanks, Text.isBlank character = true) →
      Spelled tagNamespace ⟨name, attributes, selfClosing⟩
        (['<'] ++ (tagNamespace ++ (name.toList ++ (text ++ (blanks ++
          if selfClosing then ['/', '>'] else ['>'])))))

/-- Attributes with one space before each. -/
def Attributes.written (tagNamespace : List Char) : Attributes → List Char
  | [] => []
  | (name, value) :: attributes =>
    [' '] ++ (tagNamespace ++ (name.toList ++ (['=', '"'] ++ (value ++ (['"'] ++
      Attributes.written tagNamespace attributes)))))

/-- A tag with one space before each attribute and before the slash at its
end. -/
def Head.written (tagNamespace : List Char) (head : Head) : List Char :=
  ['<'] ++
    (tagNamespace ++
      (head.name.toList ++
        (head.attributes.written tagNamespace ++
          ((if head.selfClosing then [' '] else []) ++
            if head.selfClosing then ['/', '>'] else ['>']))))

section

variable {tagNamespace : List Char}

theorem Attributes.spelled_written {attributes : Attributes}
    (isName : ∀ entry ∈ attributes, Text.isName entry.1.toList = true)
    (unquoted : ∀ entry ∈ attributes, '"' ∉ entry.2) :
    attributes.Spelled tagNamespace (attributes.written tagNamespace) := by
  induction attributes with
  | nil => exact .nil
  | cons entry attributes induction =>
      obtain ⟨isFirst, areOthers⟩ := List.forall_mem_cons.mp isName
      obtain ⟨noQuote, noQuotes⟩ := List.forall_mem_cons.mp unquoted
      exact .cons (by simp) (by simp [Text.isBlank]) isFirst noQuote
        (induction areOthers noQuotes)

theorem Attributes.not_mem_written {attributes : Attributes} {character : Char}
    (inNamespace : character ∉ tagNamespace)
    (apart : character ∉ [' ', '=', '"'])
    (absent :
      ∀ entry ∈ attributes, character ∉ entry.1.toList ∧ character ∉ entry.2) :
    character ∉ attributes.written tagNamespace := by
  induction attributes with
  | nil => exact List.not_mem_nil
  | cons entry attributes induction =>
      obtain ⟨⟨inName, inValue⟩, others⟩ := List.forall_mem_cons.mp absent
      simp only [List.mem_cons, List.not_mem_nil, or_false, not_or] at apart
      simp only [Attributes.written, List.mem_append, List.mem_cons,
        List.not_mem_nil, or_false, not_or]
      exact ⟨apart.1, inNamespace, inName, ⟨apart.2.1, apart.2.2⟩, inValue,
        apart.2.2, induction others⟩

/-- Every head with names and without quotes in its values can be written. -/
theorem Head.spelled_written {head : Head}
    (isName : Text.isName head.name.toList = true)
    (areNames : ∀ entry ∈ head.attributes, Text.isName entry.1.toList = true)
    (unquoted : ∀ entry ∈ head.attributes, '"' ∉ entry.2) :
    head.Spelled tagNamespace (head.written tagNamespace) := by
  apply Head.Spelled.intro head.selfClosing isName
    (Attributes.spelled_written areNames unquoted)
  cases head.selfClosing with
  | false => simp
  | true => simp [Text.isBlank]

theorem Attributes.Spelled.length_le {attributes : Attributes}
    {text : List Char} (spelled : attributes.Spelled tagNamespace text) :
    attributes.length ≤ text.length := by
  induction spelled with
  | nil => exact Nat.le_refl 0
  | cons _ _ _ _ _ induction =>
      simp only [List.length_cons, List.length_append]
      omega

/-- No name goes on after it with attributes or the end of a tag. -/
theorem Attributes.Spelled.stops_name {attributes : Attributes}
    {text blanks rest : List Char}
    (spelled : attributes.Spelled tagNamespace text)
    (blank : ∀ character ∈ blanks, Text.isBlank character = true)
    (ends : Stops (fun character => !Text.isNamePart character) rest) :
    Stops (fun character => !Text.isNamePart character)
      (text ++ (blanks ++ rest)) := by
  have atBlanks :
      ∀ {blanks : List Char},
        (∀ character ∈ blanks, Text.isBlank character = true) →
          ∀ {rest : List Char},
            (blanks = [] → Stops (fun c => !Text.isNamePart c) rest) →
              Stops (fun character => !Text.isNamePart character)
                (blanks ++ rest) := by
    intro blanks blank rest after
    cases blanks with
    | nil => exact after rfl
    | cons character blanks =>
        apply stops_cons
        rw [Text.isNamePart_of_isBlank (blank character List.mem_cons_self)]
        rfl
  cases spelled with
  | nil => exact atBlanks blank fun _ => ends
  | cons some allBlank _ _ _ =>
      rw [List.append_assoc]
      exact atBlanks allBlank fun none => absurd none some

variable (isNamespace : IsNamespace tagNamespace)

include isNamespace

theorem Attributes.Spelled.reads {attributes : Attributes}
    {text blanks rest : List Char}
    (spelled : attributes.Spelled tagNamespace text)
    (blank : ∀ character ∈ blanks, Text.isBlank character = true)
    (selfClosing : Bool) {fuel : Nat} (enough : attributes.length < fuel) :
    Reads (Head.scanAttributes tagNamespace fuel)
      (text ++ (blanks ++ if selfClosing then ['/', '>'] else ['>']))
      (attributes, selfClosing) rest := by
  induction spelled generalizing fuel with
  | nil =>
      obtain ⟨fuel, rfl⟩ : ∃ less, fuel = less + 1 := ⟨fuel - 1, by omega⟩
      rw [Head.scanAttributes, List.nil_append]
      cases selfClosing with
      | true =>
          apply (Scanner.reads_skipBlanks blank (stops_cons rfl _)).bind
          exact (Scanner.reads_takes ['/', '>']).bind_pure fun _ => ([], true)
      | false =>
          apply (Scanner.reads_skipBlanks blank (stops_cons rfl _)).bind
          apply (Scanner.reads_takes_of_none rfl).bind_nil
          exact (Scanner.reads_takes ['>']).bind_pure fun _ => ([], false)
  | @cons spaces value text name attributes some allBlank isName unquoted
      spelled induction =>
      obtain ⟨fuel, rfl⟩ : ∃ less, fuel = less + 1 := ⟨fuel - 1, by omega⟩
      have others := induction (Nat.lt_of_succ_lt_succ enough)
      have spaced : (!spaces.isEmpty) = true := by
        cases spaces with
        | nil => exact absurd rfl some
        | cons character spaces => rfl
      have inside : ∀ character ∈ value, (character == '"') = false := by
        intro character member
        exact beq_false_of_ne fun same => unquoted (same ▸ member)
      have readName :
          ∀ more, Reads Scanner.name name.toList name ('=' :: more) := by
        intro more
        have stops :
            Stops (fun character => !Text.isNamePart character) ('=' :: more) :=
          stops_cons rfl more
        have read := Scanner.reads_name isName stops
        rwa [String.ofList_toList] at read
      rw [Head.scanAttributes]
      simp only [List.append_assoc]
      -- The name after the blanks is neither of the two endings of a tag.
      apply Reads.bind (Scanner.reads_skipBlanks allBlank _)
      · apply Reads.bind_nil (Scanner.reads_takes_of_none _)
        · apply Reads.bind_nil (Scanner.reads_takes_of_none _)
          · apply (Scanner.reads_ensure spaced).bind_nil
            apply (Scanner.reads_exactly tagNamespace).bind
            apply (readName _).bind
            apply (Scanner.reads_exactly ['=', '"']).bind
            apply (Scanner.reads_takeUntil inside (stops_cons rfl _)).bind
            apply (Scanner.reads_exactly ['"']).bind
            exact others.bind_pure fun found =>
              ((name, value) :: found.1, found.2)
          · rw [List.append_assoc, List.append_assoc]
            exact isNamespace.isPrefixOf?_eq_none isName rfl _
        · rw [List.append_assoc, List.append_assoc]
          exact isNamespace.isPrefixOf?_eq_none isName rfl _
      · rw [List.append_assoc, List.append_assoc]
        exact isNamespace.stops_blank isName

/-- The head of a tag is read from its text. -/
theorem Head.Spelled.reads {head : Head} {text rest : List Char}
    (spelled : head.Spelled tagNamespace text) :
    Reads (Head.scan tagNamespace) text head rest := by
  cases spelled with
  | @intro blanks text name attributes selfClosing isName spelled blank =>
      have ends : ∀ rest, Stops (fun character => !Text.isNamePart character)
          ((if selfClosing then ['/', '>'] else ['>']) ++ rest) := by
        intro rest
        cases selfClosing with
        | true => exact stops_cons rfl _
        | false => exact stops_cons rfl _
      have readName :=
        Scanner.reads_name isName (spelled.stops_name blank (ends rest))
      rw [String.ofList_toList] at readName
      simp only [← List.append_assoc _ _ rest] at readName
      apply (Scanner.reads_exactly ['<']).bind
      apply (Scanner.reads_exactly tagNamespace).bind
      apply readName.bind
      have length := spelled.length_le
      have enough :
          attributes.length <
            (text ++ (blanks ++ if selfClosing then ['/', '>'] else ['>']) ++
                rest).length + 1 := by
        simp only [List.length_append]
        omega
      have readAttributes :
          Reads
            (fun text =>
              Head.scanAttributes tagNamespace (text.length + 1) text)
            (text ++ (blanks ++ if selfClosing then ['/', '>'] else ['>']))
            (attributes, selfClosing) rest :=
        spelled.reads isNamespace blank selfClosing enough
      exact readAttributes.bind_pure fun found => Head.mk name found.1 found.2

end

end Markup
end TemplateEngine
