import TemplateEngine.Markup.Tag
import TemplateEngine.Proofs.Markup.Placeholders

/-!
# Inclusions as they are written

The template that an inclusion names is a value between braces, or a path with a
query string.  A query string is split at its `&` characters and each part of it
at its first `=`, which undoes how they are written as long as names and values
hold none of these characters.
-/

namespace TemplateEngine.Markup

open Scanner (Reads Stops Many stops_cons)

/-- How a parameter of a query string is written; without a value, its equals
sign may be left out. -/
inductive Parameter.Spelled : String × Part → List Char → Prop
  | flag {name : List Char} :
      name ≠ [] → '=' ∉ name → '&' ∉ name → '\n' ∉ name →
      Spelled (String.ofList name, .text (String.ofList [])) name
  | text {name value : List Char} :
      name ≠ [] → '=' ∉ name → '&' ∉ name → '\n' ∉ name → '\x7b' ∉ value →
      '&' ∉ value → '\n' ∉ value →
      Spelled (String.ofList name, .text (String.ofList value))
        (name ++ '=' :: value)
  | value {name : List Char} {placeholder : Placeholder} :
      name ≠ [] → '=' ∉ name → '&' ∉ name → '\n' ∉ name →
      placeholder.Spelled maxDepth → placeholder.isValue = true →
      '&' ∉ placeholder.raw.toList → '\n' ∉ placeholder.raw.toList →
      Spelled (String.ofList name, .value placeholder)
        (name ++ '=' :: placeholder.raw.toList)

/-- How a query string is written, with the question mark before it. -/
inductive Query.Spelled : List (String × Part) → List Char → Prop
  | nil : Spelled [] []
  | cons {parameter : String × Part} {parameters : List (String × Part)}
      {first others : List Char} :
      Parameter.Spelled parameter first →
      Many '&' Parameter.Spelled parameters others →
      Spelled (parameter :: parameters) ('?' :: (first ++ others))

/-- How the template that an inclusion names is written. -/
inductive Destination.Spelled : Destination → List Char → Prop
  | path {path query : List Char} {parameters : List (String × Part)} :
      path ≠ [] → (∀ character ∈ path, character ∉ ['?', '\x7b', '\x7d', '"']) →
      Query.Spelled parameters query →
      Spelled (.path (String.ofList path) parameters) (path ++ query)
  | dynamic {placeholder : Placeholder} :
      placeholder.Spelled maxDepth → placeholder.isValue = true →
      Spelled (.dynamic placeholder) placeholder.raw.toList

/-! ## Query strings -/

/-- What the text of a parameter does not hold. -/
structure Parameter.Bounded (pair : List Char) : Prop where
  visible : (!pair.isEmpty) = true
  ampersand : '&' ∉ pair
  newline : '\n' ∉ pair

theorem Parameter.Spelled.bounded {parameter : String × Part} {pair : List Char}
    (spelled : Parameter.Spelled parameter pair) : Parameter.Bounded pair := by
  cases spelled with
  | flag some _ ampersand newline =>
      refine ⟨?_, ampersand, newline⟩
      simpa using some
  | text _ _ ampersand newline _ noAmpersand noNewline =>
      exact ⟨by simp, by simp [ampersand, noAmpersand],
        by simp [newline, noNewline]⟩
  | value _ _ ampersand newline _ _ noAmpersand noNewline =>
      exact ⟨by simp, by simp [ampersand, noAmpersand],
        by simp [newline, noNewline]⟩

/-- Between parameters, query strings hold no line break. -/
theorem Parameter.not_mem_newline {parameters : List (String × Part)}
    {text : List Char} (many : Many '&' Parameter.Spelled parameters text) :
    '\n' ∉ text := by
  induction many with
  | nil => exact List.not_mem_nil
  | cons spelled _ induction => simp [spelled.bounded.newline, induction]

section

variable {options : Options} (filters : options.filters = true)
  (constants : options.constants = true)

include filters constants

theorem Parameter.Spelled.reads {parameter : String × Part}
    {pair rest : List Char} (spelled : Parameter.Spelled parameter pair) :
    Reads (Tag.parameterOf options pair) [] parameter rest := by
  have visible : ∀ {name : List Char}, name ≠ [] → (!name.isEmpty) = true := by
    intro name some
    simpa using some
  cases spelled with
  | flag some noEquals _ _ =>
      have absent : Placeholder.scanValue options [] = .ok none :=
        Placeholder.scanValue_of_ne options (by simp)
      rw [Tag.parameterOf, Text.splitFirst?_of_not_mem noEquals]
      apply (Scanner.reads_ensure (visible some)).bind_nil
      refine Reads.bind_pure ?_ (Prod.mk (String.ofList pair))
      simp only [Reads, List.nil_append, Scanner.within_of_none absent]
  | @text name value some noEquals _ _ noBrace _ _ =>
      have absent : Placeholder.scanValue options value = .ok none :=
        Placeholder.scanValue_of_ne options fun head =>
          noBrace (List.mem_of_head? head)
      rw [Tag.parameterOf, Text.splitFirst?_append_cons value noEquals]
      apply (Scanner.reads_ensure (visible some)).bind_nil
      refine Reads.bind_pure ?_ (Prod.mk (String.ofList name))
      simp only [Reads, List.nil_append, Scanner.within_of_none absent]
  | @value name placeholder some noEquals _ _ spelled isValue _ _ =>
      have found :
          Reads
            (Scanner.within placeholder.raw.toList
              (Placeholder.scanValue options)) [] placeholder rest :=
        (spelled.reads_scanValue filters constants isValue).within
      rw [Reads, List.nil_append] at found
      rw [Tag.parameterOf, Text.splitFirst?_append_cons _ noEquals]
      apply (Scanner.reads_ensure (visible some)).bind_nil
      refine Reads.bind_pure ?_ (Prod.mk (String.ofList name))
      simp only [Reads, List.nil_append, found]

/-- The parts of a query string after its first one are its further
parameters. -/
theorem Parameter.reads_parametersOf {parameters : List (String × Part)}
    {text rest : List Char} (many : Many '&' Parameter.Spelled parameters text)
    {first : List Char} (single : '&' ∉ first) :
    ∃ pairs, List.splitOn '&' (first ++ text) = first :: pairs ∧
      Reads (Tag.parametersOf options (pairs.filter fun pair => !pair.isEmpty))
        [] parameters rest := by
  -- Each parameter is the first part for those after it.
  induction many generalizing first with
  | nil =>
      refine ⟨[], ?_, Scanner.reads_pure []⟩
      rw [List.append_nil, List.splitOn_eq_singleton single]
  | @cons parameter parameters pair others spelled _ induction =>
      obtain ⟨pairs, split, read⟩ := induction spelled.bounded.ampersand
      refine ⟨pair :: pairs, ?_, ?_⟩
      · rw [List.splitOn_append_cons_self_of_not_mem single, split]
      · rw [List.filter_cons, if_pos spelled.bounded.visible]
        exact (spelled.reads filters constants).bind_nil
          (read.bind_pure (parameter :: ·))

/-- A path ends where its query string starts. -/
theorem Query.Spelled.reads {parameters : List (String × Part)}
    {query path rest : List Char} (spelled : Query.Spelled parameters query)
    (nonempty : path ≠ [])
    (plain : ∀ character ∈ path, character ∉ ['?', '\x7b', '\x7d', '"']) :
    ∃ pairs, Tag.splitPath? (path ++ query) = some (path, pairs) ∧
      Reads
        (Tag.parametersOf options
          ((List.splitOn '&' pairs).filter fun pair => !pair.isEmpty)) []
        parameters rest := by
  have inside : ∀ character ∈ path, (character == '?' || character == '\x7b' ||
      character == '\x7d' || character == '"') = false := by
    intro character member
    have other := plain character member
    simp only [List.mem_cons, List.not_mem_nil, or_false, not_or] at other
    simp [other]
  have visible : path.isEmpty = false := by simpa using nonempty
  cases spelled with
  | nil =>
      refine ⟨[], ?_, Scanner.reads_pure []⟩
      have taken := Scanner.takeWhile_append_of_stops inside Scanner.stops_nil
      have dropped := Scanner.dropWhile_append_of_stops inside Scanner.stops_nil
      simp only [Tag.splitPath?, taken, dropped, visible, Bool.false_eq_true,
        if_false]
  | @cons parameter parameters first others spelled many =>
      obtain ⟨pairs, split, read⟩ :=
        Parameter.reads_parametersOf filters constants many
          spelled.bounded.ampersand
      refine ⟨first ++ others, ?_, ?_⟩
      · have ends :
            Stops
              (fun character =>
                character == '?' || character == '\x7b' ||
                  character == '\x7d' || character == '"')
              ('?' :: (first ++ others)) :=
          stops_cons rfl _
        have taken := Scanner.takeWhile_append_of_stops inside ends
        have dropped := Scanner.dropWhile_append_of_stops inside ends
        have oneLine : (first ++ others).contains '\n' = false := by
          simp [spelled.bounded.newline, Parameter.not_mem_newline many]
        simp only [Tag.splitPath?, taken, dropped, visible, oneLine,
          Bool.false_eq_true, if_false]
      · rw [split, List.filter_cons, if_pos spelled.bounded.visible]
        exact (spelled.reads filters constants).bind_nil
          (read.bind_pure (parameter :: ·))

/-- Reads the template that an inclusion names by a path. -/
def Tag.pathOf (options : Options) (template : List Char) :
    Scanner Destination := do
  let (path, query) ← Scanner.some? (splitPath? template)
  let pairs := (List.splitOn '&' query).filter fun pair => !pair.isEmpty
  let parameters ← parametersOf options pairs
  return .path (String.ofList path) parameters

/-- The template that an inclusion names is read from its text. -/
theorem Destination.Spelled.reads {destination : Destination}
    {text rest : List Char} (spelled : destination.Spelled text) :
    Reads (Tag.destinationOf options text) [] destination rest := by
  cases spelled with
  | @path path query parameters nonempty plain spelled =>
      have absent :
          Placeholder.scanValue options (path ++ query) = .ok none := by
        apply Placeholder.scanValue_of_ne
        obtain ⟨character, path, rfl⟩ := List.exists_cons_of_ne_nil nonempty
        have other := plain character List.mem_cons_self
        simp only [List.mem_cons, not_or] at other
        simp [other]
      obtain ⟨pairs, split, read⟩ :=
        spelled.reads filters constants nonempty plain
      have found : Reads (Tag.pathOf options (path ++ query)) []
          (Destination.path (String.ofList path) parameters) rest := by
        rw [Tag.pathOf, split]
        apply (Scanner.reads_some (path, pairs)).bind_nil
        exact read.bind_pure (Destination.path (String.ofList path))
      rw [Reads, List.nil_append, Tag.destinationOf,
        Scanner.within_of_none absent]
      exact found
  | @dynamic placeholder spelled isValue =>
      have found :
          Reads
            (Scanner.within placeholder.raw.toList
              (Placeholder.scanValue options)) [] placeholder rest :=
        (spelled.reads_scanValue filters constants isValue).within
      rw [Reads, List.nil_append] at found
      simp only [Reads, List.nil_append, Tag.destinationOf, found]

end

end TemplateEngine.Markup
