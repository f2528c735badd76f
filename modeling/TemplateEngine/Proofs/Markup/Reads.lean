import TemplateEngine.Markup.Scanner
import TemplateEngine.Proofs.Text.Search

/-!
# What scanners read

A scanner reads a text in front of a rest if it finds a construct that is just
this text.  A scanner that is put together from others reads the texts of its
parts one after the other.
-/

namespace TemplateEngine.Markup.Scanner

/-- Whether a scanner finds a construct that is a text in front of a rest. -/
def Reads {α : Type} (scanner : Scanner α) (text : List Char) (value : α)
    (rest : List Char) : Prop :=
  scanner (text ++ rest) = .ok (some (value, rest))

/-- Whether a text is over or goes on with a character of a kind. -/
def Stops (stop : Char → Bool) (text : List Char) : Prop :=
  ∀ character, text.head? = some character → stop character = true

section

variable {stop : Char → Bool}

theorem stops_nil : Stops stop [] := by
  intro character head
  cases head

theorem stops_cons {character : Char} (stops : stop character = true)
    (text : List Char) : Stops stop (character :: text) := by
  intro other head
  cases head
  exact stops

theorem Stops.mono {other : Char → Bool} {text : List Char}
    (stops : Stops stop text)
    (weaker : ∀ character, stop character = true → other character = true) :
    Stops other text := by
  intro character head
  exact weaker character (stops character head)

theorem Stops.of_either {first second : Char} {text : List Char}
    (stops :
      Stops (fun character => character == first || character == second) text)
    (atFirst : stop first = true) (atSecond : stop second = true) :
    Stops stop text := by
  apply stops.mono
  intro character ending
  simp only [Bool.or_eq_true, beq_iff_eq] at ending
  rcases ending with rfl | rfl
  · exact atFirst
  · exact atSecond

theorem takeWhile_append_of_stops {text rest : List Char}
    (inside : ∀ character ∈ text, stop character = false)
    (stops : Stops stop rest) :
    (text ++ rest).takeWhile (fun character => !stop character) = text := by
  rw [List.takeWhile_append_of_pos fun character member => by
      rw [inside character member]; rfl]
  cases rest with
  | nil => simp
  | cons character rest => simp [stops character rfl]

theorem dropWhile_append_of_stops {text rest : List Char}
    (inside : ∀ character ∈ text, stop character = false)
    (stops : Stops stop rest) :
    (text ++ rest).dropWhile (fun character => !stop character) = rest := by
  rw [List.dropWhile_append_of_pos fun character member => by
      rw [inside character member]; rfl]
  cases rest with
  | nil => rfl
  | cons character rest => simp [stops character rfl]

end

/-! ## One after the other -/

section

variable {α β : Type} {scanner : Scanner α} {next : α → Scanner β}
  {text more rest : List Char} {value : α} {result : β}

theorem Reads.bind (first : Reads scanner text value (more ++ rest))
    (second : Reads (next value) more result rest) :
    Reads (scanner >>= next) (text ++ more) result rest := by
  rw [Reads, List.append_assoc, bind_apply, first]
  exact second

/-- What reads nothing goes on with the whole text. -/
theorem Reads.bind_nil (first : Reads scanner [] value (text ++ rest))
    (second : Reads (next value) text result rest) :
    Reads (scanner >>= next) text result rest :=
  Reads.bind first second

/-- What reads nothing more comes after the whole text. -/
theorem Reads.bind_last (first : Reads scanner text value rest)
    (second : Reads (next value) [] result rest) :
    Reads (scanner >>= next) text result rest := by
  rw [Reads, bind_apply, first]
  exact second

theorem Reads.bind_pure (first : Reads scanner text value rest)
    (change : α → β) :
    Reads (scanner >>= fun value => pure (change value)) text (change value)
      rest := by
  rw [Reads, bind_apply, first]
  rfl

theorem Reads.withText (reads : Reads scanner text value rest) :
    Reads (withText scanner) text (value, text) rest := by
  rw [Reads, Scanner.withText, reads]
  simp

theorem Reads.withText_bind {next : α × List Char → Scanner β}
    (first : Reads scanner text value rest)
    (second : Reads (next (value, text)) [] result rest) :
    Reads (Scanner.withText scanner >>= next) text result rest :=
  first.withText.bind_last second

/-- A construct that is the whole of another text is found without reading. -/
theorem Reads.within (reads : Reads scanner text value []) :
    Reads (within text scanner) [] value rest := by
  rw [Reads, List.append_nil] at reads
  rw [Reads, Scanner.within, reads]
  rfl

/-- Reads a text up to a pattern, and the pattern. -/
def upTo (pattern : List Char) : Scanner (List Char) :=
  fun text =>
    match Text.splitAround? pattern text with
    | none => .ok none
    | some (before, rest) => .ok (some (before, rest))

theorem upTo_eq_some_iff {pattern before : List Char} :
    upTo pattern text = .ok (some (before, rest)) ↔
      Text.splitAround? pattern text = some (before, rest) := by
  rw [upTo]
  rcases Text.splitAround? pattern text with _ | ⟨_, _⟩ <;> simp

theorem within_of_none (absent : scanner text = .ok none) :
    within text scanner rest = .ok none := by
  rw [within, absent]

end

/-! ## Basic scanners -/

section

variable {rest : List Char}

theorem reads_pure {α : Type} (value : α) : Reads (pure value) [] value rest :=
  rfl

theorem reads_ensure {condition : Bool} (holds : condition = true) :
    Reads (ensure condition) [] () rest := by
  rw [holds]
  rfl

theorem reads_some {α : Type} (value : α) :
    Reads (some? (some value)) [] value rest :=
  rfl

theorem reads_lift {α : Type} {result : Except SyntaxError α} {value : α}
    (found : result = .ok value) : Reads (lift result) [] value rest := by
  rw [found]
  rfl

theorem exactly_append (expected rest : List Char) :
    exactly expected (expected ++ rest) = .ok (some ((), rest)) := by
  rw [exactly, List.isPrefixOf?_eq_some_iff_append_eq.mpr rfl]
  rfl

theorem reads_exactly (expected : List Char) :
    Reads (exactly expected) expected () rest :=
  exactly_append expected rest

theorem reads_takes (expected : List Char) :
    Reads (takes expected) expected true rest := by
  rw [Reads, takes, List.isPrefixOf?_eq_some_iff_append_eq.mpr rfl]

theorem reads_takes_of_none {expected : List Char}
    (absent : List.isPrefixOf? expected rest = none) :
    Reads (takes expected) [] false rest := by
  rw [Reads, List.nil_append, takes, absent]

/-- A name does not start with a character with which no name starts. -/
theorem isPrefixOf?_of_isName {text : List Char}
    (isName : Text.isName text = true) {first : Char}
    (other : Text.isNameStart first = false) (expected : List Char) :
    List.isPrefixOf? (first :: expected) (text ++ rest) = none := by
  cases text with
  | nil => cases isName
  | cons character text =>
      have different : first ≠ character := by
        rintro rfl
        rw [Text.isName, other] at isName
        cases isName
      exact Text.isPrefixOf?_cons_of_ne different _ _

theorem reads_takeUntil {stop : Char → Bool} {text : List Char}
    (inside : ∀ character ∈ text, stop character = false)
    (stops : Stops stop rest) : Reads (takeUntil stop) text text rest := by
  rw [Reads, takeUntil, takeWhile_append_of_stops inside stops,
    dropWhile_append_of_stops inside stops]

theorem reads_skipBlanks {blanks : List Char}
    (blank : ∀ character ∈ blanks, Text.isBlank character = true)
    (stops : Stops (fun character => !Text.isBlank character) rest) :
    Reads skipBlanks blanks (!blanks.isEmpty) rest := by
  apply Reads.bind_pure
  apply reads_takeUntil _ stops
  intro character member
  rw [blank character member]
  rfl

theorem reads_name {text : List Char} (isName : Text.isName text = true)
    (stops : Stops (fun character => !Text.isNamePart character) rest) :
    Reads name text (String.ofList text) rest := by
  cases text with
  | nil => cases isName
  | cons first others =>
      rw [Text.isName, Bool.and_eq_true] at isName
      have inside : ∀ character ∈ first :: others,
          (!Text.isNamePart character) = false := by
        intro character member
        rcases List.mem_cons.mp member with rfl | member
        · rw [Text.isNamePart_of_isNameStart isName.1]
          rfl
        · rw [List.all_eq_true.mp isName.2 character member]
          rfl
      have taken := takeWhile_append_of_stops inside stops
      have dropped := dropWhile_append_of_stops inside stops
      simp only [Bool.not_not] at taken dropped
      rw [Reads, List.cons_append, name, if_pos isName.1, ← List.cons_append,
        taken, dropped]

theorem reads_bare {stop : Char → Bool} {text : List Char}
    (nonempty : text ≠ [])
    (inside :
      ∀ character ∈ text, (stop character || Text.isBlank character) = false)
    (stops :
      Stops (fun character => stop character || Text.isBlank character) rest) :
    Reads (bare stop) text (String.ofList text) rest := by
  have visible : (!text.isEmpty) = true := by simpa using nonempty
  apply (reads_takeUntil inside stops).bind_last
  exact (reads_ensure visible).bind_pure fun _ => String.ofList text

end

/-! ## Quotes -/

/-- How a content is written up to a closing quote: the quote and the backslash
get a backslash, and a backslash may stand as it is before any other
character. -/
inductive Quoted (mark : Char) : (content written : List Char) → Prop
  | nil : Quoted mark [] []
  | plain {character : Char} {content written : List Char} :
      character ≠ mark → character ≠ '\\' → Quoted mark content written →
      Quoted mark (character :: content) (character :: written)
  | escaped {character : Char} {content written : List Char} :
      character = mark ∨ character = '\\' → Quoted mark content written →
      Quoted mark (character :: content) ('\\' :: character :: written)
  | backslash {character : Char} {content written : List Char} :
      character ≠ mark → character ≠ '\\' → Quoted mark content written →
      Quoted mark ('\\' :: character :: content) ('\\' :: character :: written)

theorem Quoted.unquote_append {mark : Char} {content written : List Char}
    (quoted : Quoted mark content written) (visible : mark ≠ '\\')
    (rest : List Char) :
    unquote mark (written ++ mark :: rest) = some (content, rest) := by
  induction quoted with
  | nil =>
      rw [List.nil_append, unquote.eq_def]
      split <;> simp_all
  | plain other letter _ induction =>
      rw [List.cons_append, unquote.eq_def]
      split <;> simp_all
  | escaped special _ induction =>
      rw [List.cons_append, List.cons_append, unquote, induction]
      simp [special]
  | backslash other letter _ induction =>
      rw [List.cons_append, List.cons_append, unquote, induction]
      simp [other, letter]

theorem Quoted.reads_quoted {mark : Char} {content written rest : List Char}
    (quoted : Quoted mark content written) (isMark : mark = '\'' ∨ mark = '"') :
    Reads Scanner.quoted ([mark] ++ (written ++ [mark])) (String.ofList content)
      rest := by
  rcases isMark with rfl | rfl
  · have unquoted := quoted.unquote_append (by decide) rest
    simp [Reads, Scanner.quoted, unquoted]
  · have unquoted := quoted.unquote_append (by decide) rest
    simp [Reads, Scanner.quoted, unquoted]

/-! ## Lists -/

/-- How a list is written if a character stands before each of its items. -/
inductive Many {α : Type} (lead : Char) (item : α → List Char → Prop) :
    List α → List Char → Prop
  | nil : Many lead item [] []
  | cons {value : α} {values : List α} {text others : List Char} :
      item value text → Many lead item values others →
      Many lead item (value :: values) (lead :: (text ++ others))

section

variable {α : Type} {lead : Char} {item : α → List Char → Prop}
  {values : List α} {text rest : List Char}

theorem Many.length_le (many : Many lead item values text) :
    values.length ≤ text.length := by
  induction many with
  | nil => exact Nat.le_refl 0
  | cons _ _ induction =>
      simp only [List.length_cons, List.length_append]
      omega

/-- What stops at the character and at the rest stops at the list in front of
the rest. -/
theorem Many.stops {stop : Char → Bool} (many : Many lead item values text)
    (atLead : stop lead = true) (atRest : Stops stop rest) :
    Stops stop (text ++ rest) := by
  cases many with
  | nil => exact atRest
  | cons _ _ => exact stops_cons atLead _

/-- A list is read if its items are, where the next one follows and where the
list ends. -/
theorem Many.reads_manyAfter {scanner : Scanner α}
    (many : Many lead item values text) (ends : List Char → Prop)
    (each : ∀ value text after,
      item value text → ends after → Reads scanner text value after)
    (goesOn : ∀ after, ends (lead :: after)) (ended : ends rest)
    (stops : Stops (· != lead) rest) :
    Reads (manyAfter lead scanner) text values rest := by
  have within :
      ∀ fuel, values.length ≤ fuel →
        manyAfterWithin lead scanner fuel (text ++ rest) =
          .ok (some (values, rest)) := by
    induction many with
    | nil =>
        intro fuel _
        cases fuel with
        | zero => rfl
        | succ fuel =>
            cases rest with
            | nil => rfl
            | cons character rest =>
                have other : character ≠ lead := by
                  simpa using stops character rfl
                simp [manyAfterWithin, other]
    | @cons value values text others spelled many induction =>
        intro fuel enough
        cases fuel with
        | zero => exact absurd enough (Nat.not_succ_le_zero _)
        | succ fuel =>
            have endsThere : ends (others ++ rest) := by
              cases many with
              | nil => exact ended
              | cons _ _ => exact goesOn _
            have first : Reads scanner text value (others ++ rest) :=
              each value text _ spelled endsThere
            have later := induction fuel (Nat.le_of_succ_le_succ enough)
            rw [List.cons_append, manyAfterWithin, if_pos rfl,
              List.append_assoc, bind_apply, first]
            dsimp only
            rw [bind_apply, later]
            rfl
  apply within
  rw [List.length_append]
  exact Nat.le_trans many.length_le (Nat.le_add_right _ _)

end

/-! ## Pieces -/

/-- The first character of a text belongs to no construct, or a construct starts
with it. -/
theorem splitWithin_cons_eq_ok {α : Type} {scanner : Scanner α} {fuel : Nat}
    {character : Char} {text : List Char} {pieces : List (Piece α)}
    (splits : splitWithin scanner (fuel + 1) (character :: text) = .ok pieces) :
    (scanner (character :: text) = .ok none ∧
        ∃ others, splitWithin scanner fuel text = .ok others ∧
          pieces = Piece.prepend character others) ∨
      ∃ value rest others,
        scanner (character :: text) = .ok (some (value, rest)) ∧
          splitWithin scanner fuel rest = .ok others ∧
          pieces = .construct value :: others := by
  rw [splitWithin] at splits
  rcases scanned : scanner (character :: text) with error | _ | ⟨value, rest⟩
  · rw [scanned] at splits
    cases splits
  · rw [scanned] at splits
    cases later : splitWithin scanner fuel text with
    | error error =>
        simp only [later] at splits
        cases splits
    | ok others =>
        simp only [later] at splits
        cases splits
        exact .inl ⟨rfl, others, rfl, rfl⟩
  · rw [scanned] at splits
    cases later : splitWithin scanner fuel rest with
    | error error =>
        simp only [later] at splits
        cases splits
    | ok others =>
        simp only [later] at splits
        cases splits
        exact .inr ⟨value, rest, others, rfl, later, rfl⟩

/-- How pieces are written one after the other: plain text is not empty, holds
no character with which a construct starts, and does not follow plain text. -/
inductive Pieces {α : Type} (starts : Char → Bool)
    (item : α → List Char → Prop) : List (Piece α) → List Char → Prop
  | nil : Pieces starts item [] []
  | plain {text others : List Char} {pieces : List (Piece α)} :
      text ≠ [] → (∀ character ∈ text, starts character = false) →
      (∀ more later, pieces ≠ .plain more :: later) →
      Pieces starts item pieces others →
      Pieces starts item (.plain text :: pieces) (text ++ others)
  | construct {value : α} {text others : List Char} {pieces : List (Piece α)} :
      item value text → Pieces starts item pieces others →
      Pieces starts item (.construct value :: pieces) (text ++ others)

section

variable {α : Type} {scanner : Scanner α} {starts : Char → Bool}
  {item : α → List Char → Prop}

/-- A character with which no construct starts goes to the plain text after
it. -/
theorem Pieces.prepend {character : Char} (plain : starts character = false)
    {pieces : List (Piece α)} {text : List Char}
    (written : Pieces starts item pieces text) :
    Pieces starts item (Piece.prepend character pieces)
      (character :: text) := by
  have alone (apart : ∀ more later, pieces ≠ .plain more :: later) :
      Pieces starts item (.plain [character] :: pieces) ([character] ++ text) :=
    .plain (List.cons_ne_nil _ _) (by simp [plain]) apart written
  cases written with
  | nil => exact alone (by simp)
  | construct spelled written => exact alone (by simp)
  | plain some inside apart written =>
      exact .plain (List.cons_ne_nil _ _)
        (List.forall_mem_cons.mpr ⟨plain, inside⟩) apart written

/-- Plain text is passed over one character after the other. -/
theorem splitWithin_append_plain
    (passes : ∀ character rest,
      starts character = false → scanner (character :: rest) = .ok none)
    {text : List Char} (some : text ≠ [])
    (plain : ∀ character ∈ text, starts character = false) {fuel : Nat}
    {rest : List Char} {pieces : List (Piece α)}
    (apart : ∀ more later, pieces ≠ .plain more :: later)
    (found : splitWithin scanner fuel rest = .ok pieces) :
    splitWithin scanner (text.length + fuel) (text ++ rest) =
      .ok (.plain text :: pieces) := by
  induction text with
  | nil => exact absurd rfl some
  | cons character text induction =>
      have passed :=
        passes character (text ++ rest) (plain character List.mem_cons_self)
      rw [List.length_cons, Nat.add_right_comm, List.cons_append, splitWithin,
        passed]
      dsimp only
      cases text with
      | nil =>
          rw [List.length_nil, Nat.zero_add, List.nil_append, found]
          cases pieces with
          | nil => rfl
          | cons piece later =>
              cases piece with
              | plain more => exact absurd rfl (apart more later)
              | construct value => rfl
      | cons next text =>
          rw [induction (List.cons_ne_nil _ _) fun character member =>
              plain character (List.mem_cons_of_mem _ member)]
          rfl

/-- A text is split into the pieces that it is written from. -/
theorem Pieces.split_eq
    (passes : ∀ character rest,
      starts character = false → scanner (character :: rest) = .ok none)
    (reads : ∀ value text rest,
      item value text → text ≠ [] ∧ Reads scanner text value rest)
    {pieces : List (Piece α)} {text : List Char}
    (written : Pieces starts item pieces text) :
    split scanner text = .ok pieces := by
  have within :
      ∀ extra, splitWithin scanner (text.length + extra) text = .ok pieces := by
    induction written with
    | nil =>
        intro extra
        cases extra <;> rfl
    | plain some plain apart _ induction =>
        intro extra
        rw [List.length_append, Nat.add_assoc]
        exact splitWithin_append_plain passes some plain apart (induction extra)
    | @construct value text others pieces spelled _ induction =>
        intro extra
        obtain ⟨some, read⟩ := reads value text others spelled
        obtain ⟨character, text, rfl⟩ := List.exists_cons_of_ne_nil some
        -- A construct takes one step, so that as much fuel is left as it has
        -- further characters.
        have later := induction (text.length + extra)
        have fuel : ((character :: text) ++ others).length + extra =
            others.length + (text.length + extra) + 1 := by
          simp only [List.length_append, List.length_cons]
          omega
        rw [Reads, List.cons_append] at read
        rw [fuel, List.cons_append, splitWithin, read]
        dsimp only
        rw [later]
        rfl
  exact within 0

end

end TemplateEngine.Markup.Scanner
