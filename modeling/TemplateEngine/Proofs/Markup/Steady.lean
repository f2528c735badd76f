import TemplateEngine.Proofs.Markup.Reads

/-!
# What scanners make of longer texts

A scanner that tells the end of its construct finds the same construct whatever
comes after the text.  One that reads as far as it can does so only if it stops
before the end of the text.  Scanners put together from such scanners are of the
first kind if they end with one that finds nothing in an empty text.
-/

namespace TemplateEngine.Markup.Scanner

/-- Whether a scanner finds and fails in longer texts as another one does in a
text.  A scanner that is not `closed` need not find the same construct again if
nothing is left of the text. -/
structure Steady {α : Type} (closed : Bool) (scanner longer : Scanner α) :
    Prop where
  found :
    ∀ {text value rest} (more : List Char),
      scanner text = .ok (some (value, rest)) → (closed = false → rest ≠ []) →
        longer (text ++ more) = .ok (some (value, rest ++ more))
  failed : ∀ {text error} (more : List Char), scanner text = .error error →
    ∃ other, longer (text ++ more) = .error other
  suffix :
    ∀ {text value rest}, scanner text = .ok (some (value, rest)) → rest <:+ text

/-- Whether a scanner does not go wrong at the end of a text, where it finds
nothing if it is to be closed. -/
def Idle {α : Type} (closed : Bool) (scanner : Scanner α) : Prop :=
  scanner [] = .ok none ∨
    closed = false ∧ ∃ value, scanner [] = .ok (some (value, []))

section

variable {α β : Type} {closed : Bool} {scanner longer : Scanner α}

/-- Where a longer text holds nothing, the text holds nothing either. -/
theorem Steady.eq_none (steady : Steady true scanner longer)
    {text more : List Char} (nothing : longer (text ++ more) = .ok none) :
    scanner text = .ok none := by
  rcases scanned : scanner text with error | _ | ⟨value, rest⟩
  · obtain ⟨other, fails⟩ := steady.failed more scanned
    rw [nothing] at fails
    cases fails
  · rfl
  · have found := steady.found more scanned (by simp)
    rw [nothing] at found
    cases found

/-! ## Scanners put together -/

theorem bind_eq_some_iff {next : α → Scanner β} {text rest : List Char}
    {value : β} :
    (scanner >>= next) text = .ok (some (value, rest)) ↔
      ∃ middle between, scanner text = .ok (some (middle, between)) ∧
        next middle between = .ok (some (value, rest)) := by
  rw [bind_apply]
  rcases scanner text with error | _ | ⟨middle, between⟩ <;> simp [and_assoc]

theorem bind_eq_error_iff {next : α → Scanner β} {text : List Char}
    {error : SyntaxError} :
    (scanner >>= next) text = .error error ↔
      scanner text = .error error ∨
        ∃ middle between, scanner text = .ok (some (middle, between)) ∧
          next middle between = .error error := by
  rw [bind_apply]
  rcases scanner text with error | _ | ⟨middle, between⟩ <;> simp [and_assoc]

theorem Idle.ne_nil_of_found {text rest : List Char} {value : α}
    (idle : Idle closed scanner)
    (found : scanner text = .ok (some (value, rest)))
    (inside : closed = false → rest ≠ []) : text ≠ [] := by
  rintro rfl
  rcases idle with nothing | ⟨isOpen, other, all⟩
  · rw [nothing] at found
    cases found
  · rw [all] at found
    cases found
    exact inside isOpen rfl

theorem Idle.ne_nil_of_failed {text : List Char} {error : SyntaxError}
    (idle : Idle closed scanner) (failed : scanner text = .error error) :
    text ≠ [] := by
  rintro rfl
  rcases idle with nothing | ⟨-, other, all⟩
  · rw [nothing] at failed
    cases failed
  · rw [all] at failed
    cases failed

theorem Steady.bind {ends : Bool} {next nextLonger : α → Scanner β}
    (first : Steady ends scanner longer)
    (second : ∀ value, Steady closed (next value) (nextLonger value))
    (idle : ends = true ∨ ∀ value, Idle closed (next value)) :
    Steady closed (scanner >>= next) (longer >>= nextLonger) := by
  have before {between : List Char}
      (ne_nil : (∀ value, Idle closed (next value)) → between ≠ []) :
      ends = false → between ≠ [] := by
    rintro rfl
    exact ne_nil (idle.resolve_left (by simp))
  refine ⟨?_, ?_, ?_⟩
  · intro text value rest more found inside
    obtain ⟨middle, between, scanned, found⟩ := bind_eq_some_iff.mp found
    have again := first.found more scanned
      (before fun idle => (idle middle).ne_nil_of_found found inside)
    exact bind_eq_some_iff.mpr
      ⟨middle, _, again, (second middle).found more found inside⟩
  · intro text error more failed
    rcases bind_eq_error_iff.mp failed with
      failed | ⟨middle, between, scanned, failed⟩
    · obtain ⟨other, fails⟩ := first.failed more failed
      exact ⟨other, bind_eq_error_iff.mpr (.inl fails)⟩
    · have again := first.found more scanned
        (before fun idle => (idle middle).ne_nil_of_failed failed)
      obtain ⟨other, fails⟩ := (second middle).failed more failed
      exact ⟨other, bind_eq_error_iff.mpr (.inr ⟨middle, _, again, fails⟩)⟩
  · intro text value rest found
    obtain ⟨middle, between, scanned, found⟩ := bind_eq_some_iff.mp found
    exact ((second middle).suffix found).trans (first.suffix scanned)

theorem withText_eq_some_iff {text rest raw : List Char} {value : α} :
    withText scanner text = .ok (some ((value, raw), rest)) ↔
      scanner text = .ok (some (value, rest)) ∧
        raw = text.take (text.length - rest.length) := by
  rw [withText]
  rcases scanner text with error | _ | ⟨other, between⟩
  · simp
  · simp
  · simp only [Except.ok.injEq, Option.some.injEq, Prod.mk.injEq]
    constructor
    · rintro ⟨⟨rfl, rfl⟩, rfl⟩
      exact ⟨⟨rfl, rfl⟩, rfl⟩
    · rintro ⟨⟨rfl, rfl⟩, rfl⟩
      exact ⟨⟨rfl, rfl⟩, rfl⟩

theorem withText_eq_error_iff {text : List Char} {error : SyntaxError} :
    withText scanner text = .error error ↔ scanner text = .error error := by
  rw [withText]
  rcases scanner text with error | _ | ⟨other, between⟩ <;> simp

theorem Steady.withText (steady : Steady closed scanner longer) :
    Steady closed (withText scanner) (withText longer) := by
  refine ⟨?_, ?_, ?_⟩
  · rintro text ⟨value, raw⟩ rest more found inside
    obtain ⟨scanned, rfl⟩ := withText_eq_some_iff.mp found
    obtain ⟨before, rfl⟩ := steady.suffix scanned
    refine withText_eq_some_iff.mpr ⟨steady.found more scanned inside, ?_⟩
    simp
  · intro text error more failed
    obtain ⟨other, fails⟩ :=
      steady.failed more (withText_eq_error_iff.mp failed)
    exact ⟨other, withText_eq_error_iff.mpr fails⟩
  · rintro text ⟨value, raw⟩ rest found
    exact steady.suffix (withText_eq_some_iff.mp found).1

/-! ## Scanners that read nothing -/

/-- What reads nothing does not depend on the text. -/
theorem steady_of_still {result : Except SyntaxError (Option α)}
    (still : ∀ text,
      scanner text = result.map (Option.map fun value => (value, text))) :
    Steady closed scanner scanner := by
  have found_iff {text rest : List Char} {value : α} :
      scanner text = .ok (some (value, rest)) ↔
        result = .ok (some value) ∧ rest = text := by
    rw [still]
    rcases result with error | _ | other <;> simp [Except.map, eq_comm]
  have failed_iff {text : List Char} {error : SyntaxError} :
      scanner text = .error error ↔ result = .error error := by
    rw [still]
    rcases result with error | _ | other <;> simp [Except.map]
  refine ⟨?_, ?_, ?_⟩
  · intro text value rest more found inside
    obtain ⟨same, rfl⟩ := found_iff.mp found
    exact found_iff.mpr ⟨same, rfl⟩
  · intro text error more failed
    exact ⟨error, failed_iff.mpr (failed_iff.mp failed)⟩
  · intro text value rest found
    obtain ⟨-, rfl⟩ := found_iff.mp found
    exact List.suffix_refl rest

theorem steady_pure (value : α) :
    Steady closed (pure value : Scanner α) (pure value) :=
  @steady_of_still _ _ _ (.ok (some value)) fun _ => rfl

theorem steady_nothing (longer : Scanner α) : Steady closed nothing longer where
  found _ found := by cases found
  failed _ failed := by cases failed
  suffix found := by cases found

theorem steady_ensure (condition : Bool) :
    Steady closed (ensure condition) (ensure condition) := by
  cases condition with
  | true => exact steady_pure ()
  | false => exact steady_nothing _

theorem steady_some (value : Option α) :
    Steady closed (some? value) (some? value) := by
  cases value with
  | none => exact steady_nothing _
  | some value => exact steady_pure value

theorem steady_lift (result : Except SyntaxError α) :
    Steady closed (lift result) (lift result) := by
  apply @steady_of_still _ _ _ (result.map some)
  intro text
  cases result <;> rfl

theorem exists_within_eq (other : List Char) (scanner : Scanner α) :
    ∃ result : Except SyntaxError (Option α), ∀ text,
      within other scanner text =
        result.map (Option.map fun value => (value, text)) := by
  refine ⟨(within other scanner []).map (Option.map Prod.fst), fun text => ?_⟩
  rw [within, within]
  rcases scanner other with error | _ | ⟨value, _ | _⟩ <;> rfl

theorem steady_within (other : List Char) (scanner : Scanner α) :
    Steady closed (within other scanner) (within other scanner) := by
  obtain ⟨result, still⟩ := exists_within_eq other scanner
  exact steady_of_still still

theorem steady_fail (cause : SyntaxError.Cause) :
    Steady closed (fail cause : Scanner α) (fail cause) where
  found _ found := by cases found
  failed _ _ := ⟨_, rfl⟩
  suffix found := by cases found

theorem Steady.map (steady : Steady closed scanner longer) (change : α → β) :
    Steady closed (scanner >>= fun value => pure (change value))
      (longer >>= fun value => pure (change value)) := by
  apply steady.bind fun value => steady_pure (change value)
  cases closed with
  | true => exact .inl rfl
  | false => exact .inr fun value => .inr ⟨rfl, _, rfl⟩

/-! ## Scanners that read a given text -/

theorem exactly_eq_some_iff {expected text rest : List Char} :
    exactly expected text = .ok (some ((), rest)) ↔
      text = expected ++ rest := by
  rw [exactly, @eq_comm _ text, ← List.isPrefixOf?_eq_some_iff_append_eq]
  simp

theorem steady_exactly (expected : List Char) :
    Steady closed (exactly expected) (exactly expected) where
  found more found _ := by
    rw [exactly_eq_some_iff.mp found, List.append_assoc]
    exact exactly_append expected _
  failed more failed := by cases failed
  suffix found := by
    rw [exactly_eq_some_iff.mp found]
    exact List.suffix_append _ _

/-- A single character is taken or not before the text is over. -/
theorem steady_takes (character : Char) :
    Steady false (takes [character]) (takes [character]) := by
  have takes_cons (first : Char) (text : List Char) :
      takes [character] (first :: text) =
        .ok (some (decide (character = first),
          if character = first then text else first :: text)) := by
    by_cases same : character = first <;> simp [takes, List.isPrefixOf?, same]
  refine ⟨?_, ?_, ?_⟩
  · intro text value rest more found inside
    cases text with
    | nil =>
        cases found
        exact absurd rfl (inside rfl)
    | cons first text =>
        rw [List.cons_append, takes_cons]
        rw [takes_cons] at found
        cases found
        split <;> rfl
  · intro text error more failed
    cases text with
    | nil => cases failed
    | cons first text =>
        rw [takes_cons] at failed
        cases failed
  · intro text value rest found
    cases text with
    | nil =>
        cases found
        exact List.suffix_refl _
    | cons first text =>
        rw [takes_cons] at found
        cases found
        split
        · exact List.suffix_cons _ _
        · exact List.suffix_refl _

/-! ## Scanners that look ahead -/

theorem eq_of_cut_pair {first second : Char} {start : List Char}
    (inside : start <+: [first, second]) (apart : start ≠ [first, second]) :
    start = [] ∨ start = [first] := by
  rcases List.prefix_cons_iff.mp inside with rfl | ⟨left, rfl, last⟩
  · exact .inl rfl
  · rcases List.prefix_cons_iff.mp last with rfl | ⟨_, rfl, nothing⟩
    · exact .inr rfl
    · cases List.prefix_nil.mp nothing
      exact absurd rfl apart

/-- Looking for a start does no harm if nothing is found where the start is cut
off. -/
theorem steady_of_starts {expected : List Char}
    {taken takenLonger other otherLonger : Scanner α}
    (scanner_eq : ∀ text,
      scanner text = if expected <+: text then taken text else other text)
    (longer_eq :
      ∀ text, longer text =
        if expected <+: text then takenLonger text else otherLonger text)
    (steadyTaken : Steady closed taken takenLonger)
    (steadyOther : Steady closed other otherLonger)
    (cut :
      ∀ start, start <+: expected → start ≠ expected → other start = .ok none) :
    Steady closed scanner longer := by
  have starts_append {text : List Char} (more : List Char)
      (starts : expected <+: text) : expected <+: text ++ more :=
    starts.trans (List.prefix_append text more)
  -- a text that starts so only with what comes after it has been cut off
  have other_append {text : List Char} (more : List Char)
      (apart : ¬ expected <+: text) (something : other text ≠ .ok none) :
      ¬ expected <+: text ++ more := by
    intro starts
    rcases List.prefix_or_prefix_of_prefix starts
      (List.prefix_append text more) with
      long | short
    · exact apart long
    · exact something
        (cut text short fun same => apart (same ▸ List.prefix_rfl))
  refine ⟨?_, ?_, ?_⟩
  · intro text value rest more found inside
    rw [scanner_eq] at found
    rw [longer_eq]
    by_cases starts : expected <+: text
    · rw [if_pos starts] at found
      rw [if_pos (starts_append more starts)]
      exact steadyTaken.found more found inside
    · rw [if_neg starts] at found
      rw [if_neg (other_append more starts (by simp [found]))]
      exact steadyOther.found more found inside
  · intro text error more failed
    rw [scanner_eq] at failed
    rw [longer_eq]
    by_cases starts : expected <+: text
    · rw [if_pos starts] at failed
      rw [if_pos (starts_append more starts)]
      exact steadyTaken.failed more failed
    · rw [if_neg starts] at failed
      rw [if_neg (other_append more starts (by simp [failed]))]
      exact steadyOther.failed more failed
  · intro text value rest found
    rw [scanner_eq] at found
    split at found
    · exact steadyTaken.suffix found
    · exact steadyOther.suffix found

theorem takes_bind_apply (expected text : List Char) (taken other : Scanner α) :
    (takes expected >>= fun found => if found = true then taken else other)
        text =
      if expected <+: text then (exactly expected >>= fun _ => taken) text
      else other text := by
  rw [bind_apply, bind_apply, takes, exactly]
  by_cases starts : expected <+: text
  · obtain ⟨rest, rfl⟩ := starts
    rw [List.isPrefixOf?_eq_some_iff_append_eq.mpr rfl,
      if_pos (List.prefix_append _ _)]
    rfl
  · rw [Text.isPrefixOf?_eq_none_iff.mpr starts, if_neg starts]
    rfl

theorem steady_takes_or {expected : List Char}
    {taken takenLonger other otherLonger : Scanner α}
    (steadyTaken : Steady closed taken takenLonger)
    (steadyOther : Steady closed other otherLonger)
    (cut :
      ∀ start, start <+: expected → start ≠ expected → other start = .ok none) :
    Steady closed
      (takes expected >>= fun found => if found = true then taken else other)
      (takes expected >>= fun found =>
        if found = true then takenLonger else otherLonger) :=
  steady_of_starts (fun text => takes_bind_apply expected text taken other)
    (fun text => takes_bind_apply expected text takenLonger otherLonger)
    ((steady_exactly expected).bind (fun _ => steadyTaken) (.inl rfl))
    steadyOther cut

/-- Scanners may be picked by the first character. -/
theorem steady_of_head {pick : Char → Scanner α}
    (nothing : scanner [] = .ok none)
    (scanner_eq :
      ∀ first text, scanner (first :: text) = pick first (first :: text))
    (steady : ∀ first, Steady closed (pick first) (pick first)) :
    Steady closed scanner scanner := by
  refine ⟨?_, ?_, ?_⟩
  · intro text value rest more found inside
    cases text with
    | nil =>
        rw [nothing] at found
        cases found
    | cons first text =>
        rw [scanner_eq] at found
        rw [List.cons_append, scanner_eq]
        exact (steady first).found more found inside
  · intro text error more failed
    cases text with
    | nil =>
        rw [nothing] at failed
        cases failed
    | cons first text =>
        rw [scanner_eq] at failed
        rw [List.cons_append, scanner_eq]
        exact (steady first).failed more failed
  · intro text value rest found
    cases text with
    | nil =>
        rw [nothing] at found
        cases found
    | cons first text =>
        rw [scanner_eq] at found
        exact (steady first).suffix found

end

/-! ## Scanners that read as far as they can -/

section

theorem takeWhile_append_of_left {kind : Char → Bool} {text : List Char}
    (more : List Char) (inside : text.dropWhile kind ≠ []) :
    (text ++ more).takeWhile kind = text.takeWhile kind ∧
      (text ++ more).dropWhile kind = text.dropWhile kind ++ more := by
  induction text with
  | nil => exact absurd rfl inside
  | cons character text induction =>
      cases holds : kind character with
      | false => simp [holds]
      | true =>
          rw [List.dropWhile_cons_of_pos holds] at inside
          simpa [holds] using induction inside

theorem steady_takeUntil (stop : Char → Bool) :
    Steady false (takeUntil stop) (takeUntil stop) where
  found more found inside := by
    cases found
    obtain ⟨taken, left⟩ := takeWhile_append_of_left more (inside rfl)
    rw [takeUntil, taken, left]
  failed more failed := by cases failed
  suffix found := by
    cases found
    exact List.dropWhile_suffix _

theorem steady_skipBlanks : Steady false skipBlanks skipBlanks :=
  (steady_takeUntil _).map fun blanks => !blanks.isEmpty

theorem steady_bare (stop : Char → Bool) :
    Steady false (bare stop) (bare stop) := by
  refine (steady_takeUntil _).bind (fun text => ?_) (.inr fun text => ?_)
  · exact (steady_ensure _).bind (fun _ => steady_pure _) (.inl rfl)
  · cases text with
    | nil => exact .inl rfl
    | cons first text => exact .inr ⟨rfl, _, rfl⟩

theorem name_eq_some_iff {text rest : List Char} {value : String} :
    name text = .ok (some (value, rest)) ↔
      text.head?.any Text.isNameStart = true ∧
        String.ofList (text.takeWhile Text.isNamePart) = value ∧
        text.dropWhile Text.isNamePart = rest := by
  cases text with
  | nil => simp [name]
  | cons first text =>
      rw [name]
      split <;> simp_all

theorem steady_name : Steady false name name where
  found {text value rest} more found inside := by
    obtain ⟨starts, rfl, rfl⟩ := name_eq_some_iff.mp found
    obtain ⟨taken, left⟩ := takeWhile_append_of_left more (inside rfl)
    refine name_eq_some_iff.mpr ⟨?_, by rw [taken], left⟩
    cases text with
    | nil => cases starts
    | cons first text => exact starts
  failed {text error} more failed := by
    cases text with
    | nil => cases failed
    | cons first text =>
        rw [name] at failed
        split at failed <;> cases failed
  suffix found := by
    rw [← (name_eq_some_iff.mp found).2.2]
    exact List.dropWhile_suffix _

end

/-! ## Texts up to a pattern -/

theorem eq_of_splitAround? {pattern text before rest : List Char}
    (found : Text.splitAround? pattern text = some (before, rest)) :
    text = before ++ (pattern ++ rest) := by
  induction text generalizing before with
  | nil =>
      obtain ⟨left, dropped, same⟩ := Option.map_eq_some_iff.mp found
      cases same
      exact (List.append_eq_of_isPrefixOf?_eq_some dropped).symm
  | cons character text induction =>
      rw [Text.splitAround?] at found
      split at found
      next dropped =>
        cases found
        exact (List.append_eq_of_isPrefixOf?_eq_some dropped).symm
      next =>
        obtain ⟨⟨inner, left⟩, inside, same⟩ := Option.map_eq_some_iff.mp found
        cases same
        rw [induction inside, List.cons_append]

/-- The first occurrence of a pattern remains the first one. -/
theorem splitAround?_append_of_found {first : Char}
    {pattern text before rest : List Char} (more : List Char)
    (found : Text.splitAround? (first :: pattern) text = some (before, rest)) :
    Text.splitAround? (first :: pattern) (text ++ more) =
      some (before, rest ++ more) := by
  induction text generalizing before with
  | nil => cases found
  | cons character text induction =>
      rw [Text.splitAround?] at found
      rw [List.cons_append, Text.splitAround?]
      split at found
      next dropped =>
        cases found
        have again :
            List.isPrefixOf? (first :: pattern) (character :: (text ++ more)) =
              some (rest ++ more) := by
          rw [List.isPrefixOf?_eq_some_iff_append_eq] at dropped ⊢
          rw [← List.cons_append, ← dropped, List.append_assoc]
        rw [again]
      next undropped =>
        obtain ⟨⟨inner, left⟩, inside, same⟩ := Option.map_eq_some_iff.mp found
        cases same
        -- the pattern is no longer than the text, which it does not start
        have again :
            List.isPrefixOf? (first :: pattern) (character :: (text ++ more)) =
              none := by
          rw [Text.isPrefixOf?_eq_none_iff] at undropped ⊢
          intro starts
          have shorter :
              (first :: pattern).length ≤ (character :: text).length := by
            have length := congrArg List.length (eq_of_splitAround? inside)
            simp only [List.length_append, List.length_cons] at length ⊢
            omega
          exact undropped (List.prefix_of_prefix_length_le starts
            (List.prefix_append (character :: text) more) shorter)
        rw [again, induction inside]
        rfl

theorem steady_upTo {closed : Bool} (first : Char) (pattern : List Char) :
    Steady closed (upTo (first :: pattern)) (upTo (first :: pattern)) where
  found more found _ :=
    upTo_eq_some_iff.mpr
      (splitAround?_append_of_found more (upTo_eq_some_iff.mp found))
  failed more failed := by
    rw [upTo] at failed
    split at failed <;> cases failed
  suffix found := by
    rw [eq_of_splitAround? (upTo_eq_some_iff.mp found)]
    exact (List.suffix_append _ _).trans (List.suffix_append _ _)

/-! ## Quoted texts -/

section

variable {mark : Char}

theorem unquote_cons {character : Char} (plain : character ≠ '\\')
    (text : List Char) :
    unquote mark (character :: text) = if character = mark then some ([], text)
      else (unquote mark text).map fun (content, rest) =>
        (character :: content, rest) := by
  rw [unquote]
  · exact fun same => absurd same plain
  · exact fun _ _ same => absurd same plain

theorem ne_backslash {character : Char} {text : List Char}
    (last : character = '\\' → text = [] → False)
    (escapes : ∀ next rest, character = '\\' → text = next :: rest → False) :
    character ≠ '\\' := by
  intro same
  cases text with
  | nil => exact last same rfl
  | cons next rest => exact escapes next rest same rfl

theorem unquote_append {text content rest : List Char} (more : List Char)
    (found : unquote mark text = some (content, rest)) :
    unquote mark (text ++ more) = some (content, rest ++ more) ∧
      rest <:+ text := by
  induction text using unquote.induct mark generalizing content rest with
  | case1 => cases found
  | case2 => cases found
  | case3 character text induction =>
      rw [unquote] at found
      obtain ⟨⟨inner, left⟩, inside, same⟩ := Option.map_eq_some_iff.mp found
      obtain ⟨again, suffix⟩ := induction inside
      rw [List.cons_append, List.cons_append, unquote, again, Option.map_some]
      have further :=
        suffix.trans
          ((List.suffix_cons character _).trans (List.suffix_cons '\\' _))
      dsimp only at same ⊢
      by_cases quotes :
        (decide (character = mark) || decide (character = '\\')) = true
      · rw [if_pos quotes] at same ⊢
        cases same
        exact ⟨rfl, further⟩
      · rw [if_neg quotes] at same ⊢
        cases same
        exact ⟨rfl, further⟩
  | case4 text last escapes =>
      rw [unquote_cons (ne_backslash last escapes), if_pos rfl] at found
      cases found
      rw [List.cons_append, unquote_cons (ne_backslash last escapes),
        if_pos rfl]
      exact ⟨rfl, List.suffix_cons _ _⟩
  | case5 character text last escapes other induction =>
      have plain := ne_backslash last escapes
      rw [unquote_cons plain, if_neg other] at found
      obtain ⟨⟨inner, left⟩, inside, same⟩ := Option.map_eq_some_iff.mp found
      cases same
      obtain ⟨again, suffix⟩ := induction inside
      rw [List.cons_append, unquote_cons plain, if_neg other, again]
      exact ⟨rfl, suffix.trans (List.suffix_cons _ _)⟩

theorem steady_quoted {closed : Bool} : Steady closed quoted quoted := by
  have quoted_eq_some_iff {text rest : List Char} {value : String} :
      quoted text = .ok (some (value, rest)) ↔
        ∃ mark content inner, (mark = '\'' ∨ mark = '"') ∧
          text = mark :: inner ∧ unquote mark inner = some (content, rest) ∧
          String.ofList content = value := by
    rw [quoted.eq_def]
    split
    next inner => simp
    next inner => simp
    next noSingle noDouble =>
      constructor
      · intro found
        cases found
      · rintro ⟨mark, content, inner, rfl | rfl, rfl, -⟩
        · exact absurd rfl (noSingle inner)
        · exact absurd rfl (noDouble inner)
  refine ⟨?_, ?_, ?_⟩
  · intro text value rest more found inside
    obtain ⟨mark, content, inner, isMark, rfl, unquoted, rfl⟩ :=
      quoted_eq_some_iff.mp found
    exact quoted_eq_some_iff.mpr ⟨mark, content, inner ++ more, isMark, rfl,
      (unquote_append more unquoted).1, rfl⟩
  · intro text error more failed
    rw [quoted.eq_def] at failed
    split at failed <;> cases failed
  · intro text value rest found
    obtain ⟨mark, content, inner, isMark, rfl, unquoted, rfl⟩ :=
      quoted_eq_some_iff.mp found
    exact (unquote_append [] unquoted).2.trans (List.suffix_cons _ _)

end

/-! ## Lists -/

section

variable {α : Type} {item longer : Scanner α}
  (steady : Steady false item longer) (lead : Char)

include steady

/-- With enough fuel for either text, lists are read alike as long as the text
is not over. -/
theorem manyAfterWithin_append {fuel fuelLonger : Nat} {text : List Char}
    (more : List Char) (enough : text.length ≤ fuel)
    (enoughLonger : (text ++ more).length ≤ fuelLonger) :
    (∀ values rest,
        manyAfterWithin lead item fuel text = .ok (some (values, rest)) →
          rest <:+ text ∧
            (rest ≠ [] →
              manyAfterWithin lead longer fuelLonger (text ++ more) =
                .ok (some (values, rest ++ more)))) ∧
      ∀ error, manyAfterWithin lead item fuel text = .error error →
        text ≠ [] ∧
          ∃ other, manyAfterWithin lead longer fuelLonger (text ++ more) =
            .error other := by
  induction fuel generalizing text fuelLonger with
  | zero =>
      obtain rfl := List.length_eq_zero_iff.mp (Nat.le_zero.mp enough)
      refine ⟨fun values rest found => ?_, fun error failed => by cases failed⟩
      cases found
      exact ⟨List.suffix_refl _, fun inside => absurd rfl inside⟩
  | succ fuel induction =>
      match text, fuelLonger with
      | [], _ =>
          refine ⟨fun values rest found => ?_,
            fun error failed => by cases failed⟩
          cases found
          exact ⟨List.suffix_refl _, fun inside => absurd rfl inside⟩
      | character :: text, 0 => exact absurd enoughLonger (by simp)
      | character :: text, fuelLonger + 1 =>
          rw [List.cons_append, manyAfterWithin, manyAfterWithin]
          by_cases leads : character = lead
          · rw [if_pos leads, if_pos leads]
            have later {first : α} {between : List Char}
                (scanned : item text = .ok (some (first, between))) :=
              have inside := (steady.suffix scanned).length_le
              @induction fuelLonger between (by simp at enough; omega)
                (by simp at enoughLonger ⊢; omega)
            refine ⟨fun values rest found => ?_,
              fun error failed => ⟨List.cons_ne_nil _ _, ?_⟩⟩
            · obtain ⟨first, between, scanned, found⟩ :=
                bind_eq_some_iff.mp found
              obtain ⟨others, left, many, same⟩ := bind_eq_some_iff.mp found
              cases same
              obtain ⟨suffix, again⟩ := (later scanned).1 _ _ many
              refine ⟨(suffix.trans (steady.suffix scanned)).trans
                  (List.suffix_cons _ _), ?_⟩
              intro inside
              have before : between ≠ [] :=
                fun none => inside (List.suffix_nil.mp (none ▸ suffix))
              exact bind_eq_some_iff.mpr ⟨first, _,
                steady.found more scanned fun _ => before,
                bind_eq_some_iff.mpr ⟨others, _, again inside, rfl⟩⟩
            · rcases bind_eq_error_iff.mp failed with
                failed | ⟨first, between, scanned, failed⟩
              · obtain ⟨other, fails⟩ := steady.failed more failed
                exact ⟨other, bind_eq_error_iff.mpr (.inl fails)⟩
              · rcases bind_eq_error_iff.mp failed with
                  failed | ⟨_, _, -, failed⟩
                · obtain ⟨before, other, fails⟩ := (later scanned).2 _ failed
                  exact ⟨other, bind_eq_error_iff.mpr (.inr ⟨first, _,
                    steady.found more scanned fun _ => before,
                    bind_eq_error_iff.mpr (.inl fails)⟩)⟩
                · cases failed
          · rw [if_neg leads, if_neg leads]
            refine ⟨fun values rest found => ?_,
              fun error failed => by cases failed⟩
            cases found
            exact ⟨List.suffix_refl _, fun _ => rfl⟩

theorem steady_manyAfter :
    Steady false (manyAfter lead item) (manyAfter lead longer) where
  found more found inside :=
    ((manyAfterWithin_append steady lead more (Nat.le_refl _) (Nat.le_refl _)).1
      _ _ found).2 (inside rfl)
  failed more failed :=
    ((manyAfterWithin_append steady lead more (Nat.le_refl _) (Nat.le_refl _)).2
      _ failed).2
  suffix found :=
    ((manyAfterWithin_append steady lead [] (Nat.le_refl _) (Nat.le_refl _)).1
      _ _ found).1

end

end TemplateEngine.Markup.Scanner
