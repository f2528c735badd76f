import Mathlib.Data.List.Forall2
import TemplateEngine.Proofs.Markup.Found

/-!
# Scanners that find less

A scanner may be followed by one for a smaller language, which loses some of the
constructs that the first one finds and keeps the others, perhaps changed, at
the same length.  Scanners put together from scanners that follow each other
follow each other too.  Where all changes are told by what the first scanner has
found, the second one splits a text as the first does as long as nothing of this
kind is found in it.
-/

namespace TemplateEngine.Markup.Scanner

/-- What a scanner comes to on a text. -/
abbrev Result (α : Type) : Type :=
  Except SyntaxError (Option (α × List Char))

/-- How the result of a second scanner follows that of a first one.  Where the
first one fails, nothing is asked of the second. -/
inductive Follows {α : Type} (lost : α → Prop) (kept : α → α → Prop) :
    Result α → Result α → Prop
  | failed (error : SyntaxError) (result : Result α) :
      Follows lost kept (.error error) result
  | nothing : Follows lost kept (.ok none) (.ok none)
  | lost {value : α} (rest : List Char) :
      lost value → Follows lost kept (.ok (some (value, rest))) (.ok none)
  | kept {value other : α} (rest : List Char) :
      kept value other →
      Follows lost kept (.ok (some (value, rest))) (.ok (some (other, rest)))

/-- Whether a second scanner follows a first one on all texts. -/
def FollowedBy {α : Type} (lost : α → Prop) (kept : α → α → Prop)
    (scanner other : Scanner α) : Prop :=
  ∀ text, Follows lost kept (scanner text) (other text)

section

variable {α β : Type} {lost : α → Prop} {kept : α → α → Prop}
  {lostThen : β → Prop} {keptThen : β → β → Prop} {scanner other : Scanner α}

theorem followedBy_refl (reflexive : ∀ value, kept value value)
    (scanner : Scanner α) : scanner.FollowedBy lost kept scanner := by
  intro text
  rcases scanner text with error | _ | ⟨value, rest⟩
  · exact .failed error _
  · exact .nothing
  · exact .kept rest (reflexive value)

/-- A second scanner may find nothing where all that the first one finds is
lost. -/
theorem follows_nothing {result : Result α}
    (losing : ∀ value rest, result = .ok (some (value, rest)) → lost value) :
    Follows lost kept result (.ok none) := by
  rcases result with error | _ | ⟨value, rest⟩
  · exact .failed error _
  · exact .nothing
  · exact .lost rest (losing value rest rfl)

theorem FollowedBy.mono {lostMore : α → Prop} {keptMore : α → α → Prop}
    (follows : scanner.FollowedBy lost kept other)
    (more : ∀ value, lost value → lostMore value)
    (alike : ∀ value changed, kept value changed → keptMore value changed) :
    scanner.FollowedBy lostMore keptMore other := by
  intro text
  have related := follows text
  generalize scanner text = result, other text = otherResult at related ⊢
  cases related with
  | failed error result => exact .failed error _
  | nothing => exact .nothing
  | lost rest isLost => exact .lost rest (more _ isLost)
  | kept rest isKept => exact .kept rest (alike _ _ isKept)

/-- If a construct is lost, so is whatever it is a part of. -/
theorem FollowedBy.bind {next nextOther : α → Scanner β}
    (first : scanner.FollowedBy lost kept other)
    (second : ∀ value changed, kept value changed →
      (next value).FollowedBy lostThen keptThen (nextOther changed))
    (losing : ∀ value, lost value → (next value).Finds lostThen) :
    (scanner >>= next).FollowedBy lostThen keptThen (other >>= nextOther) := by
  intro text
  rw [bind_apply, bind_apply]
  have related := first text
  generalize scanner text = result, other text = otherResult at related
  cases related with
  | failed error result => exact .failed error _
  | nothing => exact .nothing
  | @lost value rest isLost => exact follows_nothing (losing value isLost rest)
  | kept rest isKept => exact second _ _ isKept rest

/-- What both scanners begin with in common. -/
theorem FollowedBy.after {next nextOther : α → Scanner β} (scanner : Scanner α)
    (second :
      ∀ value, (next value).FollowedBy lostThen keptThen (nextOther value)) :
    (scanner >>= next).FollowedBy lostThen keptThen
      (scanner >>= nextOther) := by
  have same : scanner.FollowedBy (fun _ => False) Eq scanner :=
    followedBy_refl (fun _ => rfl) _
  refine same.bind ?_ fun _ never => never.elim
  rintro value _ rfl
  exact second value

theorem FollowedBy.map {change changeOther : α → β}
    (follows : scanner.FollowedBy lost kept other)
    (alike : ∀ value changed,
      kept value changed → keptThen (change value) (changeOther changed))
    (losing : ∀ value, lost value → lostThen (change value)) :
    (do return change (← scanner) : Scanner β).FollowedBy lostThen keptThen
      (do return changeOther (← other)) :=
  follows.bind (fun _ _ isKept _ => .kept _ (alike _ _ isKept)) fun _ isLost =>
    finds_pure (losing _ isLost)

theorem FollowedBy.withText (follows : scanner.FollowedBy lost kept other) :
    (withText scanner).FollowedBy (fun found => lost found.1)
      (fun found changed => kept found.1 changed.1 ∧ found.2 = changed.2)
      (withText other) := by
  intro text
  rw [Scanner.withText, Scanner.withText]
  have related := follows text
  generalize scanner text = result, other text = otherResult at related
  cases related with
  | failed error result => exact .failed error _
  | nothing => exact .nothing
  | lost rest isLost => exact .lost rest isLost
  | kept rest isKept => exact .kept rest ⟨isKept, rfl⟩

theorem FollowedBy.within (follows : scanner.FollowedBy lost kept other)
    (whole : List Char) :
    (within whole scanner).FollowedBy lost kept (within whole other) := by
  intro text
  rw [Scanner.within, Scanner.within]
  have related := follows whole
  generalize scanner whole = result, other whole = otherResult at related
  cases related with
  | failed error result => exact .failed error _
  | nothing => exact .nothing
  | lost rest isLost =>
      cases rest with
      | nil => exact .lost text isLost
      | cons _ _ => exact .nothing
  | kept rest isKept =>
      cases rest with
      | nil => exact .kept text isKept
      | cons _ _ => exact .nothing

/-- A row of items is lost with any item of it, and kept item by item. -/
theorem FollowedBy.manyAfter (follows : scanner.FollowedBy lost kept other)
    (lead : Char) :
    (manyAfter lead scanner).FollowedBy
      (fun values => ∃ value ∈ values, lost value) (List.Forall₂ kept)
      (manyAfter lead other) := by
  have bounded (fuel : Nat) : (manyAfterWithin lead scanner fuel).FollowedBy
      (fun values => ∃ value ∈ values, lost value) (List.Forall₂ kept)
        (manyAfterWithin lead other fuel) := by
    induction fuel with
    | zero => exact fun text => .kept text .nil
    | succ fuel induction =>
        have items : (do
            let first ← scanner
            let others ← manyAfterWithin lead scanner fuel
            return first :: others :
              Scanner (List α)).FollowedBy
                (fun values => ∃ value ∈ values, lost value) (List.Forall₂ kept)
                (do
            let first ← other
            let others ← manyAfterWithin lead other fuel
            return first :: others : Scanner (List α)) := by
          refine follows.bind (fun first changed isKept => ?_)
            fun first isLost => ?_
          · refine induction.map (fun _ _ alike => .cons isKept alike) ?_
            rintro others ⟨value, member, isLost⟩
            exact ⟨value, List.mem_cons_of_mem _ member, isLost⟩
          · exact finds_bind fun others =>
              finds_pure ⟨first, List.mem_cons_self, isLost⟩
        intro text
        cases text with
        | nil => exact .kept [] .nil
        | cons character text =>
            rw [manyAfterWithin, manyAfterWithin]
            split
            · exact items text
            · exact .kept _ .nil
  exact fun text => bounded text.length text

/-- Where nothing can be lost, whatever is split by the first scanner is split
by the second. -/
theorem FollowedBy.exists_split (follows : scanner.FollowedBy lost kept other)
    (keeps : ∀ value, ¬ lost value) {text : List Char} {pieces : List (Piece α)}
    (splits : split scanner text = .ok pieces) :
    ∃ others, split other text = .ok others := by
  rw [split] at splits ⊢
  generalize text.length = fuel at splits ⊢
  induction fuel generalizing text pieces with
  | zero => exact ⟨[], rfl⟩
  | succ fuel induction =>
      cases text with
      | nil => exact ⟨[], rfl⟩
      | cons character text =>
          have related := follows (character :: text)
          rw [splitWithin]
          rcases splitWithin_cons_eq_ok splits with
            ⟨nothing, _, later, -⟩ | ⟨value, rest, _, scanned, later, -⟩
          · obtain ⟨others, again⟩ := induction later
            rw [nothing] at related
            generalize other (character :: text) = result at related ⊢
            cases related
            exact ⟨_, congrArg (Except.map _) again⟩
          · obtain ⟨others, again⟩ := induction later
            rw [scanned] at related
            generalize other (character :: text) = result at related ⊢
            cases related with
            | lost _ isLost => exact absurd isLost (keeps value)
            | kept _ _ => exact ⟨_, congrArg (Except.map _) again⟩

end

/-! ## The same results, unless something of a kind is found -/

/-- How the result of a second scanner follows that of a first one if only
constructs of a kind make a difference.  In deep places, the second one may fail
where the first one finds nothing. -/
inductive Reduces {α : Type} (uses : α → Prop) (deep : String → Prop) :
    Result α → Result α → Prop
  | failed (error : SyntaxError) (result : Result α) :
      Reduces uses deep (.error error) result
  | same (result : Result α) : Reduces uses deep result result
  | uses {value : α} (rest : List Char) (result : Result α) :
      uses value → Reduces uses deep (.ok (some (value, rest))) result
  | deep {near : String} :
      deep near → Reduces uses deep (.ok none) (.error ⟨.tooDeep, near⟩)

/-- Whether a second scanner finds what a first one finds, unless this is of a
kind. -/
def ReducedBy {α : Type} (uses : α → Prop) (deep : List Char → String → Prop)
    (scanner other : Scanner α) : Prop :=
  ∀ text, Reduces uses (deep text) (scanner text) (other text)

section

variable {α β : Type} {uses : α → Prop} {deep : List Char → String → Prop}
  {scanner other : Scanner α}

theorem reducedBy_refl (scanner : Scanner α) :
    scanner.ReducedBy uses deep scanner :=
  fun _ => .same _

theorem Reduces.mono {isDeep isDeeper : String → Prop}
    {result otherResult : Result α}
    (related : Reduces uses isDeep result otherResult)
    (more : ∀ near, isDeep near → isDeeper near) :
    Reduces uses isDeeper result otherResult := by
  cases related with
  | failed error result => exact .failed error _
  | same result => exact .same _
  | uses rest result isUse => exact .uses rest _ isUse
  | deep isDeep => exact .deep (more _ isDeep)

/-- A second scanner may find nothing where all that the first one finds is of
the kind. -/
theorem reduces_nothing {isDeep : String → Prop} {result : Result α}
    (finds : ∀ value rest, result = .ok (some (value, rest)) → uses value) :
    Reduces uses isDeep result (.ok none) := by
  rcases result with error | _ | ⟨value, rest⟩
  · exact .failed error _
  · exact .same _
  · exact .uses rest _ (finds value rest rfl)

theorem FollowedBy.reducedBy {lost : α → Prop} {kept : α → α → Prop}
    (follows : scanner.FollowedBy lost kept other)
    (losing : ∀ value, lost value → uses value)
    (alike :
      ∀ value changed, kept value changed → value = changed ∨ uses value) :
    scanner.ReducedBy uses deep other := by
  intro text
  have related := follows text
  generalize scanner text = result, other text = otherResult at related ⊢
  cases related with
  | failed error result => exact .failed error _
  | nothing => exact .same _
  | lost rest isLost => exact .uses rest _ (losing _ isLost)
  | kept rest isKept =>
      rcases alike _ _ isKept with rfl | isUse
      · exact .same _
      · exact .uses rest _ isUse

/-- A second scanner that follows is gone on with in the same way. -/
theorem FollowedBy.bind_reducedBy {lost : α → Prop} {kept : α → α → Prop}
    {usesThen : β → Prop} {isDeep : String → Prop}
    {next nextOther : α → Scanner β}
    (first : scanner.FollowedBy lost kept other)
    (second :
      ∀ value changed, kept value changed →
        (next value).ReducedBy usesThen (fun _ => isDeep) (nextOther changed))
    (losing : ∀ value, lost value → (next value).Finds usesThen) :
    (scanner >>= next).ReducedBy usesThen (fun _ => isDeep)
      (other >>= nextOther) := by
  intro text
  rw [bind_apply, bind_apply]
  have related := first text
  generalize scanner text = result, other text = otherResult at related
  cases related with
  | failed error result => exact .failed error _
  | nothing => exact .same _
  | @lost value rest isLost => exact reduces_nothing (losing value isLost rest)
  | kept rest isKept => exact second _ _ isKept rest

/-- What both scanners begin with in common. -/
theorem ReducedBy.after {usesThen : β → Prop} {isDeep : String → Prop}
    {next nextOther : α → Scanner β} (scanner : Scanner α)
    (second : ∀ value,
      (next value).ReducedBy usesThen (fun _ => isDeep) (nextOther value)) :
    (scanner >>= next).ReducedBy usesThen (fun _ => isDeep)
      (scanner >>= nextOther) := by
  have same : scanner.FollowedBy (fun _ => False) Eq scanner :=
    followedBy_refl (fun _ => rfl) _
  refine same.bind_reducedBy ?_ fun _ never => never.elim
  rintro value _ rfl
  exact second value

/-- A condition may be dropped in the second scanner if all that the first one
finds is of the kind. -/
theorem ReducedBy.ensure {flag flagOther : Bool}
    (reduced : scanner.ReducedBy uses deep other)
    (gate : flagOther = flag ∨ flagOther = false ∧ scanner.Finds uses) :
    (Scanner.ensure flag >>= fun _ => scanner).ReducedBy uses deep
      (Scanner.ensure flagOther >>= fun _ => other) := by
  intro text
  cases flag with
  | false =>
      obtain rfl : flagOther = false := by
        rcases gate with same | ⟨same, -⟩ <;> exact same
      exact .same _
  | true =>
      rcases gate with rfl | ⟨rfl, finds⟩
      · exact reduced text
      · exact reduces_nothing (finds text)

theorem ReducedBy.withText (reduced : scanner.ReducedBy uses deep other) :
    (withText scanner).ReducedBy (fun found => uses found.1) deep
      (withText other) := by
  intro text
  rw [Scanner.withText, Scanner.withText]
  have related := reduced text
  generalize scanner text = result, other text = otherResult at related
  cases related with
  | failed error result => exact .failed error _
  | same result => exact .same _
  | uses rest result isUse => exact .uses rest _ isUse
  | deep isDeep => exact .deep isDeep

theorem ReducedBy.map {change : α → β} {usesThen : β → Prop}
    (reduced : scanner.ReducedBy uses deep other)
    (alike : ∀ value, uses value → usesThen (change value)) :
    (do return change (← scanner) : Scanner β).ReducedBy usesThen deep
      (do return change (← other)) := by
  intro text
  rw [bind_apply, bind_apply]
  have related := reduced text
  generalize scanner text = result, other text = otherResult at related
  cases related with
  | failed error result => exact .failed error _
  | same result => exact .same _
  | uses rest result isUse => exact .uses rest _ (alike _ isUse)
  | deep isDeep => exact .deep isDeep

/-- A text that is split by a first scanner is split in the same way by a second
one if nothing of the kind was found, or there is a deep place in it. -/
theorem ReducedBy.split (reduced : scanner.ReducedBy uses deep other)
    (goesOn : ∀ {text value rest},
      scanner text = .ok (some (value, rest)) → rest <:+ text)
    {text : List Char} {pieces : List (Piece α)}
    (splits : split scanner text = .ok pieces)
    (unused : ∀ value, .construct value ∈ pieces → ¬ uses value) :
    Scanner.split other text = .ok pieces ∨
      ∃ near, Scanner.split other text = .error ⟨.tooDeep, near⟩ ∧
        ∃ place, place <:+ text ∧ deep place near := by
  rw [Scanner.split] at splits ⊢
  generalize text.length = fuel at splits ⊢
  induction fuel generalizing text pieces with
  | zero => exact .inl splits
  | succ fuel induction =>
      cases text with
      | nil => exact .inl splits
      | cons character text =>
          have related := reduced (character :: text)
          rw [splitWithin]
          rcases splitWithin_cons_eq_ok splits with
            ⟨nothing, others, later, rfl⟩ |
              ⟨value, rest, others, scanned, later, rfl⟩
          · rw [nothing] at related
            generalize other (character :: text) = result at related ⊢
            cases related with
            | same =>
                rcases induction
                  (fun value member => unused value (mem_prepend.mpr member))
                  later with
                  again | ⟨near, failed, place, inside, isDeep⟩
                · exact .inl (congrArg (Except.map _) again)
                · exact .inr ⟨near, congrArg (Except.map _) failed, place,
                    inside.trans (List.suffix_cons _ _), isDeep⟩
            | deep isDeep => exact .inr ⟨_, rfl, _, List.suffix_refl _, isDeep⟩
          · rw [scanned] at related
            generalize other (character :: text) = result at related ⊢
            cases related with
            | same =>
                rcases induction
                  (fun value member =>
                    unused value (List.mem_cons_of_mem _ member)) later with
                  again | ⟨near, failed, place, inside, isDeep⟩
                · exact .inl (congrArg (Except.map _) again)
                · exact .inr ⟨near, congrArg (Except.map _) failed, place,
                    inside.trans (goesOn scanned), isDeep⟩
            | uses _ _ isUse =>
                exact absurd isUse (unused value List.mem_cons_self)

end

/-! ## Scanners that fail in one way only -/

/-- Whether a scanner can only fail because of too many levels. -/
def FailsByDepth {α : Type} (scanner : Scanner α) : Prop :=
  ∀ text error, scanner text = .error error → error.cause = .tooDeep

section

variable {α β : Type} {scanner : Scanner α}

theorem failsByDepth_of_never
    (never : ∀ text error, scanner text ≠ .error error) :
    scanner.FailsByDepth :=
  fun text error failed => absurd failed (never text error)

theorem FailsByDepth.bind {next : α → Scanner β} (first : scanner.FailsByDepth)
    (second : ∀ value, (next value).FailsByDepth) :
    (scanner >>= next).FailsByDepth := by
  intro text error failed
  rcases bind_eq_error_iff.mp failed with failed | ⟨value, rest, -, failed⟩
  · exact first text error failed
  · exact second value rest error failed

theorem failsByDepth_pure (value : α) : (pure value : Scanner α).FailsByDepth :=
  failsByDepth_of_never fun _ _ failed => by cases failed

theorem failsByDepth_ensure (condition : Bool) :
    (ensure condition).FailsByDepth :=
  failsByDepth_of_never fun _ _ failed => by cases condition <;> cases failed

theorem failsByDepth_exactly (expected : List Char) :
    (exactly expected).FailsByDepth :=
  failsByDepth_of_never fun _ _ failed => by cases failed

theorem failsByDepth_takes (expected : List Char) :
    (takes expected).FailsByDepth :=
  failsByDepth_of_never fun text _ failed => by
    rw [takes] at failed
    split at failed <;> cases failed

theorem failsByDepth_name : name.FailsByDepth :=
  failsByDepth_of_never fun text _ failed => by
    rw [name.eq_def] at failed
    split at failed
    · cases failed
    · split at failed <;> cases failed

theorem failsByDepth_quoted : quoted.FailsByDepth :=
  failsByDepth_of_never fun text _ failed => by
    rw [quoted.eq_def] at failed
    split at failed <;> cases failed

theorem failsByDepth_bare (stop : Char → Bool) : (bare stop).FailsByDepth :=
  FailsByDepth.bind (failsByDepth_of_never fun _ _ failed => by cases failed)
    fun _ => (failsByDepth_ensure _).bind fun _ => failsByDepth_pure _

theorem FailsByDepth.withText (fails : scanner.FailsByDepth) :
    (withText scanner).FailsByDepth :=
  fun text error failed => fails text error (withText_eq_error_iff.mp failed)

theorem FailsByDepth.manyAfter (fails : scanner.FailsByDepth) (lead : Char) :
    (manyAfter lead scanner).FailsByDepth := by
  have bounded (fuel : Nat) :
      (manyAfterWithin lead scanner fuel).FailsByDepth := by
    induction fuel with
    | zero => exact failsByDepth_of_never fun _ _ failed => by cases failed
    | succ fuel induction =>
        intro text error failed
        cases text with
        | nil => cases failed
        | cons character text =>
            rw [manyAfterWithin] at failed
            split at failed
            · exact fails.bind
                (fun _ => induction.bind fun _ => failsByDepth_pure _) text
                error failed
            · cases failed
  exact fun text => bounded text.length text

theorem FailsByDepth.of_split (fails : scanner.FailsByDepth) {text : List Char}
    {error : SyntaxError} (failed : split scanner text = .error error) :
    error.cause = .tooDeep := by
  rw [split] at failed
  generalize text.length = fuel at failed
  induction fuel generalizing text with
  | zero => cases failed
  | succ fuel induction =>
      cases text with
      | nil => cases failed
      | cons character text =>
          have inLater {rest : List Char}
              {change : List (Piece α) → List (Piece α)}
              (failed :
                (splitWithin scanner fuel rest).map change = .error error) :
              error.cause = .tooDeep := by
            cases later : splitWithin scanner fuel rest with
            | error other =>
                rw [later] at failed
                cases failed
                exact induction later
            | ok pieces =>
                rw [later] at failed
                cases failed
          rw [splitWithin] at failed
          split at failed
          next stopped =>
            cases failed
            exact fails _ _ stopped
          next => exact inLater failed
          next => exact inLater failed

end

end TemplateEngine.Markup.Scanner
