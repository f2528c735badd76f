import TemplateEngine.Bundle.Basic
import TemplateEngine.Proofs.Text.Lowered

/-!
# Function names of a bundle

The name of a template becomes words of small letters, digits and underscores,
which are an identifier and become themselves when they are taken for the name
of a template.  A bundle is refused just if two of its functions would have the
same name, and then for the first template that repeats one.
-/

namespace TemplateEngine.Bundle

open Text (isSmallAlphanumeric isAsciiDigit)

/-- Whether a name has characters of ASCII only. -/
def IsAscii (name : String) : Prop :=
  ∀ character ∈ name.toList, character.toNat < 0x80

instance (name : String) : Decidable (IsAscii name) :=
  decidable_of_iff
    ((name.toList.all fun character => character.toNat < 0x80) = true)
    (by simp [IsAscii])

/-- Whether a name starts with a small letter or an underscore and goes on with
small letters, digits and underscores. -/
def IsFunctionName (name : String) : Prop :=
  ∃ first others, name.toList = first :: others ∧
    (('a' ≤ first ∧ first ≤ 'z') ∨ first = '_') ∧
    ∀ character ∈ others, ('a' ≤ character ∧ character ≤ 'z') ∨
      ('0' ≤ character ∧ character ≤ '9') ∨ character = '_'

/-! ## Words -/

/-- The characters of words: small letters, digits and underscores. -/
def isSnake (character : Char) : Bool :=
  isSmallAlphanumeric character || character == '_'

theorem isSnake_iff {character : Char} :
    isSnake character = true ↔ ('a' ≤ character ∧ character ≤ 'z') ∨
      ('0' ≤ character ∧ character ≤ '9') ∨ character = '_' := by
  simp [isSnake, isSmallAlphanumeric, isAsciiDigit, or_assoc]

/-- What a capital of ASCII becomes in lower case belongs to words. -/
theorem isSnake_of_mem_lower {character lowered : Char}
    (ascii : character.toNat < 0x80)
    (isUpper : Text.isUppercase character = true)
    (member : lowered ∈ Text.lower character) : isSnake lowered = true := by
  have all : ∀ code < 0x80, Text.isUppercase (Char.ofNat code) = true →
      (Text.lower (Char.ofNat code)).all isSnake = true := by decide
  obtain ⟨code, below, rfl⟩ := Text.exists_ascii ascii
  exact List.all_eq_true.mp (all code below isUpper) lowered member

/-- Among the characters of ASCII that are no capitals, words take the letters,
digits and underscores. -/
theorem isSnake_eq {character : Char} (ascii : character.toNat < 0x80)
    (noUpper : Text.isUppercase character = false) :
    (Text.isAlphanumeric character || character == '_') =
      isSnake character := by
  have all : ∀ code < 0x80, Text.isUppercase (Char.ofNat code) = false →
      (Text.isAlphanumeric (Char.ofNat code) || Char.ofNat code == '_') =
        isSnake (Char.ofNat code) := by decide
  obtain ⟨code, below, rfl⟩ := Text.exists_ascii ascii
  exact all code below noUpper

theorem toNat_lt_of_isSnake {character : Char}
    (snake : isSnake character = true) : character.toNat < 0x80 := by
  rw [isSnake, Bool.or_eq_true, beq_iff_eq] at snake
  rcases snake with small | rfl
  · exact Text.toNat_lt_of_isAsciiAlphanumeric
      (Text.isAsciiAlphanumeric_of_isSmall small)
  · decide

theorem isUppercase_of_isSnake {character : Char}
    (snake : isSnake character = true) :
    Text.isUppercase character = false := by
  have all : ∀ code < 0x80, isSnake (Char.ofNat code) = true →
      Text.isUppercase (Char.ofNat code) = false := by decide
  obtain ⟨code, below, rfl⟩ := Text.exists_ascii (toNat_lt_of_isSnake snake)
  exact all code below snake

/-- The words of a name of ASCII have no other characters. -/
theorem isSnake_of_mem_snakeFrom {name : List Char} {previous character : Char}
    {underscored : Bool} (ascii : ∀ character ∈ name, character.toNat < 0x80)
    (member : character ∈ snakeFrom previous underscored name) :
    isSnake character = true := by
  induction name generalizing previous underscored with
  | nil => cases member
  | cons first name induction =>
      obtain ⟨firstAscii, restAscii⟩ := List.forall_mem_cons.mp ascii
      rw [snakeFrom] at member
      split at member
      next isUpper =>
        rcases List.mem_append.mp member with atFirst | later
        · rcases List.mem_append.mp atFirst with separator | lowered
          · split at separator
            · rw [List.mem_singleton.mp separator]
              decide
            · cases separator
          · exact isSnake_of_mem_lower firstAscii isUpper lowered
        · exact induction restAscii later
      next noUpper =>
        split at member
        next isPart =>
          rcases List.mem_cons.mp member with rfl | later
          · rwa [← isSnake_eq firstAscii (Bool.eq_false_iff.mpr noUpper)]
          · exact induction restAscii later
        next =>
          split at member
          · exact induction restAscii member
          · rcases List.mem_cons.mp member with rfl | later
            · decide
            · exact induction restAscii later

/-- Words are their own words. -/
theorem snakeFrom_of_isSnake {name : List Char} (previous : Char)
    (underscored : Bool)
    (snake : ∀ character ∈ name, isSnake character = true) :
    snakeFrom previous underscored name = name := by
  induction name generalizing previous underscored with
  | nil => rfl
  | cons first name induction =>
      obtain ⟨firstSnake, restSnake⟩ := List.forall_mem_cons.mp snake
      have noUpper := isUppercase_of_isSnake firstSnake
      have isPart :=
        (isSnake_eq (toNat_lt_of_isSnake firstSnake) noUpper).trans firstSnake
      rw [snakeFrom, noUpper, if_neg Bool.false_ne_true, if_pos isPart,
        induction _ _ restSnake]

/-! ## Underscores at the ends -/

/-- Whether a text neither starts nor ends with an underscore. -/
structure IsTrimmed (name : List Char) : Prop where
  start : name.head? ≠ some '_'
  finish : name.getLast? ≠ some '_'

theorem dropWhile_of_head? {name : List Char} (start : name.head? ≠ some '_') :
    name.dropWhile (· == '_') = name := by
  cases name with
  | nil => rfl
  | cons first name =>
      have other : first ≠ '_' := by simpa using start
      rw [List.dropWhile_cons_of_neg (by simp [other])]

theorem head?_dropWhile (name : List Char) :
    (name.dropWhile (· == '_')).head? ≠ some '_' := by
  intro starts
  have other := List.head?_dropWhile_not (· == '_') name
  simp [starts] at other

theorem trimUnderscores_of_isTrimmed {name : List Char}
    (isTrimmed : IsTrimmed name) : trimUnderscores name = name := by
  have finish : name.reverse.head? ≠ some '_' := by
    rw [List.head?_reverse]
    exact isTrimmed.finish
  rw [trimUnderscores, dropWhile_of_head? isTrimmed.start,
    dropWhile_of_head? finish, List.reverse_reverse]

theorem trimUnderscores_cons (name : List Char) :
    trimUnderscores ('_' :: name) = trimUnderscores name := rfl

theorem isTrimmed_trimUnderscores (name : List Char) :
    IsTrimmed (trimUnderscores name) where
  start starts := by
    have inside : trimUnderscores name <+: name.dropWhile (· == '_') := by
      rw [trimUnderscores, ← List.reverse_suffix, List.reverse_reverse]
      exact List.dropWhile_suffix _
    obtain ⟨others, words⟩ := List.head?_eq_some_iff.mp starts
    obtain ⟨rest, whole⟩ := inside
    refine head?_dropWhile name ?_
    rw [← whole, words]
    rfl
  finish finishes := by
    rw [trimUnderscores, List.getLast?_reverse] at finishes
    exact head?_dropWhile _ finishes

theorem trimUnderscores_subset (name : List Char) :
    trimUnderscores name ⊆ name := by
  intro character member
  rw [trimUnderscores, List.mem_reverse] at member
  exact List.dropWhile_subset _
    (List.mem_reverse.mp (List.dropWhile_subset _ member))

/-! ## Names of functions -/

/-- Words as the name of a function. -/
def ofWords (words : List Char) : List Char :=
  if words.head?.any isAsciiDigit then '_' :: words else words

theorem snakeCase_eq (name : List Char) :
    snakeCase name = ofWords (trimUnderscores (snakeFrom '_' false name)) := by
  rw [snakeCase, ofWords]
  cases trimUnderscores (snakeFrom '_' false name) with
  | nil => rfl
  | cons first words => rfl

/-- What words are made of. -/
structure IsWords (words : List Char) : Prop extends IsTrimmed words where
  snake : ∀ character ∈ words, isSnake character = true

theorem IsWords.isSnake_of_mem_ofWords {words : List Char}
    (isWords : IsWords words) :
    ∀ character ∈ ofWords words, isSnake character = true := by
  rw [ofWords]
  split
  · exact List.forall_mem_cons.mpr ⟨by decide, isWords.snake⟩
  · exact isWords.snake

theorem IsWords.snakeCase_ofWords {words : List Char}
    (isWords : IsWords words) : snakeCase (ofWords words) = ofWords words := by
  have trimmed : trimUnderscores (ofWords words) = words := by
    rw [ofWords]
    split
    · rw [trimUnderscores_cons,
        trimUnderscores_of_isTrimmed isWords.toIsTrimmed]
    · exact trimUnderscores_of_isTrimmed isWords.toIsTrimmed
  rw [snakeCase_eq, snakeFrom_of_isSnake _ _ isWords.isSnake_of_mem_ofWords,
    trimmed]

theorem withoutExtension_subset (name : List Char) :
    withoutExtension name ⊆ name := by
  rw [withoutExtension]
  split
  next base dotted =>
    split
    · exact List.Subset.refl name
    · intro character member
      have later : character ∈ '.' :: base :=
        List.mem_cons_of_mem _ (List.mem_reverse.mp member)
      rw [← dotted] at later
      exact List.mem_reverse.mp (List.drop_subset _ _ later)
  next => exact List.Subset.refl name

theorem withoutExtension_of_not_mem {name : List Char} (noDot : '.' ∉ name) :
    withoutExtension name = name := by
  rw [withoutExtension]
  split
  next base dotted =>
    have dot : '.' ∈ '.' :: base := List.mem_cons_self
    rw [← dotted] at dot
    exact absurd (List.mem_reverse.mp (List.drop_subset _ _ dot)) noDot
  next => rfl

/-- The name of a function is made of words. -/
theorem exists_isWords {name : String} (isAscii : IsAscii name) :
    ∃ words,
      IsWords words ∧ functionName name = String.ofList (ofWords words) := by
  refine ⟨_, ⟨isTrimmed_trimUnderscores _, ?_⟩,
    by rw [functionName, snakeCase_eq]⟩
  intro character member
  exact isSnake_of_mem_snakeFrom
    (fun character member =>
      isAscii character (withoutExtension_subset _ member))
    (trimUnderscores_subset _ member)

theorem functionName_functionName {name : String} (isAscii : IsAscii name) :
    functionName (functionName name) = functionName name := by
  obtain ⟨words, isWords, same⟩ := exists_isWords isAscii
  have noDot : '.' ∉ ofWords words := fun member => by
    cases isWords.isSnake_of_mem_ofWords '.' member
  rw [same, functionName, String.toList_ofList,
    withoutExtension_of_not_mem noDot, isWords.snakeCase_ofWords]

theorem isFunctionName_functionName {name : String} (isAscii : IsAscii name)
    (filled : functionName name ≠ "") : IsFunctionName (functionName name) := by
  obtain ⟨words, isWords, same⟩ := exists_isWords isAscii
  rw [same] at filled ⊢
  rw [IsFunctionName, String.toList_ofList]
  cases words with
  | nil => exact absurd rfl filled
  | cons first others =>
      have shapes :=
        fun character member => isSnake_iff.mp (isWords.snake character member)
      rw [ofWords]
      split
      next => exact ⟨'_', first :: others, rfl, .inr rfl, shapes⟩
      next noDigit =>
        refine ⟨first, others, rfl, ?_, fun character member =>
          shapes character (List.mem_cons_of_mem first member)⟩
        have notDigit : ¬('0' ≤ first ∧ first ≤ '9') := by
          simpa [isAsciiDigit] using noDigit
        have notUnderscore : first ≠ '_' := by simpa using isWords.start
        rcases shapes first List.mem_cons_self with small | digit | underscore
        · exact .inl small
        · exact absurd digit notDigit
        · exact absurd underscore notUnderscore

theorem startsIdentifier_of_isSnake {character : Char}
    (snake : isSnake character = true)
    (start : ('a' ≤ character ∧ character ≤ 'z') ∨ character = '_') :
    startsIdentifier character = true := by
  have all :
      ∀ code < 0x80,
        ('a' ≤ Char.ofNat code ∧ Char.ofNat code ≤ 'z') ∨
            Char.ofNat code = '_' →
          startsIdentifier (Char.ofNat code) = true := by decide
  obtain ⟨code, below, rfl⟩ := Text.exists_ascii (toNat_lt_of_isSnake snake)
  exact all code below start

theorem continuesIdentifier_of_isSnake {character : Char}
    (snake : isSnake character = true) :
    continuesIdentifier character = true := by
  have all : ∀ code < 0x80, isSnake (Char.ofNat code) = true →
      continuesIdentifier (Char.ofNat code) = true := by decide
  obtain ⟨code, below, rfl⟩ := Text.exists_ascii (toNat_lt_of_isSnake snake)
  exact all code below snake

theorem IsFunctionName.isIdentifier {name : String}
    (isFunctionName : IsFunctionName name) : isIdentifier name = true := by
  obtain ⟨first, others, spelled, start, rest⟩ := isFunctionName
  have firstSnake : isSnake first = true :=
    isSnake_iff.mpr (start.imp_right .inr)
  rw [Bundle.isIdentifier, spelled]
  simp only [startsIdentifier_of_isSnake firstSnake start, Bool.true_and,
    List.all_eq_true]
  intro character member
  exact continuesIdentifier_of_isSnake (isSnake_iff.mpr (rest character member))

/-! ## Repeated names -/

/-- Whether a name is the first whose function has the name of one before it,
and which one. -/
def FirstRepeat (names : List String) (earlier name : String) : Prop :=
  ∃ before after, names = before ++ name :: after ∧
    (before.map functionName).Nodup ∧ earlier ∈ before ∧
    functionName earlier = functionName name

theorem not_nodup_of_mem {before : List String} {earlier name : String}
    (after : List String) (member : earlier ∈ before)
    (same : functionName earlier = functionName name) :
    ¬((before ++ name :: after).map functionName).Nodup := by
  rw [List.map_append, List.map_cons, List.nodup_append]
  rintro ⟨-, -, apart⟩
  exact apart _ (List.mem_map_of_mem member) _ List.mem_cons_self same

/-- What a table holds of names without repetition: each under the name of its
function. -/
structure Seen (names : List String) (seen : Table String) : Prop where
  apart : (names.map functionName).Nodup
  holds : ∀ function earlier, Table.get? seen function = some earlier ↔
    earlier ∈ names ∧ functionName earlier = function

theorem seen_nil : Seen [] [] where
  apart := List.nodup_nil
  holds function earlier := by simp [Table.get?]

namespace Seen

variable {before : List String} {seen : Table String} {name : String}

theorem get?_eq_none_iff (known : Seen before seen) :
    Table.get? seen (functionName name) = none ↔
      ∀ earlier ∈ before, functionName earlier ≠ functionName name := by
  rw [Option.eq_none_iff_forall_ne_some]
  exact forall_congr' fun earlier =>
    (not_congr (known.holds _ earlier)).trans not_and

theorem insert (known : Seen before seen)
    (new : Table.get? seen (functionName name) = none) :
    Seen (before ++ [name]) (Table.insert seen (functionName name) name) where
  apart := by
    have other := known.get?_eq_none_iff.mp new
    rw [List.map_append, List.nodup_append]
    refine ⟨known.apart, List.nodup_cons.mpr ⟨List.not_mem_nil, List.nodup_nil⟩,
      ?_⟩
    simpa using other
  holds function earlier := by
    have other := known.get?_eq_none_iff.mp new
    rw [List.mem_append, List.mem_singleton]
    by_cases same : function = functionName name
    · rw [same, Table.get?_insert_same, Option.some_inj]
      constructor
      · rintro rfl
        exact ⟨.inr rfl, rfl⟩
      · rintro ⟨member | rfl, repeated⟩
        · exact absurd repeated (other earlier member)
        · rfl
    · rw [Table.get?_insert_other _ _ same, known.holds]
      constructor
      · exact fun ⟨member, named⟩ => ⟨.inl member, named⟩
      · rintro ⟨member | rfl, named⟩
        · exact ⟨member, named⟩
        · exact absurd named.symm same

theorem collisionAfter_eq_none_iff (known : Seen before seen)
    (names : List String) :
    collisionAfter seen names = none ↔
      ((before ++ names).map functionName).Nodup := by
  induction names generalizing before seen with
  | nil => simpa [collisionAfter] using known.apart
  | cons first names induction =>
      rw [collisionAfter]
      cases found : Table.get? seen (functionName first) with
      | some earlier =>
          obtain ⟨member, same⟩ := (known.holds _ _).mp found
          simpa using not_nodup_of_mem names member same
      | none =>
          have later := induction (known.insert found)
          rwa [List.append_assoc] at later

theorem collisionAfter_eq_some_iff (known : Seen before seen)
    (names : List String) (earlier : String) :
    collisionAfter seen names = some (earlier, name) ↔
      ∃ more after, names = more ++ name :: after ∧
        ((before ++ more).map functionName).Nodup ∧ earlier ∈ before ++ more ∧
        functionName earlier = functionName name := by
  induction names generalizing before seen with
  | nil => simp [collisionAfter]
  | cons first names induction =>
      rw [collisionAfter]
      cases found : Table.get? seen (functionName first) with
      | some repeated =>
          obtain ⟨member, same⟩ := (known.holds _ _).mp found
          constructor
          · intro result
            cases result
            exact ⟨[], names, rfl, by simpa using known.apart,
              by simpa using member, same⟩
          · rintro ⟨more, after, split, apart, here, named⟩
            cases more with
            | nil =>
                obtain ⟨rfl, rfl⟩ := List.cons_eq_cons.mp split
                rw [List.append_nil] at here
                have held := (known.holds _ _).mpr ⟨here, named⟩
                rw [found] at held
                cases held
                rfl
            | cons next more =>
                obtain ⟨rfl, -⟩ := List.cons_eq_cons.mp split
                exact absurd apart (not_nodup_of_mem more member same)
      | none =>
          simp only [induction (known.insert found), List.append_assoc,
            List.singleton_append]
          constructor
          · rintro ⟨more, after, rfl, rest⟩
            exact ⟨first :: more, after, rfl, rest⟩
          · rintro ⟨more, after, split, apart, here, named⟩
            cases more with
            | nil =>
                obtain ⟨rfl, rfl⟩ := List.cons_eq_cons.mp split
                rw [List.append_nil] at here
                exact absurd named
                  (known.get?_eq_none_iff.mp found earlier here)
            | cons next more =>
                obtain ⟨rfl, rfl⟩ := List.cons_eq_cons.mp split
                exact ⟨more, after, rfl, apart, here, named⟩

end Seen

theorem checkNames_eq_ok_iff (names : List String) :
    checkNames names = .ok () ↔ (names.map functionName).Nodup := by
  have accepted := seen_nil.collisionAfter_eq_none_iff names
  rw [List.nil_append] at accepted
  rw [← accepted, checkNames, collision?]
  cases collisionAfter [] names <;> simp

theorem checkNames_eq_error_iff (names : List String) (failure : Failure) :
    checkNames names = .error failure ↔
      ∃ earlier name,
        FirstRepeat names earlier name ∧ failure = .collision earlier name := by
  have collides (earlier name : String) :
      collisionAfter [] names = some (earlier, name) ↔
        FirstRepeat names earlier name :=
    seen_nil.collisionAfter_eq_some_iff names earlier
  simp only [← collides, checkNames, collision?]
  cases collisionAfter [] names with
  | none => simp
  | some found =>
      constructor
      · intro refused
        exact ⟨found.1, found.2, rfl, (Except.error.inj refused).symm⟩
      · rintro ⟨earlier, name, repeated, rfl⟩
        rw [Option.some.inj repeated]

/-- The functions of templates with names of ASCII have identifiers of small
letters, digits and underscores, which are their own, and templates are refused
just if two functions would have the same name: then for the first that repeats
one, and the one whose name it repeats. -/
theorem names_functions (names : List String) :
    (∀ name ∈ names, IsAscii name → functionName name ≠ "" →
        IsFunctionName (functionName name) ∧
          isIdentifier (functionName name) = true ∧
          functionName (functionName name) = functionName name) ∧
      (checkNames names = .ok () ↔ (names.map functionName).Nodup) ∧
      ∀ failure, checkNames names = .error failure ↔
        ∃ earlier name, FirstRepeat names earlier name ∧
          failure = .collision earlier name := by
  refine ⟨fun name _ isAscii filled => ?_, checkNames_eq_ok_iff names,
    checkNames_eq_error_iff names⟩
  have isFunctionName := isFunctionName_functionName isAscii filled
  exact ⟨isFunctionName, isFunctionName.isIdentifier,
    functionName_functionName isAscii⟩

/-- A number, capitals and a dash, and a third template that repeats the
function of the second. -/
theorem names_functions_repeated :
    (IsAscii "404.html" ∧ functionName "404.html" = "_404" ∧
        functionName "_404" = "_404") ∧
      checkNames ["404.html", "HomePage.tpl", "home-page.html"] =
        .error (.collision "HomePage.tpl" "home-page.html") := by
  have isAscii : IsAscii "404.html" := by decide
  have number : functionName "404.html" = "_404" := by decide
  obtain ⟨each, -, refused⟩ :=
    names_functions ["404.html", "HomePage.tpl", "home-page.html"]
  obtain ⟨-, -, again⟩ :=
    each "404.html" List.mem_cons_self isAscii (by rw [number]; decide)
  rw [number] at again
  refine ⟨⟨isAscii, number, again⟩,
    (refused _).mpr ⟨"HomePage.tpl", "home-page.html", ?_, rfl⟩⟩
  exact ⟨["404.html", "HomePage.tpl"], [], rfl, by decide, by simp, by decide⟩

end TemplateEngine.Bundle
