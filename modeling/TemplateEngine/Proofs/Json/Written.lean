import TemplateEngine.Json.Reader
import TemplateEngine.Proofs.Number.Whole

/-!
# JSON that is written is read back

The reader gives back every value that the writer writes, if its numbers are
integers and its strings stand for texts.
-/

namespace TemplateEngine.Json

/-! ## Strings -/

/-- A letter after a backslash is read as what it stands for. -/
theorem readUnits_escaped {letter character : Char}
    (escaped : escaped? letter = some character) (text : List Char) :
    readUnits ('\\' :: letter :: text) =
      (readUnits text).map fun (units, rest) =>
        (character.toNat :: units, rest) := by
  rw [readUnits, escaped]
  · rcases readUnits text with _ | ⟨units, rest⟩ <;> rfl
  · rintro first second third fourth rest rfl -
    cases escaped

/-- A character that is written is read back as its code point. -/
theorem readUnits_escapeCharacter (character : Char) (text : List Char) :
    readUnits (escapeCharacter character ++ text) =
      (readUnits text).map fun (units, rest) =>
        (character.toNat :: units, rest) := by
  have controls :
      ∀ code < 0x20,
        hexadecimalUnit? '0' '0' (Nat.digitChar (code / 16))
            (Nat.digitChar (code % 16)) =
          some code := by decide
  unfold escapeCharacter
  split
  next => exact readUnits_escaped rfl text
  next => exact readUnits_escaped rfl text
  next => exact readUnits_escaped rfl text
  next => exact readUnits_escaped rfl text
  next => exact readUnits_escaped rfl text
  next => exact readUnits_escaped rfl text
  next => exact readUnits_escaped rfl text
  next quote backslash _ _ _ _ _ =>
    split
    next control =>
      simp only [List.cons_append, List.nil_append]
      rw [readUnits, controls _ control]
      rcases readUnits text with _ | ⟨units, rest⟩ <;> rfl
    next printing =>
      have plain : ¬(character.toNat < 0x20 || character == '\\') = true := by
        simpa using ⟨Nat.le_of_not_lt printing, backslash⟩
      rw [List.singleton_append, readUnits, if_neg plain]
      · rcases readUnits text with _ | ⟨units, rest⟩ <;> rfl
      · exact quote
      · rintro _ _ _ _ _ rfl -
        exact backslash rfl
      · rintro _ _ rfl -
        exact backslash rfl

/-- Read as code points, a text is the numbers of its characters. -/
theorem readUnits_flatMap (text rest : List Char) :
    readUnits (text.flatMap escapeCharacter ++ '"' :: rest) =
      some (text.map Char.toNat, rest) := by
  induction text with
  | nil => rfl
  | cons character text induction =>
      rw [List.flatMap_cons, List.append_assoc, readUnits_escapeCharacter,
        induction]
      rfl

/-- No character is half of a surrogate pair. -/
theorem isSurrogate_toNat (character : Char) :
    isHighSurrogate character.toNat = false ∧
      isLowSurrogate character.toNat = false := by
  have valid :
      character.toNat < 0xD800 ∨
        0xDFFF < character.toNat ∧ character.toNat < 0x110000 :=
    character.valid
  simp only [isHighSurrogate, isLowSurrogate, Bool.and_eq_false_iff,
    decide_eq_false_iff_not]
  omega

theorem textOfUnits_map_toNat (text : List Char) :
    textOfUnits (text.map Char.toNat) = some text := by
  match text with
  | [] => rfl
  | [character] =>
      obtain ⟨high, low⟩ := isSurrogate_toNat character
      simp [textOfUnits, high, low]
  | character :: next :: text =>
      obtain ⟨high, low⟩ := isSurrogate_toNat character
      have later := textOfUnits_map_toNat (next :: text)
      rw [List.map_cons] at later
      simp [textOfUnits, high, low, later]

/-- A string that is written is read back. -/
theorem readString_flatMap (text : String) (rest : List Char) :
    readString (text.toList.flatMap escapeCharacter ++ '"' :: rest) =
      some (some text, rest) := by
  simp [readString, readUnits_flatMap, textOfUnits_map_toNat]

/-! ## Numbers -/

/-- Whether a number does not go on at the start of a text. -/
def EndsNumber (text : List Char) : Prop :=
  ∀ character, text.head? = some character →
    Text.isAsciiDigit character = false ∧ character ≠ '.' ∧ character ≠ 'e' ∧
      character ≠ 'E'

theorem readDigits_append {digits rest : List Char} (notEmpty : digits ≠ [])
    (allDigits : ∀ digit ∈ digits, Text.isAsciiDigit digit = true)
    (ends : EndsNumber rest) :
    readDigits (digits ++ rest) = some (digits, rest) := by
  have noMore : rest.takeWhile Text.isAsciiDigit = [] ∧
      rest.dropWhile Text.isAsciiDigit = rest := by
    cases rest with
    | nil => exact ⟨rfl, rfl⟩
    | cons character rest =>
        have noDigit := (ends character rfl).1
        simp [noDigit]
  rw [readDigits, List.takeWhile_append_of_pos allDigits,
    List.dropWhile_append_of_pos allDigits, noMore.1, noMore.2, List.append_nil]
  cases digits with
  | nil => exact absurd rfl notEmpty
  | cons digit digits => rfl

theorem readWhole_naturalText (number : Nat) {rest : List Char}
    (ends : EndsNumber rest) :
    readWhole (Number.naturalText number ++ rest) =
      some (Number.naturalText number, rest) := by
  by_cases zero : number = 0
  · subst zero
    cases rest with
    | nil => rfl
    | cons character rest =>
        have noDigit := (ends character rfl).1
        simp [Number.naturalText, readWhole, noDigit]
  · have head := Number.head?_naturalText zero
    have digits := readDigits_append (Nat.toDigits_ne_nil)
      (fun _ => Number.isAsciiDigit_of_mem_naturalText number) ends
    cases written : Number.naturalText number with
    | nil => exact absurd written Nat.toDigits_ne_nil
    | cons digit others =>
        rw [written] at head
        rw [Number.naturalText] at written
        rw [written] at digits
        rw [List.cons_append, readWhole]
        · exact digits
        · rintro _ same
          exact head (by rw [(List.cons.inj same).1]; rfl)

theorem readNumber_integerText (number : Int) {rest : List Char}
    (ends : EndsNumber rest) :
    readNumber (Number.integerText number ++ rest) =
      some (Number.integerText number, rest) := by
  have fraction : readFraction rest = some ([], rest) := by
    unfold readFraction
    split
    next => exact absurd rfl (ends '.' rfl).2.1
    next => rfl
  have exponent : readExponent rest = some ([], rest) := by
    cases rest with
    | nil => rfl
    | cons character rest =>
        obtain ⟨-, -, small, capital⟩ := ends character rfl
        simp [readExponent, small, capital]
  cases number with
  | ofNat number =>
      unfold readNumber Number.integerText
      dsimp only
      split
      next sign others same =>
        obtain ⟨digit, digits, written, isDigit⟩ :=
          Number.exists_naturalText_eq_cons number
        rw [written, List.cons_append] at same
        rw [(List.cons.inj same).1] at isDigit
        exact absurd isDigit (by decide)
      next => simp [readWhole_naturalText number ends, fraction, exponent]
  | negSucc number =>
      rw [Number.integerText, List.cons_append, readNumber]
      simp [readWhole_naturalText (number + 1) ends, fraction, exponent]

/-! ## Values -/

/-- Whether the numbers of a value are integers and all its strings stand for
texts. -/
inductive Plain : Json → Prop
  | null : Plain .null
  | bool (flag : Bool) : Plain (.bool flag)
  | int (number : Int) : Plain (.int number)
  | text (text : String) : Plain (.text text)
  | array {items : List Json} (plain : ∀ item ∈ items, Plain item) :
      Plain (.array items)
  | record {fields : List (String × Json)}
      (plain : ∀ field ∈ fields, Plain field.2) : Plain (.record fields)

/-- Whether a value is read back from the start of its text. -/
def Restored (json : Json) : Prop :=
  ∀ fuel rest, 2 * json.write.length < fuel → EndsNumber rest →
    readValue fuel (json.write ++ rest) = some (json, rest)

/-- Whether a character starts a part of a text: it is no blank and ends no
array. -/
def StartsValue (character : Char) : Prop :=
  (character == ' ' || character == '\n' || character == '\r' ||
        character == '\t') =
      false ∧
    character ≠ ']'

instance (character : Char) : Decidable (StartsValue character) :=
  inferInstanceAs (Decidable (_ ∧ _))

theorem startsValue_of_isAsciiDigit {digit : Char}
    (isDigit : Text.isAsciiDigit digit = true) : StartsValue digit := by
  have differs : ∀ character, Text.isAsciiDigit character = false →
      (digit == character) = false := by
    intro character noDigit
    refine beq_eq_false_iff_ne.mpr ?_
    rintro rfl
    rw [noDigit] at isDigit
    cases isDigit
  refine ⟨?_, beq_eq_false_iff_ne.mp (differs ']' (by decide))⟩
  simp only [differs ' ' (by decide), differs '\n' (by decide),
    differs '\r' (by decide), differs '\t' (by decide), Bool.or_self]

theorem skipBlanks_cons {character : Char} (starts : StartsValue character)
    (text : List Char) :
    skipBlanks (character :: text) = character :: text := by
  rw [skipBlanks, List.dropWhile_cons, starts.1]
  rfl

/-- A number that is written starts with a digit or a minus sign. -/
theorem exists_integerText_eq_cons (number : Int) :
    ∃ character text, Number.integerText number = character :: text ∧
      StartsValue character ∧
      character ∉ ['n', 't', 'f', '"', '[', '\x7b'] := by
  cases number with
  | ofNat number =>
      obtain ⟨digit, digits, written, isDigit⟩ :=
        Number.exists_naturalText_eq_cons number
      refine ⟨digit, digits, written, startsValue_of_isAsciiDigit isDigit,
        fun member => ?_⟩
      have noDigits : (['n', 't', 'f', '"', '[', '\x7b'].all fun letter =>
          !Text.isAsciiDigit letter) = true := by decide
      have noDigit := List.all_eq_true.mp noDigits digit member
      rw [isDigit] at noDigit
      cases noDigit
  | negSucc number => exact ⟨'-', _, rfl, by decide, by decide⟩

/-- A value that is written starts with no blank. -/
theorem Plain.exists_write_eq_cons {json : Json} (plain : Plain json) :
    ∃ character text,
      json.write = character :: text ∧ StartsValue character := by
  cases plain with
  | null => exact ⟨'n', _, rfl, by decide⟩
  | bool flag =>
      cases flag with
      | true => exact ⟨'t', _, rfl, by decide⟩
      | false => exact ⟨'f', _, rfl, by decide⟩
  | int number =>
      obtain ⟨character, text, written, starts, -⟩ :=
        exists_integerText_eq_cons number
      exact ⟨character, text, written, starts⟩
  | text text => exact ⟨'"', _, rfl, by decide⟩
  | @array items plain =>
      cases items with
      | nil => exact ⟨'[', _, rfl, by decide⟩
      | cons item items => exact ⟨'[', _, rfl, by decide⟩
  | @record fields plain =>
      cases fields with
      | nil => exact ⟨'\x7b', _, rfl, by decide⟩
      | cons field fields => exact ⟨'\x7b', _, rfl, by decide⟩

theorem restored_int (number : Int) : Restored (.int number) := by
  intro fuel rest enough ends
  obtain ⟨character, text, written, starts, other⟩ :=
    exists_integerText_eq_cons number
  have read := readNumber_integerText number ends
  simp only [List.mem_cons, List.not_mem_nil, or_false, not_or] at other
  cases fuel with
  | zero => exact absurd enough (Nat.not_lt_zero _)
  | succ fuel =>
      rw [Json.int, write]
      unfold readValue
      rw [written, List.cons_append] at read ⊢
      rw [skipBlanks_cons starts]
      split
      next same => exact absurd (List.cons.inj same).1 other.1
      next same => exact absurd (List.cons.inj same).1 other.2.1
      next same => exact absurd (List.cons.inj same).1 other.2.2.1
      next same => exact absurd (List.cons.inj same).1 other.2.2.2.1
      next same => exact absurd (List.cons.inj same).1 other.2.2.2.2.1
      next same => exact absurd (List.cons.inj same).1 other.2.2.2.2.2
      next => rw [read, Option.map_some]

theorem restored_word {json : Json}
    (word : json ∈ [.null, .bool true, .bool false]) : Restored json := by
  intro fuel rest enough ends
  cases fuel with
  | zero => exact absurd enough (Nat.not_lt_zero _)
  | succ fuel =>
      simp only [List.mem_cons, List.not_mem_nil, or_false] at word
      rcases word with rfl | rfl | rfl <;> rfl

theorem restored_text (text : String) : Restored (.text text) := by
  intro fuel rest enough ends
  cases fuel with
  | zero => exact absurd enough (Nat.not_lt_zero _)
  | succ fuel =>
      have read := readString_flatMap text rest
      simp only [Json.text, write, writeText, Option.getD_some,
        List.cons_append, List.append_assoc, List.nil_append, readValue]
      rw [skipBlanks_cons (by decide)]
      simp only [read, Option.map_some]

theorem endsNumber_cons {character : Char} (text : List Char)
    (ends : Text.isAsciiDigit character = false ∧ character ≠ '.' ∧
      character ≠ 'e' ∧ character ≠ 'E') :
    EndsNumber (character :: text) := by
  intro _ same
  cases same
  exact ends

/-- The items of an array are read back. -/
theorem readItems_writeItems {item : Json} {items : List Json}
    (restored : Restored item) (allRestored : ∀ other ∈ items, Restored other)
    {fuel : Nat} {rest : List Char}
    (enough : 2 * (item.write ++ writeItems items).length < fuel) :
    readItems fuel (item.write ++ (writeItems items ++ rest)) =
      some (item :: items, rest) := by
  induction items generalizing fuel item with
  | nil =>
      cases fuel with
      | zero => exact absurd enough (Nat.not_lt_zero _)
      | succ fuel =>
          simp only [writeItems, List.length_append, List.length_cons,
            List.length_nil] at enough
          have first :=
            restored fuel (']' :: rest) (by omega)
              (endsNumber_cons _ (by decide))
          rw [readItems, writeItems, List.singleton_append, first]
          rfl
  | cons next items induction =>
      cases fuel with
      | zero => exact absurd enough (Nat.not_lt_zero _)
      | succ fuel =>
          simp only [writeItems, List.length_append, List.length_cons] at enough
          have first :=
            restored fuel (',' :: (next.write ++ (writeItems items ++ rest)))
              (by omega) (endsNumber_cons _ (by decide))
          have bound : 2 * (next.write ++ writeItems items).length < fuel := by
            rw [List.length_append]
            omega
          have others :=
            induction (allRestored next List.mem_cons_self)
              (fun other member =>
                allRestored other (List.mem_cons_of_mem _ member)) bound
          rw [readItems, writeItems, List.cons_append, List.cons_append,
            List.append_assoc, first]
          dsimp only
          rw [skipBlanks_cons (by decide)]
          simp only [others, Option.map_some]

/-- The last member of an object is read back. -/
theorem readMembers_last (name : String) {value : Json} {fuel : Nat}
    {rest : List Char}
    (first : readValue fuel (value.write ++ '\x7d' :: rest) =
      some (value, '\x7d' :: rest)) :
    readMembers (fuel + 1)
        (writeText name.toList ++ ':' :: (value.write ++ '\x7d' :: rest)) =
      some ([(some name, value)], rest) := by
  have opening := skipBlanks_cons (show StartsValue '"' by decide)
  have between := skipBlanks_cons (show StartsValue ':' by decide)
  have closing := skipBlanks_cons (show StartsValue '\x7d' by decide)
  simp only [writeText, List.cons_append, List.append_assoc, List.nil_append,
    readMembers, opening, readString_flatMap, between, first, closing]

/-- A member of an object is read back with those behind it. -/
theorem readMembers_next (name : String) {value : Json} {fuel : Nat}
    {text rest : List Char} {members : List (Option String × Json)}
    (first :
      readValue fuel (value.write ++ ',' :: text) = some (value, ',' :: text))
    (others : readMembers fuel text = some (members, rest)) :
    readMembers (fuel + 1)
        (writeText name.toList ++ ':' :: (value.write ++ ',' :: text)) =
      some ((some name, value) :: members, rest) := by
  have opening := skipBlanks_cons (show StartsValue '"' by decide)
  have between := skipBlanks_cons (show StartsValue ':' by decide)
  have further := skipBlanks_cons (show StartsValue ',' by decide)
  simp only [writeText, List.cons_append, List.append_assoc, List.nil_append,
    readMembers, opening, readString_flatMap, between, first, further, others,
    Option.map_some]

/-- The members of an object are read back. -/
theorem readMembers_writeMembers (name : String) {value : Json}
    {members : List (Option String × Json)} (restored : Restored value)
    (allRestored : ∀ member ∈ members, member.1.isSome ∧ Restored member.2)
    {fuel : Nat} {rest : List Char}
    (enough : 2 * (value.write ++ writeMembers members).length < fuel) :
    readMembers fuel (writeText name.toList ++ ':' ::
        (value.write ++ (writeMembers members ++ rest))) =
      some ((some name, value) :: members, rest) := by
  induction members generalizing fuel name value with
  | nil =>
      cases fuel with
      | zero => exact absurd enough (Nat.not_lt_zero _)
      | succ fuel =>
          simp only [writeMembers, List.length_append, List.length_cons,
            List.length_nil] at enough
          have first :=
            restored fuel ('\x7d' :: rest) (by omega)
              (endsNumber_cons _ (by decide))
          rw [writeMembers, List.singleton_append]
          exact readMembers_last name first
  | cons member members induction =>
      obtain ⟨nextName, next⟩ := member
      obtain ⟨isSome, nextRestored⟩ := allRestored _ List.mem_cons_self
      obtain ⟨nextName, rfl⟩ := Option.isSome_iff_exists.mp isSome
      cases fuel with
      | zero => exact absurd enough (Nat.not_lt_zero _)
      | succ fuel =>
          simp only [writeMembers, List.length_append, List.length_cons]
            at enough
          have bound :
              2 * (next.write ++ writeMembers members).length < fuel := by
            rw [List.length_append]
            omega
          have others :=
            induction nextName nextRestored
              (fun other member =>
                allRestored other (List.mem_cons_of_mem _ member)) bound
          have first := restored fuel
            (',' :: (writeText nextName.toList ++ ':' :: (next.write ++
              (writeMembers members ++ rest))))
            (by omega) (endsNumber_cons _ (by decide))
          simp only [writeMembers, Option.getD_some, List.cons_append,
            List.append_assoc]
          exact readMembers_next name first others

theorem restored_array {items : List Json} (plain : ∀ item ∈ items, Plain item)
    (restored : ∀ item ∈ items, Restored item) : Restored (.array items) := by
  intro fuel rest enough ends
  cases fuel with
  | zero => exact absurd enough (Nat.not_lt_zero _)
  | succ fuel =>
      cases items with
      | nil => rfl
      | cons item items =>
          obtain ⟨character, text, written, starts⟩ :=
            (plain item List.mem_cons_self).exists_write_eq_cons
          simp only [write, List.length_append, List.length_cons] at enough
          have bound : 2 * (item.write ++ writeItems items).length < fuel := by
            rw [List.length_append]
            omega
          have read :
              readItems fuel (item.write ++ (writeItems items ++ rest)) =
                some (item :: items, rest) :=
            readItems_writeItems (restored item List.mem_cons_self)
              (fun other member =>
                restored other (List.mem_cons_of_mem _ member)) bound
          simp only [write, List.cons_append, List.append_assoc]
          unfold readValue
          rw [skipBlanks_cons (by decide)]
          simp only [written, List.cons_append] at read ⊢
          rw [skipBlanks_cons starts]
          simp only [read]
          split
          next same => exact absurd (List.cons.inj same).1 starts.2
          next => rfl

theorem record_cons (name : String) (value : Json)
    (fields : List (String × Json)) :
    record ((name, value) :: fields) =
      .object ((some name, value) ::
        fields.map fun field => (some field.1, field.2)) :=
  rfl

theorem restored_record {fields : List (String × Json)}
    (restored : ∀ field ∈ fields, Restored field.2) :
    Restored (.record fields) := by
  intro fuel rest enough ends
  cases fuel with
  | zero => exact absurd enough (Nat.not_lt_zero _)
  | succ fuel =>
      cases fields with
      | nil => rfl
      | cons field fields =>
          obtain ⟨name, value⟩ := field
          have allRestored :
              ∀ member ∈ fields.map fun field => (some field.1, field.2),
                member.1.isSome ∧ Restored member.2 := by
            intro member mapped
            obtain ⟨field, inside, rfl⟩ := List.mem_map.mp mapped
            exact ⟨rfl, restored field (List.mem_cons_of_mem _ inside)⟩
          rw [record_cons] at enough ⊢
          generalize fields.map (fun field => (some field.1, field.2)) = members
            at allRestored enough ⊢
          simp only [write, Option.getD_some, List.length_append,
            List.length_cons] at enough
          have bound :
              2 * (value.write ++ writeMembers members).length < fuel := by
            rw [List.length_append]
            omega
          have read :
              readMembers fuel (writeText name.toList ++ ':' ::
                  (value.write ++ (writeMembers members ++ rest))) =
                some ((some name, value) :: members, rest) :=
            readMembers_writeMembers name (restored _ List.mem_cons_self)
              allRestored bound
          simp only [write, List.cons_append, List.append_assoc,
            Option.getD_some]
          unfold readValue
          rw [skipBlanks_cons (by decide)]
          simp only [writeText, List.cons_append, List.append_assoc] at read ⊢
          rw [skipBlanks_cons (by decide)]
          simp only [read]
          rfl

theorem Plain.restored {json : Json} (plain : Plain json) : Restored json := by
  induction plain with
  | null => exact restored_word (by simp)
  | bool flag => exact restored_word (by cases flag <;> simp)
  | int number => exact restored_int number
  | text text => exact restored_text text
  | array plain restored => exact restored_array plain restored
  | record plain restored => exact restored_record restored

theorem plain_texts (texts : List String) : Plain (.texts texts) :=
  .array (List.forall_mem_map.mpr fun text _ => .text text)

theorem Plain.tagged {data : Json} (plain : Plain data) (name : String) :
    Plain (.tagged name data) :=
  .record (List.forall_mem_singleton.mpr plain)

theorem Plain.tagged_record {fields : List (String × Json)}
    (plain : ∀ field ∈ fields, Plain field.2) (name : String) :
    Plain (.tagged name (.record fields)) :=
  (Plain.record plain).tagged name

/-- A value that is written is read back. -/
theorem Plain.read?_write {json : Json} (plain : Plain json) :
    read? json.write = some json := by
  have read :=
    plain.restored (2 * json.write.length + 1) [] (Nat.lt_succ_self _)
      (by rintro _ ⟨⟩)
  rw [List.append_nil] at read
  rw [read?, read]
  rfl

end TemplateEngine.Json
