import TemplateEngine.Block.Basic
import TemplateEngine.Filter.Markup
import TemplateEngine.Proofs.Number.Whole

/-!
# Values with protected texts

A value whose texts are protected keeps its shape, and prints no character that
opens or ends a tag or an attribute: not as a whole, and neither does anything
that is selected from it or that an iteration over it comes by.  The names in
its maps are not protected.
-/

namespace TemplateEngine

/-! ## Protected texts -/

/-- Whether a text has no character that opens or ends a tag or an attribute. -/
def IsProtected (text : List Char) : Prop :=
  ∀ character ∈ text, character ∉ ['<', '>', '"']

instance (text : List Char) : Decidable (IsProtected text) :=
  decidable_of_iff
    ((text.all fun character =>
        character != '<' && character != '>' && character != '"') =
      true) (by simp [IsProtected, and_assoc])

namespace IsProtected

theorem append {before after : List Char} (first : IsProtected before)
    (second : IsProtected after) : IsProtected (before ++ after) := by
  intro character member
  rcases List.mem_append.mp member with inside | inside
  · exact first character inside
  · exact second character inside

theorem of_subset {text more : List Char} (isProtected : IsProtected more)
    (subset : text ⊆ more) : IsProtected text :=
  fun character member => isProtected character (subset member)

theorem of_digits {text : List Char}
    (digits : ∀ character ∈ text, Text.isAsciiDigit character = true) :
    IsProtected text := by
  intro character member special
  have digit := digits character member
  simp only [List.mem_cons, List.not_mem_nil, or_false] at special
  rcases special with rfl | rfl | rfl <;> cases digit

theorem zeros (count : Nat) : IsProtected (List.replicate count '0') := by
  intro character member
  rw [List.eq_of_mem_replicate member]
  decide

end IsProtected

theorem Filter.isProtected_entity (character : Char) :
    IsProtected (entity character) := by
  unfold entity
  split
  next => decide
  next => decide
  next => decide
  next => decide
  next noTag noEnd noQuote =>
    intro other member
    cases List.mem_singleton.mp member
    simp_all

theorem Filter.isProtected_protect (text : List Char) :
    IsProtected (protect text) := by
  intro character member
  obtain ⟨source, -, inside⟩ := List.mem_flatMap.mp member
  exact isProtected_entity source character inside

/-! ## Printed numbers -/

namespace Number

theorem isProtected_naturalText (number : Nat) :
    IsProtected (naturalText number) :=
  .of_digits fun _ => isAsciiDigit_of_mem_naturalText number

theorem isProtected_integerText (number : Int) :
    IsProtected (integerText number) := by
  cases number with
  | ofNat number => exact isProtected_naturalText number
  | negSucc number =>
      have sign : IsProtected ['-'] := by decide
      exact sign.append (isProtected_naturalText (number + 1))

theorem Decimal.isProtected_digits_shortest (tie : Tie) (place : Nat) :
    IsProtected (shortest tie place).digits := by
  unfold shortest
  dsimp only
  generalize pointOf (Binary64.units place) = point
  cases found :
    (List.range 17).findSome? fun length =>
      ofLength? tie place point (length + 1) with
  | none => exact (by decide : IsProtected ['0'])
  | some decimal =>
      obtain ⟨length, -, computed⟩ := List.exists_of_findSome?_eq_some found
      obtain ⟨coefficient, -, rfl⟩ := Option.map_eq_some_iff.mp computed
      refine (isProtected_naturalText coefficient).of_subset ?_
      intro digit member
      exact List.mem_reverse.mp
        ((List.dropWhile_sublist _).subset (List.mem_reverse.mp member))

theorem Decimal.isProtected_positional {decimal : Decimal}
    (isProtected : IsProtected decimal.digits) (pointZero : Bool) :
    IsProtected (decimal.positional pointZero) := by
  obtain ⟨digits, point⟩ := decimal
  have start : IsProtected ['0', '.'] := by decide
  have dot : IsProtected ['.'] := by decide
  have noDigits : IsProtected [] := by decide
  have ending : IsProtected ['.', '0'] := by decide
  unfold positional
  dsimp only
  split
  · exact (start.append (.zeros _)).append isProtected
  · split
    · refine (isProtected.append (.zeros _)).append ?_
      split
      · exact ending
      · exact noDigits
    · exact (isProtected.of_subset (List.take_subset _ _)).append
        (dot.append (isProtected.of_subset (List.drop_subset _ _)))

theorem Layout.isProtected_write_plain (number : Binary64) :
    IsProtected (Layout.plain.write number) := by
  cases number with
  | nan => exact (by decide : IsProtected ['N', 'a', 'N'])
  | signed negative place =>
      have sign : IsProtected (if negative then ['-'] else []) := by
        cases negative <;> decide
      refine sign.append ?_
      split
      · decide
      · unfold magnitude
        split
        · decide
        · exact Decimal.isProtected_positional
            (Decimal.isProtected_digits_shortest _ _) _

end Number

theorem Table.get?_mapValues {α β : Type} (change : α → β) (table : Table α)
    (name : String) :
    get? (table.map fun (known, entry) => (known, change entry)) name =
      (get? table name).map change := by
  induction table with
  | nil => rfl
  | cons entry table induction =>
      obtain ⟨known, value⟩ := entry
      rw [get?] at induction ⊢
      rw [List.map_cons, List.lookup_cons, get?, List.lookup_cons, induction]
      cases name == known <;> rfl

namespace Value

/-! ## Changed texts -/

mutual

/-- A value whose texts are changed, at any depth. -/
def withTexts (change : String → String) : Value → Value
  | text content => text (change content)
  | list items => list (itemsWithTexts change items)
  | map entries => map (entriesWithTexts change entries)
  | value => value

/-- Items whose texts are changed. -/
def itemsWithTexts (change : String → String) : List Value → List Value
  | [] => []
  | item :: items => withTexts change item :: itemsWithTexts change items

/-- Entries whose texts are changed, under the same names. -/
def entriesWithTexts (change : String → String) :
    List (String × Value) → List (String × Value)
  | [] => []
  | (name, item) :: entries =>
    (name, withTexts change item) :: entriesWithTexts change entries

end

variable (change : String → String)

theorem itemsWithTexts_eq_map (items : List Value) :
    itemsWithTexts change items = items.map (withTexts change) := by
  induction items with
  | nil => rfl
  | cons item items induction => rw [itemsWithTexts, induction, List.map_cons]

theorem entriesWithTexts_eq_map (entries : List (String × Value)) :
    entriesWithTexts change entries =
      entries.map fun (name, item) => (name, withTexts change item) := by
  induction entries with
  | nil => rfl
  | cons entry entries induction =>
      obtain ⟨name, item⟩ := entry
      rw [entriesWithTexts, induction, List.map_cons]

theorem getD_map_withTexts (found : Option Value) :
    (found.map (withTexts change)).getD null =
      withTexts change (found.getD null) := by
  cases found <;> rfl

/-- What is selected from a changed value is changed. -/
theorem subscript_withTexts (value key : Value) :
    (withTexts change value).subscript key =
      withTexts change (value.subscript key) := by
  cases value with
  | list items =>
      rw [withTexts, subscript, subscript, itemsWithTexts_eq_map,
        ← getD_map_withTexts]
      cases key.index? with
      | none => rfl
      | some place => simp
  | map entries =>
      rw [withTexts, subscript, subscript, entriesWithTexts_eq_map,
        Table.get?_mapValues, getD_map_withTexts]
  | _ => rfl

section

variable {change} {ε : Type} {filter : String → Except ε Value}

mutual

/-- Applying a function to every text changes the texts and nothing else. -/
theorem mapTexts_eq_ok
    (changes : ∀ content, filter content = .ok (.text (change content)))
    (value : Value) : mapTexts filter value = .ok (withTexts change value) := by
  match value with
  | text content => exact changes content
  | list items =>
    rw [mapTexts, mapItemTexts_eq_ok changes items, withTexts, Except.map]
  | map entries =>
    rw [mapTexts, mapEntryTexts_eq_ok changes entries, withTexts, Except.map]
  | null | bool _ | int _ | float _ => rfl

theorem mapItemTexts_eq_ok
    (changes : ∀ content, filter content = .ok (.text (change content)))
    (items : List Value) :
    mapItemTexts filter items = .ok (itemsWithTexts change items) := by
  match items with
  | [] => rfl
  | item :: items =>
      rw [mapItemTexts, mapTexts_eq_ok changes item,
        mapItemTexts_eq_ok changes items, itemsWithTexts]
      rfl

theorem mapEntryTexts_eq_ok
    (changes : ∀ content, filter content = .ok (.text (change content)))
    (entries : List (String × Value)) :
    mapEntryTexts filter entries = .ok (entriesWithTexts change entries) := by
  match entries with
  | [] => rfl
  | (name, item) :: entries =>
      rw [mapEntryTexts, mapTexts_eq_ok changes item,
        mapEntryTexts_eq_ok changes entries, entriesWithTexts]
      rfl

end

end

/-! ## Protected values -/

/-- The text that protects a text. -/
def protectedText (content : String) : String :=
  String.ofList (Filter.protect content.toList)

/-- A value whose texts are protected. -/
def protect (value : Value) : Value :=
  withTexts protectedText value

mutual

theorem isProtected_print (value : Value) :
    IsProtected (print (protect value)) := by
  match value with
  | null | bool false => exact (by decide : IsProtected [])
  | bool true => exact (by decide : IsProtected ['1'])
  | int number => exact Number.isProtected_integerText number
  | float number => exact Number.Layout.isProtected_write_plain number
  | text content =>
      have printed :
          print (protect (text content)) = Filter.protect content.toList :=
        String.toList_ofList
      rw [printed]
      exact Filter.isProtected_protect _
  | list items => exact isProtected_printItems items
  | map entries => exact isProtected_printEntries entries

theorem isProtected_printItems (items : List Value) :
    IsProtected (printItems (itemsWithTexts protectedText items)) := by
  have comma : IsProtected [',', ' '] := by decide
  match items with
  | [] => exact (by decide : IsProtected [])
  | [item] => exact isProtected_print item
  | item :: next :: items =>
      exact ((isProtected_print item).append comma).append
        (isProtected_printItems (next :: items))

theorem isProtected_printEntries (entries : List (String × Value)) :
    IsProtected (printEntries (entriesWithTexts protectedText entries)) := by
  have comma : IsProtected [',', ' '] := by decide
  match entries with
  | [] => exact (by decide : IsProtected [])
  | [(_, item)] => exact isProtected_print item
  | (_, item) :: next :: entries =>
      exact ((isProtected_print item).append comma).append
        (isProtected_printEntries (next :: entries))

end

end Value

/-! ## Rows of protected values -/

/-- Whether the item of a row is protected. -/
def Row.HasProtected (row : Row) : Prop :=
  ∃ item : Value, ∀ heap, row.get? heap "value" = some item.protect

theorem Row.exists_of_mem_ofItems {row : Row} {total place : Nat}
    {items : List (Value × Value)} (member : row ∈ ofItems total place items) :
    ∃ key item,
      (key, item) ∈ items ∧ ∀ heap, row.get? heap "value" = some item := by
  induction items generalizing place with
  | nil => cases member
  | cons entry items induction =>
      obtain ⟨key, item⟩ := entry
      rcases List.mem_cons.mp member with rfl | later
      · exact ⟨key, item, List.mem_cons_self, fun _ => rfl⟩
      · obtain ⟨key, item, inside, holds⟩ := induction later
        exact ⟨key, item, List.mem_cons_of_mem _ inside, holds⟩

theorem Row.hasProtected_of_mem_ofCollection {row : Row} {value : Value}
    (member : row ∈ ofCollection value.protect) : row.HasProtected := by
  cases value with
  | list items =>
      obtain ⟨_, _, inside, holds⟩ := exists_of_mem_ofItems member
      obtain ⟨⟨item, place⟩, indexed, same⟩ := List.mem_map.mp inside
      cases same
      have changed := List.fst_mem_of_mem_zipIdx indexed
      rw [Value.itemsWithTexts_eq_map] at changed
      obtain ⟨source, -, rfl⟩ := List.mem_map.mp changed
      exact ⟨source, holds⟩
  | map entries =>
      obtain ⟨_, _, inside, holds⟩ := exists_of_mem_ofItems member
      obtain ⟨⟨name, item⟩, changed, same⟩ := List.mem_map.mp inside
      cases same
      rw [Value.entriesWithTexts_eq_map] at changed
      obtain ⟨⟨_, source⟩, -, same⟩ := List.mem_map.mp changed
      cases same
      exact ⟨source, holds⟩
  | _ => cases member

end TemplateEngine
